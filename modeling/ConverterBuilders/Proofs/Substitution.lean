import ConverterBuilders.Proofs.References

/-!
# Replacing references at once

References are replaced one after the other, each wherever its text stands by then.  That is the same as
replacing all of them at once, as long as they do not get in each other's way: as long as no value brings
in a dollar sign or completes a reference with what stands in front of it, and no text of a reference is
the end of the text of a later one.

Main statements:

* `not_prefix_of_plain`: where no reference was read, replacing others makes none;
* `replaceAll_after`: replacing one more reference;
* `substitute_eq_atOnce`: references that are apart are replaced as if at once;
* `substitute_crossed`: others are not.
-/

namespace ConverterBuilders

open Text VariableReference

/-! ## Replacing and passing over -/

namespace Text

variable {pattern replacement : List Char}

theorem replaceFrom_eq_drop (skip : Nat) (cs : List Char) :
    replaceFrom pattern replacement skip cs = replaceAll pattern replacement (cs.drop skip) :=
  scan_eq_drop (fun _ => rfl) (fun _ _ _ => rfl) skip cs

/-- An occurrence in front is replaced. -/
theorem replaceAll_append_self (h : pattern ≠ []) (rest : List Char) :
    replaceAll pattern replacement (pattern ++ rest) =
      replacement ++ replaceAll pattern replacement rest := by
  obtain ⟨c, tail, rfl⟩ := List.exists_cons_of_ne_nil h
  have hfront : (c :: tail).isPrefixOf (c :: (tail ++ rest)) = true :=
    List.isPrefixOf_iff_prefix.2 (List.prefix_append (c :: tail) rest)
  rw [List.cons_append, replaceAll, replaceFrom, if_pos hfront, replaceFrom_eq_drop]
  simp

/-- A part in which no occurrence begins is passed over. -/
theorem replaceAll_append_of_not_prefix {front rest : List Char}
    (h : ∀ passed c left, front = passed ++ c :: left → ¬ pattern <+: c :: left ++ rest) :
    replaceAll pattern replacement (front ++ rest) =
      front ++ replaceAll pattern replacement rest := by
  induction front with
  | nil => rfl
  | cons c front ih =>
    have hhere : ¬ pattern.isPrefixOf (c :: (front ++ rest)) = true := fun hp =>
      h [] c front rfl (List.isPrefixOf_iff_prefix.1 hp)
    have hthere := ih fun passed d left he => h (c :: passed) d left (by rw [he]; rfl)
    rw [List.cons_append, replaceAll, replaceFrom, if_neg hhere, ← replaceAll, hthere,
      List.cons_append]

end Text

/-! ## References that are apart -/

def VariableReference.replacement (environment : Environment) (reference : VariableReference) :
    List Char :=
  (reference.value? environment).getD []

namespace Segment

/-- What a segment becomes when all references are replaced at once. -/
def replaced (environment : Environment) : Segment → List Char
  | plain c => [c]
  | reference found => found.replacement environment

/-- What a segment has become after some references were replaced. -/
def after (environment : Environment) (done : List VariableReference) : Segment → List Char
  | plain c => [c]
  | reference found => if found ∈ done then found.replacement environment else found.text

/-- Whether the values of some references make no reference with the character in front of them: each that
stands behind a dollar sign or a colon begins with a character that does not go on with one. -/
def Seamless (environment : Environment) (done : List VariableReference) (segments : List Segment) :
    Prop :=
  ∀ front c found back, segments = front ++ .plain c :: .reference found :: back → found ∈ done →
    c = '$' ∨ c = ':' →
      ∃ first, (found.replacement environment).head? = some first ∧ first ≠ '\x7b' ∧ first ≠ '-'

end Segment

/-- Whether the references of a text do not get in each other's way.  The last one never does, since there
is nothing to replace after it. -/
structure Environment.KeepsApart (environment : Environment) (text : String) : Prop where
  values : ∀ reference ∈ (VariableReference.all text.toList).dropLast,
    '$' ∉ reference.replacement environment
  texts : (VariableReference.all text.toList).Pairwise fun earlier later =>
    earlier.text <:+ later.text → earlier = later
  seams : Segment.Seamless environment (VariableReference.all text.toList).dropLast
    (Segment.all text.toList)

/-- A text with all its references replaced at once. -/
def Environment.atOnce (environment : Environment) (text : String) : String :=
  String.ofList ((Segment.all text.toList).flatMap (Segment.replaced environment))

namespace VariableReference

variable {reference other : VariableReference}

/-- Texts that go up to the first closing brace agree if one begins with the other. -/
theorem eq_of_closing {front back : List Char} (hf : closing ∉ front) (hb : closing ∉ back)
    {rest after : List Char} (h : front ++ closing :: rest = back ++ closing :: after) :
    front = back := by
  have htake := congrArg (List.takeWhile fun c => c ≠ closing) h
  rwa [takeWhile_open hf, takeWhile_open hb] at htake

/-- What is left of the text of a reference goes up to its closing brace. -/
theorem Shaped.exists_of_suffix (h : reference.Shaped) {front back : List Char} (hb : back ≠ [])
    (ht : reference.text = front ++ back) : ∃ inside, back = inside ++ [closing] ∧
      closing ∉ inside := by
  obtain ⟨inside, last, hl⟩ := (List.eq_nil_or_concat back).resolve_left hb
  rw [List.concat_eq_append] at hl
  rw [hl, text_eq, ← List.append_assoc] at ht
  obtain ⟨hinner, hlast⟩ := List.append_inj' ht rfl
  refine ⟨inside, by rw [hl, ← hlast], fun hm => ?_⟩
  have hmem : closing ∈ opening ++ reference.inner := hinner ▸ List.mem_append_right _ hm
  rcases List.mem_append.1 hmem with ho | hi
  · exact absurd ho (by decide)
  · exact h.inner_open hi

/-- A reference behind the beginning of a name would be part of the name. -/
theorem Shaped.exists_in_name (h : reference.Shaped) {front back : List Char}
    (hn : reference.name = front ++ back) (ho : other.Shaped) :
    ∃ whole : VariableReference, whole.Shaped ∧ whole.text = opening ++ front ++ other.text := by
  have hopen := h.name_open
  have hplain := h.name_plain
  rw [hn, List.mem_append, not_or] at hopen hplain
  refine ⟨⟨front ++ opening ++ other.name, other.default?⟩, ⟨?_, ?_, ?_, ho.default_open⟩, ?_⟩
  · exact List.append_ne_nil_of_right_ne_nil _ ho.name_ne_nil
  · simp only [List.mem_append, not_or]
    exact ⟨⟨hopen.1, by decide⟩, ho.name_open⟩
  · simp only [List.mem_append, not_or]
    exact ⟨⟨hplain.1, by decide⟩, ho.name_plain⟩
  · simp [text]

/-- A reference behind the beginning of a default would be part of the default. -/
theorem Shaped.exists_in_default (h : reference.Shaped) {front back : List Char}
    (hd : reference.default? = some (front ++ back)) (ho : other.Shaped) :
    ∃ whole : VariableReference, whole.Shaped ∧
      whole.text = opening ++ reference.name ++ ':' :: '-' :: front ++ other.text := by
  have hopen := h.default_open _ hd
  rw [List.mem_append, not_or] at hopen
  refine ⟨⟨reference.name, some (front ++ opening ++ other.inner)⟩,
    ⟨h.name_ne_nil, h.name_open, h.name_plain, ?_⟩, ?_⟩
  · rintro default hdefault
    cases hdefault
    simp only [List.mem_append, not_or]
    exact ⟨⟨hopen.1, by decide⟩, ho.inner_open⟩
  · rw [text_eq other]
    simp [text]

/-- What stands in front of a part of the text of a reference, behind the opening. -/
theorem exists_of_text_eq {front back : List Char} {c : Char}
    (ht : reference.text = opening ++ front ++ c :: back) :
    ∃ left, reference.inner = front ++ left ∧ left ++ [closing] = c :: back := by
  rw [text_eq, List.append_assoc, List.append_assoc] at ht
  have hinner := List.append_cancel_left ht
  rcases List.append_eq_append_iff.1 hinner with ⟨passed, hfront, hclosing⟩ | ⟨left, hleft, hback⟩
  · cases passed with
    | nil => exact ⟨[], by rw [hfront, List.append_nil, List.append_nil], by rw [hclosing]; rfl⟩
    | cons first passed => simp at hclosing
  · exact ⟨left, hleft, hback.symm⟩

/-- **A reference behind the beginning of another would belong to it**, unless the beginning ends in the
dollar sign or in the colon. -/
theorem Shaped.front_cases (h : reference.Shaped) {front back : List Char} {c : Char} (hf : front ≠ [])
    (ht : reference.text = front ++ c :: back) :
    (front = ['$'] ∧ c = '\x7b') ∨ (∃ before, front = before ++ [':'] ∧ c = '-') ∨
      ∀ other : VariableReference, other.Shaped →
        ∃ whole : VariableReference, whole.Shaped ∧ whole.text = front ++ other.text := by
  rcases front with _ | ⟨sign, _ | ⟨brace, front⟩⟩
  · exact absurd rfl hf
  · rw [text_eq] at ht
    obtain ⟨rfl, hrest⟩ := List.cons_eq_cons.1 ht
    exact .inl ⟨rfl, (List.cons_eq_cons.1 hrest).1.symm⟩
  · have hopening : sign :: brace :: front = opening ++ front := by
      have hhead := congrArg (List.take 2) ht
      rw [text_eq] at hhead
      simp only [opening, List.cons_append, List.nil_append, List.take_succ_cons, List.take_zero,
        List.cons.injEq, and_true] at hhead
      rw [← hhead.1, ← hhead.2]
      rfl
    rw [hopening] at ht ⊢
    obtain ⟨left, hinner, hleft⟩ := exists_of_text_eq ht
    have hname : ∀ rest, reference.name = front ++ rest → ∀ other : VariableReference, other.Shaped →
        ∃ whole : VariableReference, whole.Shaped ∧ whole.text = opening ++ front ++ other.text :=
      fun rest hn other ho => h.exists_in_name hn ho
    rw [inner] at hinner
    rcases List.append_eq_append_iff.1 hinner with ⟨passed, hfront, htail⟩ | ⟨rest, hn, -⟩
    · cases hd : reference.default? with
      | none =>
        rw [hd] at htail
        obtain ⟨rfl, -⟩ := List.append_eq_nil_iff.1 htail.symm
        refine .inr (.inr (hname [] ?_))
        rw [hfront, List.append_nil, List.append_nil]
      | some default =>
        rw [hd] at htail
        rcases passed with _ | ⟨colon, _ | ⟨dash, passed⟩⟩
        · refine .inr (.inr (hname [] ?_))
          rw [hfront, List.append_nil, List.append_nil]
        · obtain ⟨rfl, hrest⟩ : colon = ':' ∧ left = '-' :: default := by
            obtain ⟨hcolon, hrest⟩ := List.cons_eq_cons.1 htail
            exact ⟨hcolon.symm, hrest.symm⟩
          rw [hrest] at hleft
          refine .inr (.inl ⟨opening ++ reference.name, ?_, (List.cons_eq_cons.1 hleft).1.symm⟩)
          rw [hfront, List.append_assoc]
        · obtain ⟨rfl, hrest⟩ := List.cons_eq_cons.1 htail
          obtain ⟨rfl, hdefault⟩ := List.cons_eq_cons.1 hrest
          refine .inr (.inr fun other ho => ?_)
          rw [hfront, ← List.append_assoc]
          exact h.exists_in_default (hd.trans (congrArg some hdefault)) ho
    · exact .inr (.inr (hname rest hn))

end VariableReference

namespace Segment

variable {environment : Environment} {done : List VariableReference} {reference : VariableReference}
  {segments : List Segment} {cs : List Char}

/-- A reference that begins inside the text of another, or of what is left of it, is the rest of it. -/
theorem eq_of_prefix_text {other : VariableReference} (hr : reference.Shaped) (ho : other.Shaped)
    {front back passed left rest : List Char} (hb : back ≠ []) (hl : left ≠ [])
    (ht : reference.text = front ++ back) (hs : other.text = passed ++ left)
    (hp : back <+: left ++ rest) : back = left := by
  obtain ⟨inside, rfl, hinside⟩ := hr.exists_of_suffix hb ht
  obtain ⟨within, rfl, hwithin⟩ := ho.exists_of_suffix hl hs
  obtain ⟨behind, hbehind⟩ := hp
  rw [List.append_assoc, List.append_assoc] at hbehind
  rw [eq_of_closing hinside hwithin hbehind]

/-- **Where no reference was read, replacing others makes none.** -/
theorem not_prefix_of_plain (hr : reference.Shaped) (hreads : Reads segments cs) {front back : List Char}
    (hf : front ≠ []) (hno : at? (front ++ cs) = none)
    (hseams : Seamless environment done (front.map .plain ++ segments))
    (ht : reference.text = front ++ back) : ¬ back <+: segments.flatMap (after environment done) := by
  -- the beginning of a text grows until it is whole or meets a reference that was read
  induction hreads generalizing front back with
  | nil =>
    intro hp
    rw [List.prefix_nil.1 hp, List.append_nil] at ht
    rw [← ht, at?_text_append hr] at hno
    cases hno
  | @plain c segments cs hplain hrest ih =>
    cases back with
    | nil =>
      rw [List.append_nil] at ht
      rw [← ht, at?_text_append hr] at hno
      cases hno
    | cons first back =>
      rw [List.flatMap_cons, after, List.singleton_append, List.cons_prefix_cons]
      rintro ⟨rfl, hp⟩
      refine ih (List.append_ne_nil_of_left_ne_nil hf [first]) ?_ ?_ ?_ hp
      · rw [List.append_assoc]
        exact hno
      · rw [List.map_append, List.append_assoc]
        exact hseams
      · rw [List.append_assoc]
        exact ht
  | @reference found segments cs hshaped hrest ih =>
    cases back with
    | nil =>
      rw [List.append_nil] at ht
      rw [← ht, at?_text_append hr] at hno
      cases hno
    | cons first back =>
      rw [List.flatMap_cons, after]
      split
      · rename_i hdone
        intro hp
        have hseam : ∀ before c, front = before ++ [c] → c = '$' ∨ c = ':' →
            first ≠ '\x7b' ∧ first ≠ '-' := by
          intro before c he hc
          obtain ⟨head, hhead, hplain⟩ := hseams (before.map .plain) c found segments
            (by simp [he]) hdone hc
          obtain ⟨rest, hvalue⟩ := List.head?_eq_some_iff.1 hhead
          rw [hvalue, List.cons_append, List.cons_prefix_cons] at hp
          rw [hp.1]
          exact hplain
        rcases hr.front_cases hf ht with ⟨he, hbrace⟩ | ⟨before, he, hdash⟩ | hwhole
        · exact (hseam [] '$' he (.inl rfl)).1 hbrace
        · exact (hseam before ':' he (.inr rfl)).2 hdash
        · obtain ⟨whole, hw, htext⟩ := hwhole found hshaped
          rw [← List.append_assoc, ← htext, at?_text_append hw] at hno
          cases hno
      · intro hp
        have hrest := eq_of_prefix_text hr hshaped (List.cons_ne_nil _ _) (text_ne_nil found) ht
          (List.nil_append _).symm hp
        rw [hrest] at ht
        rw [← List.append_assoc, ← ht, at?_text_append hr] at hno
        cases hno

theorem Seamless.tail {segment : Segment} (h : Seamless environment done (segment :: segments)) :
    Seamless environment done segments := fun front c found back he =>
  h (segment :: front) c found back (by rw [he]; rfl)

/-- A text begins with a reference only at a dollar sign. -/
theorem not_prefix_of_ne {c : Char} (hc : c ≠ '$') (rest : List Char) :
    ¬ reference.text <+: c :: rest := by
  rw [VariableReference.text_eq]
  intro hp
  exact hc (List.cons_prefix_cons.1 hp).1.symm

/-- **Replacing one more reference**, whose text is not the end of one that is left. -/
theorem replaceAll_after (hr : reference.Shaped) (hreads : Reads segments cs)
    (hvalues : ∀ found ∈ done, '$' ∉ found.replacement environment)
    (htexts : ∀ found, .reference found ∈ segments → found ∉ done → reference.text <:+ found.text →
      reference = found)
    (hseams : Seamless environment done segments) :
    replaceAll reference.text (reference.replacement environment)
        (segments.flatMap (after environment done)) =
      segments.flatMap (after environment (done ++ [reference])) := by
  induction hreads with
  | nil => rfl
  | @plain c segments cs hplain hrest ih =>
    have hnext := ih (fun found hm => htexts found (List.mem_cons_of_mem _ hm)) hseams.tail
    rw [List.flatMap_cons, List.flatMap_cons, ← hnext]
    refine replaceAll_append_of_not_prefix fun passed d left he hp => ?_
    obtain ⟨rfl, rfl, rfl⟩ : passed = [] ∧ d = c ∧ left = [] := by
      cases passed with
      | nil =>
        obtain ⟨rfl, rfl⟩ := List.cons_eq_cons.1 he
        exact ⟨rfl, rfl, rfl⟩
      | cons first passed => simp [after] at he
    have hd : d = '$' := by
      by_contra hne
      exact not_prefix_of_ne hne _ hp
    subst hd
    have htext : reference.text = ['$'] ++ ('\x7b' :: (reference.inner ++ [closing])) := by
      rw [VariableReference.text_eq]
      rfl
    rw [htext] at hp
    have hback := (List.cons_prefix_cons.1 hp).2
    have hfront : ['$'] ≠ [] := List.cons_ne_nil _ _
    exact not_prefix_of_plain hr hrest hfront hplain hseams htext hback
  | @reference found segments cs hshaped hrest ih =>
    have hnext := ih (fun found hm => htexts found (List.mem_cons_of_mem _ hm)) hseams.tail
    rw [List.flatMap_cons, List.flatMap_cons, ← hnext]
    by_cases hdone : found ∈ done
    · have hvalue := hvalues found hdone
      rw [after, after, if_pos hdone, if_pos (List.mem_append_left _ hdone)]
      refine replaceAll_append_of_not_prefix fun passed d left he => not_prefix_of_ne ?_ _
      rintro rfl
      exact hvalue (by simp [he])
    · rw [after, if_neg hdone]
      by_cases hsame : reference = found
      · subst hsame
        rw [after, if_pos (by simp)]
        exact replaceAll_append_self (text_ne_nil reference) _
      · have hleft : found ∉ done ++ [reference] := by
          simp only [List.mem_append, List.mem_singleton, not_or]
          exact ⟨hdone, fun he => hsame he.symm⟩
        rw [after, if_neg hleft]
        refine replaceAll_append_of_not_prefix fun passed d left he hp => hsame ?_
        have hrest := eq_of_prefix_text hr hshaped (text_ne_nil reference) (List.cons_ne_nil _ _)
          (List.nil_append _).symm he hp
        refine htexts found (List.mem_cons_self ..) hdone ?_
        rw [hrest, he]
        exact List.suffix_append passed _

/-- The references that were read can stand in a text. -/
theorem Reads.shaped (h : Reads segments cs) {found : VariableReference}
    (hm : .reference found ∈ segments) : found.Shaped := by
  induction h with
  | nil => cases hm
  | plain _ _ ih =>
    rcases List.mem_cons.1 hm with he | hm
    · cases he
    · exact ih hm
  | reference hshaped _ ih =>
    rcases List.mem_cons.1 hm with he | hm
    · cases he
      exact hshaped
    · exact ih hm

theorem mem_all_iff {found : VariableReference} :
    .reference found ∈ all cs ↔ found ∈ VariableReference.all cs := by
  rw [← references_all, List.mem_filterMap]
  constructor
  · exact fun hm => ⟨_, hm, rfl⟩
  · rintro ⟨segment, hm, he⟩
    cases segment with
    | plain c => cases he
    | reference other =>
      cases he
      exact hm

theorem after_nil (segments : List Segment) :
    segments.flatMap (after environment []) = segments.flatMap text := by
  refine List.flatMap_congr fun segment _ => ?_
  cases segment with
  | plain c => rfl
  | reference found => rw [after, if_neg List.not_mem_nil, text]

end Segment

namespace Environment

variable {environment : Environment} {text : String}

/-- Replacing the references that are left, when those before them have been replaced. -/
theorem replaceEach_after (h : environment.KeepsApart text) {done rest : List VariableReference}
    (hall : VariableReference.all text.toList = done ++ rest)
    (hset : ∀ reference ∈ rest, (reference.value? environment).isSome = true) :
    environment.replaceEach rest ((Segment.all text.toList).flatMap (Segment.after environment done)) =
      .ok ((Segment.all text.toList).flatMap (Segment.after environment (done ++ rest))) := by
  induction rest generalizing done with
  | nil => rw [replaceEach, List.append_nil]
  | cons reference rest ih =>
    obtain ⟨value, hvalue⟩ := Option.isSome_iff_exists.1 (hset reference (List.mem_cons_self ..))
    have hreplacement : reference.replacement environment = value := by
      rw [VariableReference.replacement, hvalue, Option.getD_some]
    have hdone : ∀ found ∈ done, found ∈ (VariableReference.all text.toList).dropLast := by
      intro found hm
      rw [hall, List.dropLast_append_of_ne_nil (List.cons_ne_nil _ _)]
      exact List.mem_append_left _ hm
    have hreads := Segment.reads_all text.toList
    have hshaped : reference.Shaped := by
      refine hreads.shaped (Segment.mem_all_iff.2 ?_)
      rw [hall]
      simp
    have htexts : ∀ found, .reference found ∈ Segment.all text.toList → found ∉ done →
        reference.text <:+ found.text → reference = found := by
      intro found hm hnew hsuffix
      have hpairs := h.texts
      have hfound := Segment.mem_all_iff.1 hm
      rw [hall] at hpairs hfound
      rcases List.mem_cons.1 ((List.mem_append.1 hfound).resolve_left hnew) with he | hlater
      · exact he.symm
      · exact (List.pairwise_cons.1 (List.pairwise_append.1 hpairs).2.1).1 found hlater hsuffix
    have hseams : Segment.Seamless environment done (Segment.all text.toList) :=
      fun front c found back he hm => h.seams front c found back he (hdone found hm)
    have hstep := Segment.replaceAll_after hshaped hreads (fun found hm => h.values found (hdone found hm))
      htexts hseams
    rw [replaceEach, hvalue]
    simp only
    rw [← hreplacement, hstep, ih (by rw [hall]; simp)
      (fun other ho => hset other (List.mem_cons_of_mem _ ho)), List.append_assoc]
    rfl

/-- **References that do not get in each other's way are replaced as if at once.** -/
theorem substitute_eq_atOnce (h : environment.KeepsApart text)
    (hset : ∀ reference ∈ VariableReference.all text.toList,
      (reference.value? environment).isSome = true) :
    environment.substitute text = .ok (environment.atOnce text) := by
  have hnone : (Segment.all text.toList).flatMap (Segment.after environment []) = text.toList := by
    rw [Segment.after_nil, (Segment.reads_all text.toList).text_eq]
  have hall : (Segment.all text.toList).flatMap
      (Segment.after environment (VariableReference.all text.toList)) =
        (Segment.all text.toList).flatMap (Segment.replaced environment) := by
    refine List.flatMap_congr fun segment hm => ?_
    cases segment with
    | plain c => rfl
    | reference found => exact if_pos (Segment.mem_all_iff.1 hm)
  have hrun := replaceEach_after h (List.nil_append _).symm hset
  rw [hnone, List.nil_append, hall] at hrun
  rw [substitute, hrun]
  rfl

/-- Values that begin with a character that goes on with no reference can stand behind anything. -/
theorem seamless_of_values {done : List VariableReference}
    (h : ∀ found ∈ done, ∃ first, (found.replacement environment).head? = some first ∧
      first ≠ '\x7b' ∧ first ≠ '-') (segments : List Segment) :
    Segment.Seamless environment done segments := fun _ _ found _ _ hm _ => h found hm

/-- An environment with the value of one variable and not of another. -/
def home : Environment := OrderedMap.ofList [("HOME", "/root")]

/-- A path with a variable twice, a default, and a dollar sign in front of a variable. -/
theorem substitute_eq_atOnce_home :
    home.substitute "$$\x7bHOME\x7d/$\x7bSUB:-idx\x7d:$\x7bHOME\x7d" = .ok "$/root/idx:/root" := by
  have hall : VariableReference.all "$$\x7bHOME\x7d/$\x7bSUB:-idx\x7d:$\x7bHOME\x7d".toList =
      [⟨"HOME".toList, none⟩, ⟨"SUB".toList, some "idx".toList⟩, ⟨"HOME".toList, none⟩] := by decide
  have hapart : home.KeepsApart "$$\x7bHOME\x7d/$\x7bSUB:-idx\x7d:$\x7bHOME\x7d" := by
    constructor
    · rw [hall]
      decide
    · rw [hall]
      decide
    · refine seamless_of_values ?_ _
      rw [hall]
      simp only [List.dropLast, List.forall_mem_cons]
      exact ⟨⟨'/', by decide, by decide, by decide⟩, ⟨'i', by decide, by decide, by decide⟩,
        fun _ h => absurd h List.not_mem_nil⟩
  rw [substitute_eq_atOnce hapart (by rw [hall]; decide)]
  with_unfolding_all rfl

/-- An environment in which the value of one variable refers to another. -/
def crossed : Environment := OrderedMap.ofList [("A", "$\x7bB\x7d"), ("B", "x")]

/-- A reference that a value brings in is replaced as well, if the text has it already. -/
theorem substitute_crossed :
    (∀ reference ∈ VariableReference.all "$\x7bA\x7d$\x7bB\x7d".toList,
      (reference.value? crossed).isSome = true) ∧
    crossed.atOnce "$\x7bA\x7d$\x7bB\x7d" = "$\x7bB\x7dx" ∧
    crossed.substitute "$\x7bA\x7d$\x7bB\x7d" = .ok "xx" := by
  refine ⟨by decide, ?_, ?_⟩
  · with_unfolding_all rfl
  · with_unfolding_all rfl

end Environment

end ConverterBuilders
