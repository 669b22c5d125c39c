import ConverterBuilders.Configuration.Substitution
import Mathlib.Data.List.Basic

/-!
# The references of a text

A text with references is read as a list of segments: characters that belong to no reference, and
references.  A reference stands in front of a text exactly if its own text does, and ends at the first
closing brace.

Main statements:

* `at?_eq_some_iff`: where a reference stands;
* `reads_all`: every text is read as segments, which are the text again;
* `references_all`: the references among the segments.
-/

namespace ConverterBuilders

open Text

namespace VariableReference

/-! ## The shape of references -/

/-- Whether a reference can stand in a text: a name of some characters, none of them a colon or a closing
brace, and no closing brace in the default. -/
structure Shaped (reference : VariableReference) : Prop where
  name_ne_nil : reference.name ≠ []
  name_open : closing ∉ reference.name
  name_plain : ':' ∉ reference.name
  default_open : ∀ default, reference.default? = some default → closing ∉ default

/-- The characters between the opening and the closing of a reference. -/
def inner (reference : VariableReference) : List Char :=
  reference.name ++ match reference.default? with
    | some default => ':' :: '-' :: default
    | none => []

variable {reference other : VariableReference} {cs : List Char}

theorem text_eq (reference : VariableReference) :
    reference.text = opening ++ reference.inner ++ [closing] := by
  cases hd : reference.default? <;> simp [text, inner, hd]

theorem Shaped.inner_open (h : reference.Shaped) : closing ∉ reference.inner := by
  rw [inner, List.mem_append, not_or]
  refine ⟨h.name_open, ?_⟩
  cases hd : reference.default? with
  | none => simp
  | some default => simpa [closing] using h.default_open default hd

/-- The reference with a name by what stands behind the name. -/
def ofTail? (name : List Char) : List Char → Option VariableReference
  | ':' :: '-' :: rest =>
    let default := rest.takeWhile fun c => c ≠ closing
    if default.length < rest.length then some ⟨name, some default⟩ else none
  | c :: _ => if c = closing then some ⟨name, none⟩ else none
  | [] => none

/-- A name goes up to the first colon or closing brace. -/
theorem ofName?_eq {name tail : List Char} (hne : name ≠ [])
    (htake : (name ++ tail).takeWhile (fun c => c ≠ closing && c ≠ ':') = name) :
    ofName? (name ++ tail) = ofTail? name tail := by
  have hdrop : (name ++ tail).drop name.length = tail := List.drop_left
  obtain ⟨c, rest, rfl⟩ := List.exists_cons_of_ne_nil hne
  rw [ofName?, htake]
  simp only [hdrop]
  rfl

theorem Shaped.takeWhile_name (h : reference.Shaped) {c : Char} (hc : c = closing ∨ c = ':')
    (rest : List Char) : (reference.name ++ c :: rest).takeWhile
      (fun c => c ≠ closing && c ≠ ':') = reference.name := by
  have hname : ∀ c ∈ reference.name, (c ≠ closing && c ≠ ':') = true := by
    intro c hc
    have hclosing : c ≠ closing := fun he => h.name_open (he ▸ hc)
    have hcolon : c ≠ ':' := fun he => h.name_plain (he ▸ hc)
    simp [hclosing, hcolon]
  rw [List.takeWhile_append_of_pos hname, List.takeWhile_cons_of_neg, List.append_nil]
  rcases hc with rfl | rfl <;> decide

theorem takeWhile_open {default : List Char} (h : closing ∉ default) (rest : List Char) :
    (default ++ closing :: rest).takeWhile (fun c => c ≠ closing) = default := by
  rw [List.takeWhile_append_of_pos, List.takeWhile_cons_of_neg (by simp), List.append_nil]
  intro c hc
  have hclosing : c ≠ closing := fun he => h (he ▸ hc)
  simp [hclosing]

/-- A reference stands in front of what begins with its text. -/
theorem at?_text_append (h : reference.Shaped) (rest : List Char) :
    at? (reference.text ++ rest) = some reference := by
  cases hd : reference.default? with
  | none =>
    have htext : reference.text ++ rest = '$' :: '\x7b' :: (reference.name ++ closing :: rest) := by
      simp [text, opening, hd]
    have htail : ofTail? reference.name (closing :: rest) = some ⟨reference.name, none⟩ := rfl
    rw [htext, at?, ofName?_eq h.name_ne_nil (h.takeWhile_name (.inl rfl) rest), htail, ← hd]
  | some default =>
    have htext : reference.text ++ rest =
        '$' :: '\x7b' :: (reference.name ++ ':' :: '-' :: (default ++ closing :: rest)) := by
      simp [text, opening, hd]
    rw [htext, at?, ofName?_eq h.name_ne_nil (h.takeWhile_name (.inr rfl) _), ofTail?,
      takeWhile_open (h.default_open default hd)]
    simp [← hd]

/-- What stands behind a name that is a reference. -/
theorem exists_of_ofTail? {name tail : List Char} (h : ofTail? name tail = some reference) :
    reference.name = name ∧
      (∀ default, reference.default? = some default → closing ∉ default) ∧
      ∃ rest, name ++ tail = reference.inner ++ closing :: rest := by
  unfold ofTail? at h
  split at h
  · rename_i rest
    have hcut := List.takeWhile_append_dropWhile (p := fun c => c ≠ closing) (l := rest)
    simp only [Option.ite_none_right_eq_some, Option.some.injEq] at h
    obtain ⟨hlength, rfl⟩ := h
    have hopen : closing ∉ rest.takeWhile (fun c => c ≠ closing) := not_mem_takeWhile_ne closing rest
    cases hdrop : rest.dropWhile (fun c => c ≠ closing) with
    | nil =>
      rw [hdrop, List.append_nil] at hcut
      rw [hcut] at hlength
      exact absurd hlength (Nat.lt_irrefl _)
    | cons c after =>
      have hc : c = closing := by
        have hhead := List.head?_dropWhile_not (fun c => c ≠ closing) rest
        rw [hdrop] at hhead
        simpa using hhead
      subst hc
      refine ⟨rfl, fun default hd => ?_, after, ?_⟩
      · cases hd
        exact hopen
      · rw [hdrop] at hcut
        nth_rewrite 1 [← hcut]
        simp [inner]
  · split at h
    · rename_i c rest hno hc
      cases h
      refine ⟨rfl, fun default hd => ?_, rest, ?_⟩
      · cases hd
      · simp [inner, hc]
    · cases h
  · cases h

theorem exists_of_ofName? (h : ofName? cs = some reference) :
    reference.Shaped ∧ ∃ rest, cs = reference.inner ++ closing :: rest := by
  have hcut := List.takeWhile_append_dropWhile (p := fun c => c ≠ closing && c ≠ ':') (l := cs)
  have hname : ∀ c ∈ cs.takeWhile (fun c => c ≠ closing && c ≠ ':'), c ≠ closing ∧ c ≠ ':' := by
    intro c hc
    simpa using List.all_eq_true.1 List.all_takeWhile c hc
  generalize hn : cs.takeWhile (fun c => c ≠ closing && c ≠ ':') = name at hcut hname
  have hne : name ≠ [] := by
    rintro rfl
    rw [ofName?, hn] at h
    cases h
  rw [← hcut] at h hn
  rw [ofName?_eq hne hn] at h
  obtain ⟨hreference, hdefault, rest, hrest⟩ := exists_of_ofTail? h
  rw [← hcut]
  refine ⟨⟨?_, ?_, ?_, hdefault⟩, rest, hrest⟩
  · rwa [hreference]
  · rw [hreference]
    exact fun hm => (hname _ hm).1 rfl
  · rw [hreference]
    exact fun hm => (hname _ hm).2 rfl

/-- **A reference stands in front of a text exactly if the text begins with its own.** -/
theorem at?_eq_some_iff :
    at? cs = some reference ↔ reference.Shaped ∧ ∃ rest, cs = reference.text ++ rest := by
  constructor
  · intro h
    unfold at? at h
    split at h
    · obtain ⟨hshaped, rest, hrest⟩ := exists_of_ofName? h
      refine ⟨hshaped, rest, ?_⟩
      rw [text_eq, hrest]
      simp [opening]
    · cases h
  · rintro ⟨hshaped, rest, rfl⟩
    exact at?_text_append hshaped rest

end VariableReference

open VariableReference

/-! ## Segments -/

/-- A character that belongs to no reference, or a reference. -/
inductive Segment where
  | plain (c : Char)
  | reference (reference : VariableReference)
  deriving DecidableEq

namespace Segment

def text : Segment → List Char
  | plain c => [c]
  | reference found => found.text

/-- The reference that a segment is, if it is one. -/
def reference? : Segment → Option VariableReference
  | plain _ => none
  | reference found => some found

/-- The segments of a text from left to right, after passing over `skip` characters. -/
def allFrom : Nat → List Char → List Segment
  | _, [] => []
  | skip + 1, _ :: cs => allFrom skip cs
  | 0, c :: cs =>
    match at? (c :: cs) with
    | some found => reference found :: allFrom (found.text.length - 1) cs
    | none => plain c :: allFrom 0 cs

def all (cs : List Char) : List Segment := allFrom 0 cs

/-- Whether segments are how a text is read: no reference stands where a plain character is read. -/
inductive Reads : List Segment → List Char → Prop
  | nil : Reads [] []
  | plain {c : Char} {segments : List Segment} {cs : List Char} (hno : at? (c :: cs) = none)
    (hrest : Reads segments cs) : Reads (.plain c :: segments) (c :: cs)
  | reference {found : VariableReference} {segments : List Segment} {cs : List Char}
    (hshaped : found.Shaped) (hrest : Reads segments cs) :
    Reads (.reference found :: segments) (found.text ++ cs)

theorem allFrom_eq_drop (skip : Nat) (cs : List Char) : allFrom skip cs = all (cs.drop skip) :=
  scan_eq_drop (fun _ => rfl) (fun _ _ _ => rfl) skip cs

theorem text_ne_nil (reference : VariableReference) : reference.text ≠ [] := by
  rw [VariableReference.text_eq]
  simp [opening]

/-- **Every text is read as its segments.** -/
theorem reads_all (cs : List Char) : Reads (all cs) cs := by
  -- a reference takes more than one character away, so the length decides
  induction hn : cs.length using Nat.strongRecOn generalizing cs with
  | ind n ih =>
    cases cs with
    | nil => exact .nil
    | cons c cs =>
      rw [all, allFrom]
      cases hat : at? (c :: cs) with
      | none => exact .plain hat (ih cs.length (by simp [← hn]) cs rfl)
      | some found =>
        obtain ⟨hshaped, rest, hrest⟩ := at?_eq_some_iff.1 hat
        have hdrop : cs.drop (found.text.length - 1) = rest := by
          obtain ⟨first, tail, ht⟩ := List.exists_cons_of_ne_nil (text_ne_nil found)
          rw [ht] at hrest ⊢
          rw [(List.cons_eq_cons.1 hrest).2]
          simp
        have hlength : rest.length < n := by
          rw [← hn, hrest, List.length_append]
          have := List.length_pos_iff.2 (text_ne_nil found)
          omega
        simp only [allFrom_eq_drop, hdrop]
        rw [hrest]
        exact .reference hshaped (ih _ hlength rest rfl)

theorem Reads.text_eq {segments : List Segment} {cs : List Char} (h : Reads segments cs) :
    segments.flatMap text = cs := by
  induction h with
  | nil => rfl
  | plain _ _ ih => rw [List.flatMap_cons, ih]; rfl
  | reference _ _ ih => rw [List.flatMap_cons, ih]; rfl

/-- **The references among the segments are those of the text.** -/
theorem references_all (cs : List Char) :
    (all cs).filterMap reference? = VariableReference.all cs := by
  have hfrom : ∀ skip, (allFrom skip cs).filterMap reference? = VariableReference.allFrom skip cs := by
    induction cs with
    | nil => exact fun skip => by rw [allFrom, VariableReference.allFrom]; rfl
    | cons c cs ih =>
      intro skip
      cases skip with
      | succ skip => exact ih skip
      | zero =>
        rw [allFrom, VariableReference.allFrom]
        cases at? (c :: cs) with
        | none =>
          rw [List.filterMap_cons_none rfl]
          exact ih 0
        | some found => exact congrArg (found :: ·) (ih (found.text.length - 1))
  exact hfrom 0

end Segment

end ConverterBuilders
