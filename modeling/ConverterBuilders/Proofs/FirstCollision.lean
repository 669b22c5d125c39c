import ConverterBuilders.Proofs.Filling

/-!
# The collision that is reported

The search for a collision remembers each identity that it has passed, with the name of its converter.  So
it stops at the first converter whose identity has occurred before, and it names the only converter in
front of that one with the same identity.  The search comes before all writing.

Main statements:

* `Remembers.push`: what one step of the search keeps;
* `exists_of_remembers`: where the search stops;
* `firstCollisionAt_of_split`, `FirstCollisionAt.unique`: there is one first collision;
* `collision_exact_atomic`: what is reported, and what a refused run leaves behind.
-/

namespace ConverterBuilders

namespace Converter

/-! ## Places of collisions -/

/-- The identity of the artifact of the converter at a place. -/
def identityAt (converters : List Converter) (place : Nat) : Option String :=
  (converters.map artifactIdentity)[place]?

theorem identityAt_of_eq_some {converters : List Converter} {place : Nat} {converter : Converter}
    (h : converters[place]? = some converter) :
    identityAt converters place = some converter.artifactIdentity := by
  simp [identityAt, h]

/-- Whether `second`, at the place `later`, is the first converter whose identity has occurred before, and
`first`, at the place `earlier`, is the only one in front of it with the same identity. -/
structure FirstCollisionAt (converters : List Converter) (earlier later : Nat)
    (first second : Converter) : Prop where
  earlier_lt : earlier < later
  at_earlier : converters[earlier]? = some first
  at_later : converters[later]? = some second
  same : first.artifactIdentity = second.artifactIdentity
  smallest : ∀ i j, i < j → j < later → identityAt converters i ≠ identityAt converters j
  only : ∀ i < later, identityAt converters i = identityAt converters later → i = earlier

namespace FirstCollisionAt

variable {converters : List Converter} {earlier later earlier' later' : Nat}
  {first second first' second' : Converter}

theorem identityAt_eq (h : FirstCollisionAt converters earlier later first second) :
    identityAt converters earlier = identityAt converters later := by
  rw [identityAt_of_eq_some h.at_earlier, identityAt_of_eq_some h.at_later, h.same]

/-- **There is no more than one first collision.** -/
theorem unique (h : FirstCollisionAt converters earlier later first second)
    (h' : FirstCollisionAt converters earlier' later' first' second') :
    first = first' ∧ second = second' := by
  have hlater : later = later' := by
    rcases Nat.lt_trichotomy later later' with hlt | heq | hgt
    · exact absurd h.identityAt_eq (h'.smallest _ _ h.earlier_lt hlt)
    · exact heq
    · exact absurd h'.identityAt_eq (h.smallest _ _ h'.earlier_lt hgt)
  subst hlater
  have hearlier : earlier = earlier' := h'.only _ h.earlier_lt h.identityAt_eq
  subst hearlier
  exact ⟨Option.some.inj (h.at_earlier.symm.trans h'.at_earlier),
    Option.some.inj (h.at_later.symm.trans h'.at_later)⟩

theorem not_nodup (h : FirstCollisionAt converters earlier later first second) :
    ¬ (converters.map artifactIdentity).Nodup := by
  intro hn
  have hlength : earlier < (converters.map artifactIdentity).length := by
    rw [List.length_map]
    exact (List.getElem?_eq_some_iff.1 h.at_earlier).1
  have heq := (List.getElem?_inj hlength hn).1 h.identityAt_eq
  exact absurd heq (Nat.ne_of_lt h.earlier_lt)

end FirstCollisionAt

/-- A converter behind others of different identities, one of which has its identity, is in the first
collision. -/
theorem firstCollisionAt_of_split {front : List Converter} {first second : Converter}
    (hn : (front.map artifactIdentity).Nodup) (hm : first ∈ front)
    (hs : first.artifactIdentity = second.artifactIdentity) (back : List Converter) :
    ∃ earlier, FirstCollisionAt (front ++ second :: back) earlier front.length first second := by
  have hfront : ∀ i < front.length,
      identityAt (front ++ second :: back) i = (front.map artifactIdentity)[i]? := by
    intro i hi
    rw [identityAt, List.map_append, List.getElem?_append_left (by simpa using hi)]
  have hplace : ∀ i j, i < front.length → j < front.length →
      identityAt (front ++ second :: back) i = identityAt (front ++ second :: back) j → i = j := by
    intro i j hi hj he
    rw [hfront i hi, hfront j hj] at he
    exact (List.getElem?_inj (by simpa using hi) hn).1 he
  obtain ⟨earlier, hearlier⟩ := List.mem_iff_getElem?.1 hm
  have hlt : earlier < front.length := (List.getElem?_eq_some_iff.1 hearlier).1
  have hfirst : (front ++ second :: back)[earlier]? = some first := by
    rw [List.getElem?_append_left hlt, hearlier]
  have hsecond : (front ++ second :: back)[front.length]? = some second := by simp
  refine ⟨earlier, hlt, hfirst, hsecond, hs, ?_, ?_⟩
  · intro i j hij hj he
    exact absurd (hplace i j (Nat.lt_trans hij hj) hj he) (Nat.ne_of_lt hij)
  · intro i hi he
    refine hplace i earlier hi hlt (he.trans ?_)
    rw [identityAt_of_eq_some hfirst, identityAt_of_eq_some hsecond, hs]

/-! ## The search -/

/-- Whether the search remembers the converters that it has passed: each identity once, with the name of
its converter. -/
structure Remembers (seen : OrderedMap String String) (passed : List Converter) : Prop where
  nodup : (passed.map artifactIdentity).Nodup
  get?_iff : ∀ identity name, seen.get? identity = some name ↔
    ∃ owner ∈ passed, owner.artifactIdentity = identity ∧ owner.qualifiedName = name

theorem remembers_empty : Remembers OrderedMap.empty [] := ⟨.nil, by simp⟩

/-- **A converter with a new identity is remembered as well.** -/
theorem Remembers.push {seen : OrderedMap String String} {passed : List Converter}
    (h : Remembers seen passed) {converter : Converter}
    (hc : seen.get? converter.artifactIdentity = none) :
    Remembers (seen.insert converter.artifactIdentity converter.qualifiedName)
      (passed ++ [converter]) := by
  have hnew : ∀ owner ∈ passed, owner.artifactIdentity ≠ converter.artifactIdentity := by
    intro owner ho he
    have hseen := (h.get?_iff _ _).2 ⟨owner, ho, he, rfl⟩
    rw [hc] at hseen
    cases hseen
  refine ⟨?_, fun identity name => ?_⟩
  · rw [List.map_append, List.nodup_append]
    refine ⟨h.nodup, by simp, ?_⟩
    intro identity hi other ho
    obtain ⟨owner, hm, rfl⟩ := List.mem_map.1 hi
    rw [List.mem_singleton.1 ho]
    exact hnew owner hm
  · by_cases he : identity = converter.artifactIdentity
    · subst he
      rw [OrderedMap.get?_insert_self]
      constructor
      · intro hname
        exact ⟨converter, by simp, rfl, Option.some.inj hname⟩
      · rintro ⟨owner, ho, hidentity, rfl⟩
        rcases List.mem_append.1 ho with ho | ho
        · exact absurd hidentity (hnew owner ho)
        · rw [List.mem_singleton.1 ho]
    · have hne : compare identity converter.artifactIdentity ≠ .eq := fun hcmp =>
        he (Std.LawfulEqOrd.eq_of_compare hcmp)
      rw [OrderedMap.get?_insert_of_ne _ _ hne, h.get?_iff]
      constructor
      · rintro ⟨owner, ho, hidentity, hname⟩
        exact ⟨owner, List.mem_append_left _ ho, hidentity, hname⟩
      · rintro ⟨owner, ho, rfl, hname⟩
        rcases List.mem_append.1 ho with ho | ho
        · exact ⟨owner, ho, rfl, hname⟩
        · exact absurd (congrArg artifactIdentity (List.mem_singleton.1 ho)) he

/-- **The search stops at a converter whose identity was passed, with all identities in front of it
different.** -/
theorem exists_of_remembers {seen : OrderedMap String String} {passed converters : List Converter}
    (h : Remembers seen passed) {failure : Failure}
    (hf : firstCollision seen converters = some failure) :
    ∃ front first second back, converters = front ++ second :: back ∧
      ((passed ++ front).map artifactIdentity).Nodup ∧ first ∈ passed ++ front ∧
      first.artifactIdentity = second.artifactIdentity ∧
      failure = .collision second.artifactIdentity first.qualifiedName second.qualifiedName := by
  induction converters generalizing seen passed with
  | nil => cases hf
  | cons converter rest ih =>
    cases hs : seen.get? converter.artifactIdentity with
    | some name =>
      rw [firstCollision_cons_of_some hs] at hf
      obtain ⟨first, hfirst, hidentity, rfl⟩ := (h.get?_iff _ _).1 hs
      refine ⟨[], first, converter, rest, rfl, ?_, ?_, hidentity, (Option.some.inj hf).symm⟩
      · simpa using h.nodup
      · simpa using hfirst
    | none =>
      rw [firstCollision_cons_of_none hs] at hf
      obtain ⟨front, first, second, back, rfl, hn, hm, hidentity, hfailure⟩ := ih (h.push hs) hf
      rw [List.append_assoc, List.singleton_append] at hn hm
      exact ⟨converter :: front, first, second, back, rfl, hn, hm, hidentity, hfailure⟩

/-- **The first collision is what is reported.** -/
theorem checkCollisions_eq_error_iff {converters : List Converter} {failure : Failure} :
    checkCollisions converters = .error failure ↔
      ∃ earlier later first second, FirstCollisionAt converters earlier later first second ∧
        failure = .collision second.artifactIdentity first.qualifiedName second.qualifiedName := by
  have hreported : ∀ {failure}, checkCollisions converters = .error failure →
      ∃ earlier later first second, FirstCollisionAt converters earlier later first second ∧
        failure = .collision second.artifactIdentity first.qualifiedName second.qualifiedName := by
    intro failure h
    unfold checkCollisions at h
    split at h
    · rename_i found hfound
      cases h
      obtain ⟨front, first, second, back, rfl, hn, hm, hs, hfailure⟩ :=
        exists_of_remembers remembers_empty hfound
      obtain ⟨earlier, hat⟩ := firstCollisionAt_of_split hn hm hs back
      exact ⟨earlier, _, first, second, hat, hfailure⟩
    · cases h
  refine ⟨hreported, ?_⟩
  rintro ⟨earlier, later, first, second, hat, rfl⟩
  cases hc : checkCollisions converters with
  | ok => exact absurd (checkCollisions_eq_ok_iff.1 hc) hat.not_nodup
  | error found =>
    obtain ⟨_, _, _, _, hfound, rfl⟩ := hreported hc
    obtain ⟨rfl, rfl⟩ := hfound.unique hat
    rfl

end Converter

/-! ## Nested classes -/

namespace SymbolIndex

/-- The index of a class and of one that is nested in another class under the same simple name. -/
def nested : SymbolIndex :=
  ⟨(OrderedMap.empty.insert "org.shop.Price" (markedClass "org.shop.Price" "org.shop")).insert
    "org.shop.Money.Price" (markedClass "org.shop.Money.Price" "org.shop")⟩

/-- The converters of this index in the order of their names. -/
def nestedConverters : List Converter :=
  [markedClass "org.shop.Money.Price" "org.shop",
    markedClass "org.shop.Price" "org.shop"].filterMap converterOf

theorem valid_nested :
    (Report.scan nested.resolver .default).valid = nestedConverters :=
  Scan.valid_of_ascending (by decide +kernel) (by with_unfolding_all rfl) (by decide +kernel)

end SymbolIndex

/-! ## What a collision stops -/

/-- **Collisions are found exactly, and they stop a run before it does anything.**  Converters pass exactly
if the identities of their artifacts are pairwise distinct; else the first collision is reported, with its
identity and both names.  Generating fails exactly if two converters of the scan have the same identity,
and with what is reported for them; and a run then fails in the same way, however and to whatever it would
have written, and leaves that as it was. -/
theorem collision_exact_atomic (converters : List Converter) (resolver : Resolver)
    (configuration : Configuration) :
    (Converter.checkCollisions converters = .ok () ↔
      (converters.map Converter.artifactIdentity).Nodup) ∧
    (∀ failure, Converter.checkCollisions converters = .error failure ↔
      ∃ earlier later first second,
        Converter.FirstCollisionAt converters earlier later first second ∧
        failure = .collision second.artifactIdentity first.qualifiedName second.qualifiedName) ∧
    ((∃ failure, Report.process resolver configuration = .error failure) ↔
      ¬ ((Report.scan resolver configuration).valid.map Converter.artifactIdentity).Nodup) ∧
    ∀ failure, Report.process resolver configuration = .error failure →
      Converter.checkCollisions (Report.scan resolver configuration).valid = .error failure ∧
      ∀ (σ : Type) (write : Artifact → ExceptT Failure (StateM σ) Path) (state : σ),
        (Report.run resolver configuration write).run.run state = (.error failure, state) := by
  refine ⟨Converter.checkCollisions_eq_ok_iff, fun _ => Converter.checkCollisions_eq_error_iff, ?_, ?_⟩
  · rw [← Converter.checkCollisions_eq_ok_iff]
    cases hc : Converter.checkCollisions (Report.scan resolver configuration).valid <;>
      simp [Report.process_error_iff, hc]
  · intro failure h
    exact ⟨Report.process_error_iff.1 h, fun _ _ _ => Report.run_of_process_error h⟩

/-- A nested class collides with the class of the same simple name beside it, and a buffer stays as it was. -/
theorem collision_exact_atomic_nested :
    Report.process SymbolIndex.nested.resolver .default =
      .error (.collision "org.shop.PriceFunctions" "org.shop.Money.Price" "org.shop.Price") ∧
    ∀ buffer : Buffer,
      (Report.run SymbolIndex.nested.resolver .default Buffer.write).run.run buffer =
        (.error (.collision "org.shop.PriceFunctions" "org.shop.Money.Price" "org.shop.Price"),
          buffer) := by
  have hchecked : Converter.checkCollisions SymbolIndex.nestedConverters =
      .error (.collision "org.shop.PriceFunctions" "org.shop.Money.Price" "org.shop.Price") := by
    with_unfolding_all rfl
  have hprocess : Report.process SymbolIndex.nested.resolver .default =
      .error (.collision "org.shop.PriceFunctions" "org.shop.Money.Price" "org.shop.Price") := by
    rw [Report.process_error_iff, SymbolIndex.valid_nested, hchecked]
  obtain ⟨_, _, _, hatomic⟩ :=
    collision_exact_atomic SymbolIndex.nestedConverters SymbolIndex.nested.resolver .default
  exact ⟨hprocess, (hatomic _ hprocess).2 _ _⟩

end ConverterBuilders
