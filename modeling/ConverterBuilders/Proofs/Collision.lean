import ConverterBuilders.Report

/-!
# Collisions and the runs that they stop

The search for a collision remembers the identities that it has passed.

Main statements:

* `firstCollision_eq_none_iff`: the search finds nothing exactly if no identity occurs twice;
* `checkCollisions_eq_ok_iff`: converters pass exactly if their identities are pairwise distinct;
* `process_error_iff`, `process_of_nodup`, `process_congr`: what decides on a report;
* `process_cases`: inspecting and generating are stopped by the same collision, or by none.
-/

namespace ConverterBuilders

namespace Converter

theorem firstCollision_eq_none_iff {seen : OrderedMap String String} {converters : List Converter} :
    firstCollision seen converters = none ↔
      (converters.map artifactIdentity).Nodup ∧
        ∀ converter ∈ converters, seen.get? converter.artifactIdentity = none := by
  -- what was passed so far grows on the way, so the induction is for any of it
  induction converters generalizing seen with
  | nil => simp [firstCollision]
  | cons converter rest ih =>
    cases hs : seen.get? converter.artifactIdentity with
    | some first =>
      rw [firstCollision_cons_of_some hs]
      simp [hs]
    | none =>
      rw [firstCollision_cons_of_none hs, ih, List.map_cons, List.nodup_cons]
      constructor
      · rintro ⟨hnodup, hseen⟩
        have hne : ∀ other ∈ rest, other.artifactIdentity ≠ converter.artifactIdentity := by
          intro other ho he
          have := hseen other ho
          rw [he, OrderedMap.get?_insert_self] at this
          cases this
        refine ⟨⟨?_, hnodup⟩, ?_⟩
        · intro hm
          obtain ⟨other, ho, he⟩ := List.mem_map.mp hm
          exact hne other ho he
        · intro other ho
          rcases List.mem_cons.mp ho with rfl | ho
          · exact hs
          · have hc : compare other.artifactIdentity converter.artifactIdentity ≠ .eq := fun e =>
              hne other ho (Std.LawfulEqOrd.eq_of_compare e)
            rw [← hseen other ho, OrderedMap.get?_insert_of_ne _ _ hc]
      · rintro ⟨⟨hnot, hnodup⟩, hseen⟩
        refine ⟨hnodup, fun other ho => ?_⟩
        have hc : compare other.artifactIdentity converter.artifactIdentity ≠ .eq := fun e =>
          hnot (Std.LawfulEqOrd.eq_of_compare e ▸ List.mem_map_of_mem ho)
        rw [OrderedMap.get?_insert_of_ne _ _ hc]
        exact hseen other (List.mem_cons_of_mem _ ho)

/-- All that the search can find is a collision. -/
theorem exists_of_firstCollision {seen : OrderedMap String String} {converters : List Converter}
    {failure : Failure} (h : firstCollision seen converters = some failure) :
    ∃ artifact first second, failure = .collision artifact first second := by
  induction converters generalizing seen with
  | nil => cases h
  | cons converter rest ih =>
    cases hs : seen.get? converter.artifactIdentity with
    | some first =>
      rw [firstCollision_cons_of_some hs] at h
      exact ⟨_, _, _, (Option.some.inj h).symm⟩
    | none =>
      rw [firstCollision_cons_of_none hs] at h
      exact ih h

/-- **Converters pass exactly if their identities are pairwise distinct.** -/
theorem checkCollisions_eq_ok_iff {converters : List Converter} :
    checkCollisions converters = .ok () ↔ (converters.map artifactIdentity).Nodup := by
  have hiff : firstCollision OrderedMap.empty converters = none ↔ _ := firstCollision_eq_none_iff
  unfold checkCollisions
  cases hc : firstCollision OrderedMap.empty converters with
  | none => simpa [hc] using hiff
  | some failure =>
    rw [hc] at hiff
    simp_all

theorem exists_of_checkCollisions {converters : List Converter} {failure : Failure}
    (h : checkCollisions converters = .error failure) :
    ∃ artifact first second, failure = .collision artifact first second := by
  unfold checkCollisions at h
  split at h
  · rename_i other hc
    cases h
    exact exists_of_firstCollision hc
  · cases h

end Converter

namespace Report

/-- Generating fails exactly if the search finds a collision. -/
theorem process_error_iff {resolver : Resolver} {configuration : Configuration} {failure : Failure} :
    process resolver configuration = .error failure ↔
      Converter.checkCollisions (scan resolver configuration).valid = .error failure := by
  cases hc : Converter.checkCollisions (scan resolver configuration).valid <;>
    simp [process, hc, bind, Except.bind]

/-- Without a collision there is a report. -/
theorem process_of_nodup {resolver : Resolver} {configuration : Configuration}
    (h : ((scan resolver configuration).valid.map Converter.artifactIdentity).Nodup) :
    process resolver configuration = .ok (ofOutcomes (scan resolver configuration)
      (outcomes resolver configuration (scan resolver configuration).valid)) := by
  simp [process, Converter.checkCollisions_eq_ok_iff.2 h, bind, Except.bind]

theorem process_of_valid {resolver : Resolver} {configuration : Configuration}
    {converters : List Converter} (h : (scan resolver configuration).valid = converters)
    (hn : (converters.map Converter.artifactIdentity).Nodup) :
    process resolver configuration = .ok (ofOutcomes (scan resolver configuration)
      (outcomes resolver configuration converters)) := by
  subst h
  exact process_of_nodup hn

theorem outcomes_congr {left right : Resolver} {configuration : Configuration}
    {converters : List Converter}
    (h : ∀ converter ∈ converters,
      generate left configuration converter = generate right configuration converter) :
    outcomes left configuration converters = outcomes right configuration converters := by
  rw [outcomes_eq, outcomes_eq]
  exact List.map_congr_left fun converter hc => by rw [h converter hc]

/-- A report hangs on what the scan finds and on what comes out for it. -/
theorem process_congr {left right : Resolver} {configuration : Configuration}
    (hscan : scan left configuration = scan right configuration)
    (hgenerate : ∀ converter ∈ (scan right configuration).valid,
      generate left configuration converter = generate right configuration converter) :
    process left configuration = process right configuration := by
  rw [process, process, hscan, outcomes_congr hgenerate]

/-- **Inspecting and generating are stopped by the same collision, or by none.** -/
theorem process_cases (resolver : Resolver) (configuration : Configuration) :
    (∃ artifact first second,
      process resolver configuration = .error (.collision artifact first second) ∧
      Summary.inspect resolver configuration = .error (.collision artifact first second)) ∨
    (((scan resolver configuration).valid.map Converter.artifactIdentity).Nodup ∧
      process resolver configuration = .ok (ofOutcomes (scan resolver configuration)
        (outcomes resolver configuration (scan resolver configuration).valid)) ∧
      Summary.inspect resolver configuration =
        .ok ((scan resolver configuration).valid.map (Summary.ofConverter resolver configuration))) := by
  cases hc : Converter.checkCollisions (scan resolver configuration).valid with
  | error failure =>
    obtain ⟨artifact, first, second, rfl⟩ := Converter.exists_of_checkCollisions hc
    refine .inl ⟨artifact, first, second, process_error_iff.2 hc, ?_⟩
    simp [Summary.inspect, hc, bind, Except.bind]
  | ok =>
    have hn := Converter.checkCollisions_eq_ok_iff.1 hc
    refine .inr ⟨hn, process_of_nodup hn, ?_⟩
    simp [Summary.inspect, hc, bind, Except.bind]

end Report

end ConverterBuilders
