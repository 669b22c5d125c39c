import ConverterBuilders.Proofs.Collision
import ConverterBuilders.Proofs.Generation
import Mathlib.Data.List.Forall2

/-!
# Inspecting and generating agree

The report of a run can be read off the summaries of its converters: which of them failed and why, for
which there was nothing to generate, and what the artifacts of the others hold.

Main statements:

* `failures_ofOutcomes`, `empty_ofOutcomes`, `artifacts_ofOutcomes`: the lists of a report beside the
  summaries;
* `inspect_agrees_with_process`: both fail with the same collision, or the report is the one that the
  summaries tell of.
-/

namespace ConverterBuilders

namespace Summary

/-- The wording of what is wrong with a converter, as its summary shows it. -/
def faultText? (summary : Summary) : Option String := summary.fault?.map RequestError.message

def failure? (summary : Summary) : Option DeclarationFailure :=
  summary.fault?.map fun fault => ⟨summary.declaration, fault⟩

/-- Whether a summary tells that there is nothing to generate. -/
def isEmpty (summary : Summary) : Bool := summary.fault?.isNone && summary.functions.isEmpty

def isGenerated (summary : Summary) : Bool := summary.fault?.isNone && !summary.functions.isEmpty

/-! ## One converter -/

variable {resolver : Resolver} {configuration : Configuration} {converter : Converter}

theorem names_ofConverter (resolver : Resolver) (configuration : Configuration)
    (converter : Converter) :
    (ofConverter resolver configuration converter).declaration = converter.qualifiedName ∧
      (ofConverter resolver configuration converter).artifact = converter.artifactIdentity := by
  unfold ofConverter
  cases Request.ofConverter resolver configuration.annotationName converter with
  | error fault => exact ⟨rfl, rfl⟩
  | ok request =>
    cases hp : Plan.ofRequest request with
    | error fault => simp [hp, withRequest]
    | ok plan =>
      simp only [hp, withPlan]
      split <;> exact ⟨rfl, rfl⟩

theorem Describes.functions_ne_nil {summary : Summary} {artifact : Artifact}
    (h : Describes resolver configuration converter summary artifact) : summary.functions ≠ [] := by
  obtain ⟨_, _, functions, _, _, _, _, _, _, hf, hne, _⟩ := h.made
  simpa [hf] using hne

namespace AgreesWith

variable {summary : Summary} {outcome : Outcome}

theorem fault?_eq (h : AgreesWith resolver configuration converter summary outcome) :
    summary.fault? = outcome.fault? := by
  cases h with
  | fault h => exact h
  | empty h _ => exact h
  | artifact h _ => exact h

theorem isEmpty_eq (h : AgreesWith resolver configuration converter summary outcome) :
    summary.isEmpty = outcome.isEmpty := by
  cases h with
  | fault h => simp [isEmpty, Outcome.isEmpty, h]
  | empty h hf => simp [isEmpty, Outcome.isEmpty, h, hf]
  | artifact h hd => simp [isEmpty, Outcome.isEmpty, h, hd.functions_ne_nil]

end AgreesWith

end Summary

namespace Report

/-! ## All converters -/

variable (resolver : Resolver) (configuration : Configuration) (found : Scan)
  (converters : List Converter)

theorem failures_ofOutcomes :
    (ofOutcomes found (outcomes resolver configuration converters)).failures =
      (converters.map (Summary.ofConverter resolver configuration)).filterMap Summary.failure? := by
  simp only [ofOutcomes, outcomes_eq, List.filterMap_map]
  congr 1
  funext converter
  have hagree := Summary.agreesWith_generate resolver configuration converter
  simp [Summary.failure?, hagree.fault?_eq, (Summary.names_ofConverter _ _ _).1]

theorem empty_ofOutcomes :
    (ofOutcomes found (outcomes resolver configuration converters)).empty =
      ((converters.map (Summary.ofConverter resolver configuration)).filter Summary.isEmpty).map
        Summary.declaration := by
  simp only [ofOutcomes, outcomes_eq, List.filter_map, List.map_map]
  have hp : (fun outcome : String × Outcome => outcome.2.isEmpty) ∘
      (fun converter => (converter.qualifiedName, generate resolver configuration converter)) =
      Summary.isEmpty ∘ Summary.ofConverter resolver configuration := by
    funext converter
    exact (Summary.agreesWith_generate resolver configuration converter).isEmpty_eq.symm
  rw [hp]
  congr 1
  funext converter
  exact (Summary.names_ofConverter resolver configuration converter).1.symm

/-- The artifacts of a report are those that the summaries describe, one by one. -/
theorem artifacts_ofOutcomes :
    List.Forall₂
      (fun (entry : Converter × Summary) artifact =>
        Summary.Describes resolver configuration entry.1 entry.2 artifact)
      ((converters.zip (converters.map (Summary.ofConverter resolver configuration))).filter
        fun entry => entry.2.isGenerated)
      (ofOutcomes found (outcomes resolver configuration converters)).artifacts := by
  rw [outcomes_eq]
  induction converters with
  | nil => exact .nil
  | cons converter rest ih =>
    have hagree := Summary.agreesWith_generate resolver configuration converter
    simp only [ofOutcomes, List.map_cons, List.zip_cons_cons] at ih ⊢
    generalize generate resolver configuration converter = outcome at hagree
    cases hagree with
    | fault h =>
      rw [List.filter_cons_of_neg (by simp [Summary.isGenerated, h])]
      exact ih
    | empty h hf =>
      rw [List.filter_cons_of_neg (by simp [Summary.isGenerated, h, hf])]
      exact ih
    | artifact h hd =>
      rw [List.filter_cons_of_pos (by simp [Summary.isGenerated, h, hd.functions_ne_nil])]
      exact .cons hd ih

end Report

/-- **Inspecting and generating agree.**  They fail with the same collision, or there is a summary for
each converter of the scan, and the report is the one that the summaries tell of: a failure with the text
of the fault for each summary with a fault, an empty entry for each summary without functions, and for
each other summary one artifact with the functions and the markers that the summary shows. -/
theorem inspect_agrees_with_process (resolver : Resolver) (configuration : Configuration) :
    (∃ artifact first second,
      Summary.inspect resolver configuration = .error (.collision artifact first second) ∧
      Report.process resolver configuration = .error (.collision artifact first second)) ∨
    (∃ summaries report,
      Summary.inspect resolver configuration = .ok summaries ∧
      Report.process resolver configuration = .ok report ∧
      List.Forall₂
        (fun (converter : Converter) (summary : Summary) =>
          summary.declaration = converter.qualifiedName ∧
            summary.artifact = converter.artifactIdentity)
        (Report.scan resolver configuration).valid summaries ∧
      report.failures = summaries.filterMap Summary.failure? ∧
      (report.failures.map fun failed => (failed.declaration, failed.fault.message)) =
        summaries.filterMap (fun summary =>
          summary.faultText?.map fun text => (summary.declaration, text)) ∧
      report.empty = (summaries.filter Summary.isEmpty).map Summary.declaration ∧
      List.Forall₂
        (fun (entry : Converter × Summary) artifact =>
          Summary.Describes resolver configuration entry.1 entry.2 artifact)
        (((Report.scan resolver configuration).valid.zip summaries).filter
          fun entry => entry.2.isGenerated)
        report.artifacts) := by
  rcases Report.process_cases resolver configuration with
    ⟨artifact, first, second, hp, hi⟩ | ⟨_, hp, hi⟩
  · exact .inl ⟨artifact, first, second, hi, hp⟩
  · have hfailures := Report.failures_ofOutcomes resolver configuration
      (Report.scan resolver configuration) (Report.scan resolver configuration).valid
    refine .inr ⟨_, _, hi, hp, ?_, hfailures, ?_, Report.empty_ofOutcomes _ _ _ _,
      Report.artifacts_ofOutcomes _ _ _ _⟩
    · rw [List.forall₂_map_right_iff, List.forall₂_same]
      exact fun converter _ => Summary.names_ofConverter resolver configuration converter
    · rw [hfailures, List.map_filterMap]
      congr 1
      funext summary
      simp [Summary.failure?, Summary.faultText?, Option.map_map, Function.comp_def]

end ConverterBuilders
