import ConverterBuilders.Proofs.Extension
import ConverterBuilders.Proofs.Running
import ConverterBuilders.Report
import Mathlib.Data.List.Basic

/-!
# What comes out for one converter

Generating the artifact of a converter and summing the converter up go the same way: through its
request, its plan and the builder functions of the plan.

Main statements:

* `filterMap_markedName?`: the markers among the blocks of a plan bear its unsupported names;
* `emit_eq_ok_iff`, `emit_eq_error_iff`: the walk that makes an artifact agrees with the builder functions;
* `ofPlan_of_functions`, `ofPlan_of_fault`: what a plan gives;
* `agreesWith_generate`: a summary shows the fault that generation ends with, that there is nothing to
  generate, or the functions and the markers of the artifact.
-/

namespace ConverterBuilders

namespace Artifact

/-! ## Markers among blocks -/

def markerLead : String := "// Unsupported converter type: "

/-- The name in a block, if the block is a marker. -/
def markedName? (block : String) : Option String :=
  match markerLead.toList.isPrefixOf? block.toList with
  | some rest => if rest.getLast? = some '\n' then some (String.ofList rest.dropLast) else none
  | none => none

theorem marker_eq (name : String) : marker name = markerLead ++ name ++ "\n" := rfl

theorem markedName?_marker (name : String) : markedName? (marker name) = some name := by
  have happ : markerLead.toList ++ (name.toList ++ ['\n']) = (marker name).toList := by
    rw [marker_eq, String.toList_append, String.toList_append, List.append_assoc]
    rfl
  rw [markedName?, List.isPrefixOf?_eq_some_iff_append_eq.2 happ]
  simp

/-- A comment for documentation is no marker. -/
theorem markedName?_source {function : BuilderFunction} (h : function.doc ≠ []) :
    markedName? function.source = none := by
  obtain ⟨rest, hrest⟩ := BuilderFunction.source_begins h
  have hlead : markerLead.toList.isPrefixOf? function.source.toList = none := by
    rw [← hrest]
    rfl
  simp [markedName?, hlead]

/-- **The markers among the blocks of a plan bear its unsupported names, in its order.** -/
theorem filterMap_markedName? {context : BuilderContext} {plan : List Planned} {blocks : List String}
    (h : blocksOf context plan = .ok blocks) :
    blocks.filterMap markedName? = Plan.unsupportedNames plan := by
  induction plan generalizing blocks with
  | nil => cases h; rfl
  | cons planned rest ih =>
    cases planned with
    | builder shape choice =>
      cases hb : context.build shape choice with
      | error fault => simp [blocksOf, hb, bind, Except.bind] at h
      | ok function =>
        cases hr : blocksOf context rest with
        | error fault => simp [blocksOf, hb, hr, bind, Except.bind] at h
        | ok others =>
          simp only [blocksOf, hb, hr, bind, Except.bind, Except.ok.injEq] at h
          have hn := markedName?_source (BuilderFunction.doc_ne_nil_of_build hb)
          rw [← h, List.filterMap_cons_none hn, ih hr]
          rfl
    | choiceModifier => exact ih h
    | unsupported name =>
      cases hr : blocksOf context rest with
      | error fault => simp [blocksOf, hr, bind, Except.bind] at h
      | ok others =>
        simp only [blocksOf, hr, bind, Except.bind, Except.ok.injEq] at h
        rw [← h, List.filterMap_cons_some (markedName?_marker name), ih hr]
        rfl

/-! ## The artifact of a plan -/

/-- Whether an artifact bears the names of a converter. -/
structure IsFor (artifact : Artifact) (converter : Converter) : Prop where
  declaration : artifact.declaration = converter.qualifiedName
  package : artifact.package = converter.package
  fileBaseName : artifact.fileBaseName = converter.artifactBaseName

/-- Whether an artifact holds these builder functions and these blocks behind the preamble. -/
structure Holds (artifact : Artifact) (request : Request) (profile : Profile)
    (functions : List BuilderFunction) (blocks : List String) : Prop where
  functions : artifact.functions = functions.map BuilderFunction.name
  text : artifact.text = preamble request profile ++ joinBlocks blocks

/-- What a walk through a plan has met in the end. -/
theorem emit_eq_ok_iff {context : BuilderContext} {plan : List Planned} {emitted : Emitted} :
    emit context plan = .ok emitted ↔
      ∃ functions, functionsOf context plan = .ok functions ∧
        emitted.names = functions.map BuilderFunction.name ∧
        blocksOf context plan = .ok emitted.blocks := by
  rw [emit_eq]
  constructor
  · intro h
    obtain ⟨functions, hf, h⟩ := bind_eq_ok_iff.1 h
    obtain ⟨blocks, hb, h⟩ := bind_eq_ok_iff.1 h
    cases h
    exact ⟨functions, hf, rfl, hb⟩
  · rintro ⟨functions, hf, hnames, hb⟩
    simp [hf, hb, ← hnames, bind, Except.bind]

/-- A walk through a plan is refused as the builder functions of the plan are. -/
theorem emit_eq_error_iff {context : BuilderContext} {plan : List Planned} {fault : RequestError} :
    emit context plan = .error fault ↔ functionsOf context plan = .error fault := by
  rw [emit_eq]
  cases hf : functionsOf context plan with
  | error other => simp [bind, Except.bind]
  | ok functions =>
    cases hb : blocksOf context plan with
    | ok blocks => simp [bind, Except.bind]
    | error other =>
      rw [blocksOf_eq_error_iff, hf] at hb
      cases hb

theorem ofPlan_of_fault {request : Request} {profile : Profile} {plan : List Planned}
    {fault : RequestError} (h : synthesize request profile plan = .error fault) :
    ofPlan request profile plan = .error fault := by
  simp [ofPlan, emit_eq_error_iff.2 h, bind, Except.bind]

/-- The blocks of a plan are there whenever its builder functions are. -/
theorem exists_blocks {request : Request} {profile : Profile} {plan : List Planned}
    {functions : List BuilderFunction} (h : synthesize request profile plan = .ok functions) :
    ∃ blocks, blocksOf (contextOf request profile) plan = .ok blocks := by
  cases hb : blocksOf (contextOf request profile) plan with
  | ok blocks => exact ⟨blocks, rfl⟩
  | error fault =>
    have hf := blocksOf_eq_error_iff.1 hb
    rw [synthesize, hf] at h
    cases h

theorem ofPlan_of_no_functions (request : Request) (profile : Profile) {plan : List Planned}
    (h : synthesize request profile plan = .ok []) : ofPlan request profile plan = .ok none := by
  obtain ⟨blocks, hb⟩ := exists_blocks h
  have hemit : emit (contextOf request profile) plan = .ok ⟨[], blocks⟩ :=
    emit_eq_ok_iff.2 ⟨[], h, rfl, hb⟩
  simp [ofPlan, hemit, bind, Except.bind]

/-- **A plan with builder functions gives an artifact that holds them.** -/
theorem ofPlan_of_functions {request : Request} {profile : Profile} {plan : List Planned}
    {functions : List BuilderFunction} (h : synthesize request profile plan = .ok functions)
    (hne : functions ≠ []) :
    ∃ artifact blocks, ofPlan request profile plan = .ok (some artifact) ∧
      blocksOf (contextOf request profile) plan = .ok blocks ∧
      artifact.Holds request profile functions blocks ∧ artifact.IsFor request.source := by
  obtain ⟨blocks, hb⟩ := exists_blocks h
  have hp : ofPlan request profile plan = .ok (some
      { declaration := request.source.qualifiedName
        package := request.source.package
        fileBaseName := request.source.artifactBaseName
        text := preamble request profile ++ joinBlocks blocks
        functions := functions.map BuilderFunction.name
        sourceFile? := request.source.file? }) := by
    have hemit : emit (contextOf request profile) plan =
        .ok ⟨functions.map BuilderFunction.name, blocks⟩ := emit_eq_ok_iff.2 ⟨functions, h, rfl, hb⟩
    simp [ofPlan, hemit, hne, bind, Except.bind]
  exact ⟨_, blocks, hp, hb, ⟨rfl, rfl⟩, ⟨rfl, rfl, rfl⟩⟩

end Artifact

theorem Request.source_of_ofConverter {resolver : Resolver} {annotationName : String}
    {converter : Converter} {request : Request}
    (h : Request.ofConverter resolver annotationName converter = .ok request) :
    request.source = converter := by
  unfold Request.ofConverter at h
  split at h
  · cases h
  · obtain ⟨name, _, h⟩ := bind_eq_ok_iff.1 h
    obtain ⟨variants, _, h⟩ := bind_eq_ok_iff.1 h
    obtain ⟨extraImports, _, h⟩ := bind_eq_ok_iff.1 h
    obtain ⟨valueType, _, h⟩ := bind_eq_ok_iff.1 h
    cases h
    rfl

/-! ## Summaries beside outcomes -/

namespace Summary

/-- A summary describes an artifact of a converter: its functions are those whose signatures it shows,
and its markers bear the names that it shows as unsupported. -/
structure Describes (resolver : Resolver) (configuration : Configuration) (converter : Converter)
    (summary : Summary) (artifact : Artifact) : Prop where
  isFor : artifact.IsFor converter
  made : ∃ request plan functions blocks,
    Request.ofConverter resolver configuration.annotationName converter = .ok request ∧
    Plan.ofRequest request = .ok plan ∧
    Artifact.synthesize request configuration.profile plan = .ok functions ∧
    Artifact.blocksOf (Artifact.contextOf request configuration.profile) plan = .ok blocks ∧
    artifact.Holds request configuration.profile functions blocks ∧
    summary.functions = functions.map BuilderFunction.signature ∧ functions ≠ [] ∧
    summary.unsupported = blocks.filterMap Artifact.markedName?

/-- How a summary of a converter agrees with what comes out for the converter. -/
inductive AgreesWith (resolver : Resolver) (configuration : Configuration) (converter : Converter)
    (summary : Summary) : Outcome → Prop
  | fault {fault : RequestError} (h : summary.fault? = some fault) :
    AgreesWith resolver configuration converter summary (.error fault)
  | empty (hfault : summary.fault? = none) (hfunctions : summary.functions = []) :
    AgreesWith resolver configuration converter summary (.ok none)
  | artifact {artifact : Artifact} (hfault : summary.fault? = none)
      (h : Describes resolver configuration converter summary artifact) :
    AgreesWith resolver configuration converter summary (.ok (some artifact))

/-- **Summing a converter up agrees with generating its artifact.** -/
theorem agreesWith_generate (resolver : Resolver) (configuration : Configuration)
    (converter : Converter) :
    AgreesWith resolver configuration converter (ofConverter resolver configuration converter)
      (Report.generate resolver configuration converter) := by
  unfold ofConverter Report.generate
  cases hr : Request.ofConverter resolver configuration.annotationName converter with
  | error fault => exact .fault rfl
  | ok request =>
    cases hp : Plan.ofRequest request with
    | error fault => simpa [hp, bind, Except.bind] using .fault rfl
    | ok plan =>
      simp only [hp, bind, Except.bind, withPlan]
      cases hs : Artifact.synthesize request configuration.profile plan with
      | error fault =>
        rw [Artifact.ofPlan_of_fault hs]
        exact .fault rfl
      | ok functions =>
        by_cases hne : functions = []
        · rw [hne] at hs
          rw [Artifact.ofPlan_of_no_functions request configuration.profile hs, hne]
          exact .empty rfl rfl
        · obtain ⟨artifact, blocks, ha, hb, hholds, hfor⟩ := Artifact.ofPlan_of_functions hs hne
          rw [Request.source_of_ofConverter hr] at hfor
          rw [ha]
          refine .artifact rfl ⟨hfor, request, plan, functions, blocks, hr, hp, hs, hb, hholds, rfl,
            hne, ?_⟩
          exact (Artifact.filterMap_markedName? hb).symm

end Summary

/-! ## The artifact that comes out -/

namespace Report

variable {resolver : Resolver} {configuration : Configuration}

theorem isFor_of_generate {converter : Converter} {artifact : Artifact}
    (h : generate resolver configuration converter = .ok (some artifact)) :
    artifact.IsFor converter := by
  have hagree := Summary.agreesWith_generate resolver configuration converter
  rw [h] at hagree
  cases hagree with
  | artifact _ hd => exact hd.isFor

theorem generate_of_artifact? {converter : Converter} {artifact : Artifact}
    (h : Outcome.artifact? (generate resolver configuration converter) = some artifact) :
    generate resolver configuration converter = .ok (some artifact) := by
  cases hg : generate resolver configuration converter with
  | error fault =>
    rw [hg] at h
    cases h
  | ok artifact? =>
    rw [hg] at h
    rw [show artifact? = some artifact from h]

end Report

end ConverterBuilders
