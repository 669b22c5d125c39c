import ConverterBuilders.Artifact.Basic
import ConverterBuilders.Collision

/-!
# Reports and summaries

A report says what was generated for the converters that a scan found, and a summary says what would be
generated for one of them.  Both are refused if two converters collide.

Main statements:

* `mapInHalves_eq`: what is done for the values of a list in parallel comes back in their order;
* `outcomes_eq`: one outcome for each converter that the scan found, in its order.
-/

namespace ConverterBuilders

structure DeclarationFailure where
  declaration : String
  fault : RequestError
  deriving DecidableEq, Inhabited

def DeclarationFailure.failure (failed : DeclarationFailure) : Failure :=
  .request failed.declaration failed.fault

structure Report where
  artifacts : List Artifact
  /-- The converters for which no builder function was asked for. -/
  empty : List String
  failures : List DeclarationFailure
  deferred : List Symbol
  ignored : List Symbol
  /-- Where the artifacts went. -/
  written : List Path
  deriving Inhabited

/-- What is known of one converter without generating its artifact. -/
structure Summary where
  declaration : String
  artifact : String
  name? : Option String
  valueType? : Option String
  variants : List String
  functions : List String
  unsupported : List String
  fault? : Option RequestError
  deriving Inhabited

/-- What comes out for one converter. -/
abbrev Outcome := Except RequestError (Option Artifact)

namespace Outcome

def artifact? : Outcome → Option Artifact
  | .ok artifact? => artifact?
  | .error _ => none

def isEmpty : Outcome → Bool
  | .ok none => true
  | _ => false

def fault? : Outcome → Option RequestError
  | .error fault => some fault
  | .ok _ => none

end Outcome

namespace Report

def hasFailures (report : Report) : Bool := !report.failures.isEmpty

def functionCount (report : Report) : Nat :=
  (report.artifacts.flatMap Artifact.functions).length

def scan (resolver : Resolver) (configuration : Configuration) : Scan :=
  Scan.of resolver configuration.annotationName

def generate (resolver : Resolver) (configuration : Configuration) (converter : Converter) : Outcome := do
  let request ← Request.ofConverter resolver configuration.annotationName converter
  let plan ← Plan.ofRequest request
  Artifact.ofPlan request configuration.profile plan

/-- The values of a function on a list, which is halved some times over.  The parts may be taken at the same
time, and their values are put one behind the other. -/
def mapInHalves {α β : Type} (f : α → β) : Nat → List α → List β
  | 0, values => values.map f
  | depth + 1, values =>
    mapInHalves f depth (values.take (values.length / 2)) ++
      mapInHalves f depth (values.drop (values.length / 2))

theorem mapInHalves_eq {α β : Type} (f : α → β) (depth : Nat) (values : List α) :
    mapInHalves f depth values = values.map f := by
  induction depth generalizing values with
  | zero => rfl
  | succ depth ih => rw [mapInHalves, ih, ih, ← List.map_append, List.take_append_drop]

/-- The name of each converter with what comes out for it. -/
def outcomes (resolver : Resolver) (configuration : Configuration) (converters : List Converter) :
    List (String × Outcome) :=
  let named := fun converter : Converter =>
    (converter.qualifiedName, generate resolver configuration converter)
  if configuration.parallel then mapInHalves named converters.length.log2 converters
  else converters.map named

/-- The report of a scan and the outcomes for its converters. -/
def ofOutcomes (scan : Scan) (outcomes : List (String × Outcome)) : Report where
  artifacts := outcomes.filterMap fun outcome => outcome.2.artifact?
  empty := (outcomes.filter fun outcome => outcome.2.isEmpty).map Prod.fst
  failures := outcomes.filterMap fun outcome =>
    outcome.2.fault?.map fun fault => ⟨outcome.1, fault⟩
  deferred := scan.deferred
  ignored := scan.ignored
  written := []

def process (resolver : Resolver) (configuration : Configuration) : Except Failure Report := do
  let scan := scan resolver configuration
  Converter.checkCollisions scan.valid
  .ok (ofOutcomes scan (outcomes resolver configuration scan.valid))

/-- Write artifacts one by one up to the first that cannot be written. -/
def writeAll {σ : Type} (write : Artifact → ExceptT Failure (StateM σ) Path) :
    List Artifact → ExceptT Failure (StateM σ) (List Path)
  | [] => pure []
  | artifact :: rest => do
    let path ← write artifact
    let paths ← writeAll write rest
    pure (path :: paths)

/-- Generate the artifacts of all converters and write them. -/
def run {σ : Type} (resolver : Resolver) (configuration : Configuration)
    (write : Artifact → ExceptT Failure (StateM σ) Path) : ExceptT Failure (StateM σ) Report := do
  let report ← liftExcept (process resolver configuration)
  let written ← writeAll write report.artifacts
  pure { report with written := written }
where
  liftExcept (result : Except Failure Report) : ExceptT Failure (StateM σ) Report :=
    ExceptT.mk (pure result)

theorem outcomes_eq (resolver : Resolver) (configuration : Configuration) (converters : List Converter) :
    outcomes resolver configuration converters = converters.map fun converter =>
      (converter.qualifiedName, generate resolver configuration converter) := by
  simp [outcomes, mapInHalves_eq]

end Report

namespace Summary

def withRequest (summary : Summary) (request : Request) : Summary :=
  { summary with
    name? := some request.name
    valueType? := some request.valueTypeImport
    variants := request.variants.values.map Variant.name }

def withPlan (summary : Summary) (request : Request) (profile : Profile) (plan : List Planned) :
    Summary :=
  let summary := { summary with unsupported := Plan.unsupportedNames plan }
  match Artifact.synthesize request profile plan with
  | .ok functions => { summary with functions := functions.map BuilderFunction.signature }
  | .error fault => { summary with fault? := some fault }

def ofConverter (resolver : Resolver) (configuration : Configuration) (converter : Converter) :
    Summary :=
  let summary : Summary :=
    ⟨converter.qualifiedName, converter.artifactIdentity, none, none, [], [], [], none⟩
  match Request.ofConverter resolver configuration.annotationName converter with
  | .error fault => { summary with fault? := some fault }
  | .ok request =>
    let summary := summary.withRequest request
    match Plan.ofRequest request with
    | .error fault => { summary with fault? := some fault }
    | .ok plan => summary.withPlan request configuration.profile plan

/-- The fields of a summary that have something to say, for a document. -/
def fields (summary : Summary) : List (String × Document) :=
  [("declaration", .text summary.declaration), ("artifact", .text summary.artifact)] ++
    (summary.name?.toList.map fun name => ("name", .text name)) ++
    (summary.valueType?.toList.map fun type => ("value_type", .text type)) ++
    [("variants", Document.texts summary.variants), ("functions", Document.texts summary.functions)] ++
    (if summary.unsupported.isEmpty then []
      else [("unsupported", Document.texts summary.unsupported)]) ++
    (summary.fault?.toList.map fun fault => ("error", .text fault.message))

def inspect (resolver : Resolver) (configuration : Configuration) : Except Failure (List Summary) := do
  let scan := Report.scan resolver configuration
  Converter.checkCollisions scan.valid
  .ok (scan.valid.map (ofConverter resolver configuration))

end Summary

end ConverterBuilders
