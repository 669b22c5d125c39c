import ConverterBuilders.BuilderFunction.Shapes
import ConverterBuilders.Configuration.Basic

/-!
# Artifacts

An artifact is the generated source file of one converter: a preamble of imports and the blocks of its
plan, with one blank line between two sections.

Main statements:

* `functionsOf_eq_error_iff`: nothing but a list in choice form is refused;
* `emit_eq`: the walk that makes an artifact meets the builder functions and the blocks of the plan.
-/

namespace ConverterBuilders

open Text

structure Artifact where
  declaration : String
  package : String
  fileBaseName : String
  text : String
  functions : List String
  sourceFile? : Option String
  deriving DecidableEq, Inhabited

namespace Artifact

/-! ## Where an artifact goes -/

def packageParts (package : String) : List String :=
  (splitText '.' package).filter fun part => !part.isEmpty

def packageDirectory (package : String) : Path :=
  (packageParts package).foldl (fun path part => path.join ⟨part⟩) ⟨""⟩

/-- The path of an artifact from the root of all artifacts. -/
def relativePath (artifact : Artifact) (extension : String) : Path :=
  (packageDirectory artifact.package).join ⟨artifact.fileBaseName ++ "." ++ extension⟩

/-- The path of an artifact below `root`. -/
def pathUnder (artifact : Artifact) (root : Path) (extension : String) : Path :=
  root.join (artifact.relativePath extension)

/-! ## The preamble -/

def optInLines : List String → List String
  | [] => []
  | [last] => [last ++ "::class"]
  | marker :: rest => (marker ++ "::class,") :: optInLines rest

def writeOptIns (w : SourceWriter) (markers : List String) : SourceWriter :=
  if markers.isEmpty then w
  else
    let w := w.writeLine "@file:OptIn("
    let w := w.indented fun w => w.writeLines (optInLines markers)
    (w.writeLine ")").endLine

/-- Write the package, if there is one. -/
def writePackage (w : SourceWriter) (package : String) : SourceWriter :=
  if package.isEmpty then w else (w.writeLine ("package " ++ package)).endLine

def writeImports (w : SourceWriter) (heading : String) (imports : List String) : SourceWriter :=
  if imports.isEmpty then w
  else
    ((w.writeLine ("// " ++ heading)).writeLines (imports.map fun path => "import " ++ path)).endLine

/-- Write all that stands in front of the builder functions. -/
def writePreamble (w : SourceWriter) (request : Request) (profile : Profile) : SourceWriter :=
  let w := writeOptIns w profile.optIns
  let w := writePackage w request.source.package
  let w := writeImports w "Converter type param" [request.valueTypeImport]
  let w := writeImports w "Original converter class, for safety" [request.source.qualifiedName]
  let w := writeImports w "Imports that all converters need" profile.runtimeImports
  writeImports w "Extra imports" request.extraImports

def preamble (request : Request) (profile : Profile) : String :=
  (writePreamble (.withSpaces 4) request profile).output

/-! ## The blocks of a plan -/

/-- What the builder functions of a request are made from. -/
def contextOf (request : Request) (profile : Profile) : BuilderContext :=
  ⟨request.source.simpleName, request.name, request.valueTypeName, profile.receiver⟩

def functionsOf (context : BuilderContext) : List Planned → Except RequestError (List BuilderFunction)
  | [] => .ok []
  | .builder shape choice :: rest => do
    let function ← context.build shape choice
    let functions ← functionsOf context rest
    .ok (function :: functions)
  | .choiceModifier :: rest => functionsOf context rest
  | .unsupported _ :: rest => functionsOf context rest

/-- What stands for a name that nothing is generated for. -/
def marker (name : String) : String := "// Unsupported converter type: " ++ name ++ "\n"

def blocksOf (context : BuilderContext) : List Planned → Except RequestError (List String)
  | [] => .ok []
  | .builder shape choice :: rest => do
    let function ← context.build shape choice
    let blocks ← blocksOf context rest
    .ok (function.source :: blocks)
  | .choiceModifier :: rest => blocksOf context rest
  | .unsupported name :: rest => do
    let blocks ← blocksOf context rest
    .ok (marker name :: blocks)

def trimLineEnds (text : String) : String :=
  String.ofList (text.toList.reverse.dropWhile (· = '\n')).reverse

/-- Blocks with a blank line between each two, and one line end behind them. -/
def joinBlocks (blocks : List String) : String :=
  String.intercalate "\n\n" (blocks.map trimLineEnds) ++ "\n"

def synthesize (request : Request) (profile : Profile) (plan : List Planned) :
    Except RequestError (List BuilderFunction) :=
  functionsOf (contextOf request profile) plan

/-- The names of the builder functions and the blocks that a walk through a plan has met. -/
structure Emitted where
  names : List String
  blocks : List String
  deriving Inhabited

/-- Go on to one more entry of a plan. -/
def Emitted.next (context : BuilderContext) (emitted : Emitted) : Planned → Except RequestError Emitted
  | .builder shape choice => do
    let function ← context.build shape choice
    .ok ⟨emitted.names ++ [function.name], emitted.blocks ++ [function.source]⟩
  | .unsupported name => .ok { emitted with blocks := emitted.blocks ++ [marker name] }
  | .choiceModifier => .ok emitted

/-- Walk through a plan up to the first entry that is refused. -/
def emit (context : BuilderContext) (plan : List Planned) : Except RequestError Emitted :=
  plan.foldlM (Emitted.next context) ⟨[], []⟩

/-- The artifact of a plan; there is none without builder functions. -/
def ofPlan (request : Request) (profile : Profile) (plan : List Planned) :
    Except RequestError (Option Artifact) := do
  let emitted ← emit (contextOf request profile) plan
  if emitted.names.isEmpty then .ok none
  else
    .ok (some
      { declaration := request.source.qualifiedName
        package := request.source.package
        fileBaseName := request.source.artifactBaseName
        text := preamble request profile ++ joinBlocks emitted.blocks
        functions := emitted.names
        sourceFile? := request.source.file? })

/-! ## Which plans have artifacts -/

theorem functionsOf_eq_error_iff {context : BuilderContext} {plan : List Planned} {fault : RequestError} :
    functionsOf context plan = .error fault ↔
      fault = listChoiceConflict ∧ .builder .list true ∈ plan := by
  induction plan with
  | nil => simp [functionsOf]
  | cons planned rest ih =>
    cases planned with
    | builder shape choice =>
      cases hrest : functionsOf context rest <;> rw [hrest] at ih <;> cases shape <;> cases choice <;>
        simp [functionsOf, BuilderContext.build, bind, Except.bind, hrest] at ih ⊢ <;>
        grind
    | choiceModifier => simp [functionsOf, ih]
    | unsupported name => simp [functionsOf, ih]

/-- The blocks of a plan are refused as its builder functions are. -/
theorem blocksOf_eq_error_iff {context : BuilderContext} {plan : List Planned} {fault : RequestError} :
    blocksOf context plan = .error fault ↔ functionsOf context plan = .error fault := by
  induction plan with
  | nil => simp [functionsOf, blocksOf]
  | cons planned rest ih =>
    cases planned with
    | builder shape choice =>
      cases hblocks : blocksOf context rest <;> cases hfunctions : functionsOf context rest <;>
        cases hbuild : context.build shape choice <;>
        simp_all [functionsOf, blocksOf, bind, Except.bind]
    | choiceModifier => simp [functionsOf, blocksOf, ih]
    | unsupported name =>
      cases hblocks : blocksOf context rest <;>
        simp_all [functionsOf, blocksOf, bind, Except.bind]

/-- The walk from any point on: the names and blocks of the rest come behind those that were met. -/
theorem foldlM_next (context : BuilderContext) (plan : List Planned) (emitted : Emitted) :
    plan.foldlM (Emitted.next context) emitted = (do
      let functions ← functionsOf context plan
      let blocks ← blocksOf context plan
      .ok ⟨emitted.names ++ functions.map BuilderFunction.name, emitted.blocks ++ blocks⟩) := by
  induction plan generalizing emitted with
  | nil => simp [functionsOf, blocksOf, bind, Except.bind, pure, Except.pure]
  | cons planned rest ih =>
    rw [List.foldlM_cons]
    cases planned with
    | builder shape choice =>
      cases hbuild : context.build shape choice with
      | error fault => simp [Emitted.next, functionsOf, hbuild, bind, Except.bind]
      | ok function =>
        cases hf : functionsOf context rest <;> cases hb : blocksOf context rest <;>
          simp [Emitted.next, functionsOf, blocksOf, hbuild, hf, hb, ih, bind, Except.bind]
    | choiceModifier => exact ih emitted
    | unsupported name =>
      cases hf : functionsOf context rest <;> cases hb : blocksOf context rest <;>
        simp [Emitted.next, functionsOf, blocksOf, hf, hb, ih, bind, Except.bind]

/-- **One walk through a plan finds the names of its builder functions and its blocks**, and is refused where
the builder functions are. -/
theorem emit_eq (context : BuilderContext) (plan : List Planned) :
    emit context plan = (do
      let functions ← functionsOf context plan
      let blocks ← blocksOf context plan
      .ok ⟨functions.map BuilderFunction.name, blocks⟩) :=
  foldlM_next context plan ⟨[], []⟩

end Artifact

end ConverterBuilders
