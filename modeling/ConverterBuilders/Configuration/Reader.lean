import ConverterBuilders.Configuration.Basic
import ConverterBuilders.Configuration.Substitution
import ConverterBuilders.Record
import ConverterBuilders.Text.Blank
import ConverterBuilders.Toml.Reader

/-!
# Reading configurations

A configuration is a TOML text of four sections.  Every setting may be left out.  References to variables
are replaced in the two paths, and then the settings are checked.

Main statement:

* `validate_eq_ok_iff`: which settings pass the check.
-/

namespace ConverterBuilders

open Text

namespace Profile

def fieldNames : List String := ["receiver", "opt_ins", "runtime_imports"]

def assemble : List (Option Document) → Option Profile
  | [receiver, optIns, runtimeImports] => do
    let receiver ← Record.withDefault default.receiver Document.text? receiver
    let optIns ← Record.withDefault default.optIns (Document.listOf? Document.text?) optIns
    let runtimeImports ←
      Record.withDefault default.runtimeImports (Document.listOf? Document.text?) runtimeImports
    some ⟨receiver, optIns, runtimeImports⟩
  | _ => none

def ofDocument (format : Format) (document : Document) : Option Profile :=
  (Record.fields format fieldNames document).bind assemble

end Profile

namespace Configuration

/-- The settings of the section `general`. -/
def generalOf (document : Document) : Option (String × Bool) := do
  match ← Record.fields .toml ["annotation", "parallel"] document with
  | [annotationName, parallel] => do
    let annotationName ← Record.withDefault default.annotationName Document.text? annotationName
    let parallel ← Record.withDefault default.parallel Document.boolean? parallel
    some (annotationName, parallel)
  | _ => none

/-- The setting of the section `scan`. -/
def scanOf (document : Document) : Option String := do
  match ← Record.fields .toml ["index_path"] document with
  | [indexPath] => Record.withDefault default.indexPath Document.text? indexPath
  | _ => none

/-- The settings of the section `output`. -/
def outputOf (document : Document) : Option (String × String) := do
  match ← Record.fields .toml ["output_path", "file_extension"] document with
  | [outputPath, fileExtension] => do
    let outputPath ← Record.withDefault default.outputPath Document.text? outputPath
    let fileExtension ← Record.withDefault default.fileExtension Document.text? fileExtension
    some (outputPath, fileExtension)
  | _ => none

/-- The settings that a document stands for, without a base directory. -/
def ofDocument (document : Document) : Option Configuration := do
  match ← Record.fields .toml ["general", "scan", "output", "profile"] document with
  | [general, scan, output, profile] => do
    let (annotationName, parallel) ←
      Record.withDefault (default.annotationName, default.parallel) generalOf general
    let indexPath ← Record.withDefault default.indexPath scanOf scan
    let (outputPath, fileExtension) ←
      Record.withDefault (default.outputPath, default.fileExtension) outputOf output
    let profile ← Record.withDefault Profile.default (Profile.ofDocument .toml) profile
    some ⟨annotationName, parallel, indexPath, outputPath, fileExtension, profile, none⟩
  | _ => none

def validate (configuration : Configuration) : Except Failure Unit :=
  if isBlank configuration.annotationName then .error (.configuration .blankAnnotationName)
  else if isBlank configuration.profile.receiver then .error (.configuration .emptyReceiver)
  else if configuration.fileExtension.isEmpty || configuration.fileExtension.toList.contains '.' then
    .error (.configuration (.unfitExtension configuration.fileExtension))
  else .ok ()

/-- The settings in a text, as they are written there. -/
def settingsOf (content : String) : Except Toml.Fault Configuration := do
  let document ← Toml.read content
  (ofDocument document).elim (.error .malformed) .ok

/-- What is wrong with a configuration that comes from the file `path`. -/
def faultOf (path : Path) : Toml.Fault → ConfigurationFault
  | .malformed => .unreadable path
  | .overlongKey => .overlongKey path

/-- Read the configuration in a text that comes from the file `path`. -/
def read (environment : Environment) (path : Path) (content : String) :
    Except Failure Configuration := do
  let settings ← (settingsOf content).mapError fun fault => .configuration (faultOf path fault)
  let indexPath ← environment.substitute settings.indexPath
  let outputPath ← environment.substitute settings.outputPath
  let configuration : Configuration :=
    { settings with indexPath := indexPath, outputPath := outputPath, base? := path.parent }
  validate configuration
  .ok configuration

theorem validate_eq_ok_iff (configuration : Configuration) :
    validate configuration = .ok () ↔
      isBlank configuration.annotationName = false ∧ isBlank configuration.profile.receiver = false ∧
        configuration.fileExtension.isEmpty = false ∧ '.' ∉ configuration.fileExtension.toList := by
  unfold validate
  split
  · simp_all
  · split
    · simp_all
    · split
      · rename_i h
        simp_all
        exact h.resolve_left
      · simp_all

end Configuration

end ConverterBuilders
