import ConverterBuilders.Path

/-!
# Configurations

What a run is told: which annotation marks converters, where the symbol index lies, where artifacts go,
and what all generated sources share.  Relative paths are meant from the base directory.

Main statement:

* `resolve_absolute`: the base directory does not matter for an absolute path.
-/

namespace ConverterBuilders

structure Profile where
  /-- The type that builder functions extend. -/
  receiver : String
  /-- The markers that a generated file opts into. -/
  optIns : List String
  /-- The imports of every generated file. -/
  runtimeImports : List String
  deriving DecidableEq, Inhabited

structure Configuration where
  annotationName : String
  parallel : Bool
  indexPath : String
  outputPath : String
  fileExtension : String
  profile : Profile
  /-- The directory from which relative paths are meant. -/
  base? : Option Path
  deriving DecidableEq, Inhabited

def Configuration.fileName : String := "convgen.toml"

def Profile.default : Profile where
  receiver := "Arguments"
  optIns := ["KordPreview", "ConverterToDefaulting", "ConverterToMulti", "ConverterToOptional"]
  runtimeImports :=
    ["com.kotlindiscord.kord.extensions.commands.converters.*",
      "com.kotlindiscord.kord.extensions.commands.parser.Arguments",
      "dev.kord.common.annotation.KordPreview"]

namespace Configuration

def default : Configuration where
  annotationName := "com.kotlindiscord.kord.extensions.modules.annotations.converters.Converter"
  parallel := true
  indexPath := "./build/convgen/"
  outputPath := "./build/generated/convgen/"
  fileExtension := "kt"
  profile := Profile.default
  base? := none

/-- A path of the settings, put below the base directory if it is relative. -/
def resolve (configuration : Configuration) (text : String) : Path :=
  match configuration.base? with
  | some base => base.join ⟨text⟩
  | none => ⟨text⟩

def index (configuration : Configuration) : Path := configuration.resolve configuration.indexPath

def output (configuration : Configuration) : Path := configuration.resolve configuration.outputPath

theorem resolve_absolute (configuration : Configuration) {text : String}
    (h : (Path.mk text).isAbsolute = true) : configuration.resolve text = ⟨text⟩ := by
  rw [resolve]
  split
  · exact Path.join_absolute _ h
  · rfl

end Configuration

end ConverterBuilders
