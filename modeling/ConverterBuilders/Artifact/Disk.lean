import ConverterBuilders.Report
import ConverterBuilders.SymbolIndex.Loading

/-!
# Artifacts in files

Artifacts are written below a root directory, each in the directory of its package.  What stood there
before is replaced.
-/

namespace ConverterBuilders

structure Destination where
  root : Path
  extension : String
  deriving DecidableEq, Inhabited

namespace Destination

def ofConfiguration (configuration : Configuration) : Destination :=
  ⟨configuration.output, configuration.fileExtension⟩

def write (destination : Destination) (artifact : Artifact) : Workspace.Task Path := do
  let path := artifact.pathUnder destination.root destination.extension
  match path.parent with
  | some directory => Workspace.change fun here => FileTree.makeDirectories here directory
  | none => pure ()
  Workspace.change fun here => FileTree.writeText here path artifact.text
  pure path

end Destination

namespace Report

def generateFiles (configuration : Configuration) : Workspace.Task Report := do
  let index ← Workspace.inspect fun workspace => SymbolIndex.load workspace configuration.index
  run index.resolver configuration (Destination.ofConfiguration configuration).write

end Report

end ConverterBuilders
