import ConverterBuilders.Configuration.Reader
import ConverterBuilders.Workspace

/-!
# Finding configurations

A configuration file is named by the caller, or it is the nearest one in a directory and those above
it.  The environment file is read before the configuration.
-/

namespace ConverterBuilders.Configuration

/-- The variable that names the directory in which the search begins. -/
def startVariable : String := "CARGO_MANIFEST_DIR"

/-- The first of several directories' configuration files that exists. -/
def firstFile? (workspace : Workspace) : List Path → Option Path
  | [] => none
  | directory :: rest =>
    if workspace.isFile (directory.join ⟨fileName⟩) then some (directory.join ⟨fileName⟩)
    else firstFile? workspace rest

/-- The configuration file of a directory or of the nearest directory above it that has one. -/
def find (workspace : Workspace) (start : Path) : Except Failure Path :=
  match firstFile? workspace start.ancestors with
  | some path => .ok path
  | none => .error (.configurationNotFound start)

def loadFile (path : Path) : Workspace.Task Configuration := do
  modify Workspace.loadEnvironment
  let content ← Workspace.inspect fun workspace => workspace.readText path
  Workspace.inspect fun workspace => read workspace.environment path content

def searchStart (workspace : Workspace) : Except Failure Path :=
  match workspace.environment.get? startVariable with
  | some directory => .ok ⟨directory⟩
  | none => workspace.currentDirectory

def discover : Workspace.Task Configuration := do
  modify Workspace.loadEnvironment
  let path ← Workspace.inspect fun workspace => searchStart workspace >>= find workspace
  loadFile path

/-- Read the configuration file at a path, or find one if there is no path. -/
def load : Option Path → Workspace.Task Configuration
  | some path => loadFile path
  | none => discover

end ConverterBuilders.Configuration
