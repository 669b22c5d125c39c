import ConverterBuilders.EnvironmentFile
import ConverterBuilders.FileTree.Writing

/-!
# Workspaces

A run works in a directory of a tree of files and with the variables of an environment.
-/

namespace ConverterBuilders

structure Workspace where
  files : FileTree
  directory : Location
  environment : Environment
  deriving Inhabited

namespace Workspace

def directoryPath (workspace : Workspace) : Path :=
  ⟨"/" ++ String.intercalate "/" workspace.directory⟩

/-- The path of the working directory, if it has not been removed. -/
def currentDirectory (workspace : Workspace) : Except Failure Path :=
  if workspace.files.hasDirectory workspace.directory then .ok workspace.directoryPath
  else .error (.file .notFound)

/-- The text of a path, which is put below the working directory if it is relative. -/
def absolute (workspace : Workspace) (path : Path) : Except Failure String :=
  if path.isAbsolute then .ok path.display
  else workspace.currentDirectory.map fun here => (here.join path).display

def pathExists (workspace : Workspace) (path : Path) : Bool :=
  workspace.files.pathExists workspace.directory path

def isDirectory (workspace : Workspace) (path : Path) : Bool :=
  workspace.files.isDirectory workspace.directory path

def isFile (workspace : Workspace) (path : Path) : Bool :=
  workspace.files.isFile workspace.directory path

def readText (workspace : Workspace) (path : Path) : Except Failure String :=
  (workspace.files.readText workspace.directory path).mapError .file

/-! ## Changes -/

abbrev Task := ExceptT Failure (StateM Workspace)

def inspect {α : Type} (look : Workspace → Except Failure α) : Task α := do
  match look (← get) with
  | .ok a => pure a
  | .error failure => throw failure

/-- A change of the files, made from the working directory. -/
def change (action : Location → FileTree.Change Unit) : Task Unit := do
  let workspace ← get
  let (result, files) := (action workspace.directory).run.run workspace.files
  set { workspace with files := files }
  match result with
  | .ok () => pure ()
  | .error fault => throw (.file fault)

/-! ## Environment files -/

/-- The environment file of the first of several directories that has one.  The search ends at a directory in
which it cannot be told whether there is one. -/
def environmentFile? (workspace : Workspace) : List Path → Option FileContent
  | [] => none
  | directory :: rest =>
    match workspace.files.resolve workspace.directory (directory.join ⟨EnvironmentFile.fileName⟩) with
    | .ok location =>
      match workspace.files.node? location with
      | some (.file content) => some content
      | _ => environmentFile? workspace rest
    | .error .notFound => environmentFile? workspace rest
    | .error _ => none

/-- The workspace after reading the environment file of the working directory or of the nearest
directory above it that has one. -/
def loadEnvironment (workspace : Workspace) : Workspace :=
  match workspace.currentDirectory with
  | .error _ => workspace
  | .ok here =>
    match workspace.environmentFile? here.ancestors with
    | some content =>
      { workspace with environment := EnvironmentFile.load workspace.environment content }
    | none => workspace

end Workspace

end ConverterBuilders
