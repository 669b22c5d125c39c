import ConverterBuilders.SymbolIndex.Text
import ConverterBuilders.Workspace

/-!
# Loading symbol indexes

A symbol index lies in one file, or in all files of a directory and the directories below it whose names
are those of index files.

Main statement:

* `indexFiles_of_closed`: a closed directory on the way stops the walk.
-/

namespace ConverterBuilders.SymbolIndex

def walkFailure (path : Path) (fault : FileFault) : Failure :=
  .scan ("IO error for operation on " ++ path.display ++ ": " ++ fault.message)

/-- The path to which some names lead from the root of a walk. -/
def walkedPath (root : Path) (names : Location) : Path :=
  names.foldl (fun path name => path.join ⟨name⟩) root

/-- The name of a file by the names on the way to it from the root of a walk. -/
def walkedName (root : Path) (names : Location) : String :=
  match names.getLast? with
  | some name => name
  | none => root.fileName.getD root.text

/-- The index files at a path and below it, in the order of a walk.  Whether a file is one is seen from the text
that its name is shown as. -/
def indexFiles (workspace : Workspace) (root : Path) : Except Failure (List Path) :=
  match workspace.files.resolve workspace.directory root with
  | .error fault => .error (walkFailure root fault)
  | .ok location =>
    match workspace.files.closedBelow? location with
    | some names => .error (walkFailure (walkedPath root names) .permissionDenied)
    | none =>
      let files := (workspace.files.filesBelow location).filter fun file =>
        isIndexName (Text.lossy (walkedName root file.1))
      .ok ((files.mergeSort fun a b => FileTree.inWalkOrder a.1 b.1).map fun file =>
        walkedPath root file.1)

def loadFile (workspace : Workspace) (index : SymbolIndex) (path : Path) :
    Except Failure SymbolIndex :=
  match Format.ofPath? path with
  | none => .error (.index path .unknownFormat)
  | some format => do
    let content ← workspace.readText path
    match index.merge path format content with
    | (index, none) => .ok index
    | (_, some failure) => .error failure

def load (workspace : Workspace) (path : Path) : Except Failure SymbolIndex :=
  if !workspace.pathExists path then .error (.invalidPath path)
  else if workspace.isDirectory path then do
    let files ← indexFiles workspace path
    files.foldlM (loadFile workspace) empty
  else loadFile workspace empty path

theorem indexFiles_of_closed {workspace : Workspace} {root : Path} {location names : Location}
    (hr : workspace.files.resolve workspace.directory root = .ok location)
    (hc : workspace.files.closedBelow? location = some names) :
    indexFiles workspace root = .error (walkFailure (walkedPath root names) .permissionDenied) := by
  simp only [indexFiles, hr, hc]

end ConverterBuilders.SymbolIndex
