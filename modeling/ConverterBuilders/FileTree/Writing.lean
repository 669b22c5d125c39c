import ConverterBuilders.FileTree.Basic

/-!
# Writing files and directories

What is written at a path stands in the directory that the path without its last name leads to.  A
directory can be made together with all those that lead to it.

Main statement:

* `writeText_of_refused`: a text that cannot be written changes nothing.
-/

namespace ConverterBuilders.FileTree

open Text

abbrev Change := ExceptT FileFault (StateM FileTree)

/-- A path in the pieces in front of its last name, that name, and whether a slash stands behind it. -/
def splitLast (path : Path) : Option (List String × String × Bool) :=
  let pieces := (splitText '/' path.text).reverse
  match pieces.dropWhile (·.isEmpty) with
  | [] => none
  | last :: front => some (front.reverse, last, pieces.head? = some "")

/-- Whether a piece names no file of its own. -/
def isDots (piece : String) : Bool := piece = "." || piece = ".."

/-- The directory that pieces lead to, which must not be closed. -/
def enter (tree : FileTree) (here : Location) (pieces : List String) : Except FileFault Location :=
  match tree.follow here pieces with
  | .error fault => .error fault
  | .ok location =>
    if !tree.hasDirectory location then .error .notDirectory
    else if tree.isClosed location then .error .permissionDenied
    else .ok location

def directoryPlace (tree : FileTree) (directory : Location) (path : Path) :
    Except FileFault Location :=
  if path.text.isEmpty then .error .notFound
  else
    match splitLast path with
    | none => .error .alreadyExists
    | some (front, last, _) =>
      match tree.enter (start directory path) front with
      | .error fault => .error fault
      | .ok location =>
        if isDots last || (tree.node? (location ++ [last])).isSome then .error .alreadyExists
        else .ok (location ++ [last])

def textPlace (tree : FileTree) (directory : Location) (path : Path) : Except FileFault Location :=
  if path.text.isEmpty then .error .notFound
  else
    match splitLast path with
    | none => .error .isDirectory
    | some (front, last, slash) =>
      match tree.enter (start directory path) front with
      | .error fault => .error fault
      | .ok location =>
        if slash || isDots last || tree.hasDirectory (location ++ [last]) then .error .isDirectory
        else .ok (location ++ [last])

/-- Put a node at a place if there is one. -/
def putAt (place : Except FileFault Location) (node : FileNode) : Change Unit :=
  match place with
  | .ok location => modify fun tree => tree.put location node
  | .error fault => throw fault

/-- Write a text into the file at a path, which is made if it is absent. -/
def writeText (directory : Location) (path : Path) (content : String) : Change Unit := do
  putAt ((← get).textPlace directory path) (.file (.text content))

/-- Make a directory, except where there is one already. -/
def makeOrKeep (directory : Location) (path : Path) : Change Unit := do
  match (← get).directoryPlace directory path with
  | .ok location => modify fun tree => tree.put location .directory
  | .error fault => if (← get).isDirectory directory path then pure () else throw fault

/-- Make the first of several paths, of which each lies in the next, and those that it needs. -/
def makeChain (directory : Location) : List Path → Change Unit
  | [] => pure ()
  | path :: ups => do
    if path.text.isEmpty then pure ()
    else
      match (← get).directoryPlace directory path with
      | .error .notFound => do
        makeChain directory ups
        makeOrKeep directory path
      | _ => makeOrKeep directory path

/-- Make the directory at a path and all that lead to it. -/
def makeDirectories (directory : Location) (path : Path) : Change Unit :=
  makeChain directory path.ancestors

theorem writeText_of_refused {tree : FileTree} {directory : Location} {path : Path}
    {fault : FileFault} (h : tree.textPlace directory path = .error fault) (content : String) :
    (writeText directory path content).run.run tree = (.error fault, tree) := by
  simp only [writeText, putAt, ExceptT.run, bind, ExceptT.bind, ExceptT.mk, ExceptT.bindCont, get,
    getThe, MonadStateOf.get, liftM, monadLift, MonadLift.monadLift, ExceptT.lift, StateT.get,
    StateT.run, StateT.bind, Functor.map, StateT.map, pure, h]
  rfl

end ConverterBuilders.FileTree
