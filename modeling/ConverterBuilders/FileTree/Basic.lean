import ConverterBuilders.Failure
import ConverterBuilders.OrderedMap

/-!
# Trees of files

A tree of files says what stands at each location below the root: a directory or a file with its
content.  Paths are followed step by step from the root or from a working directory.  What a closed directory
holds can be neither listed nor reached.

There are no links, neither symbolic ones nor a second name of one file, and names that differ in a character,
if only in its case, are the names of different files.

Main statement:

* `node?_put_self`, `node?_put_of_ne`: putting something at a location changes nothing elsewhere.
-/

namespace ConverterBuilders

open Text

/-- The names on the way from the root to a file or directory. -/
abbrev Location := List String

/-- What a file holds: a text, or bytes that are none. -/
inductive FileContent where
  | text (content : String)
  | binary (bytes : ByteArray)
  deriving Inhabited

inductive FileNode where
  | directory
  | closed
  | file (content : FileContent)
  deriving Inhabited

def FileContent.ofBytes (bytes : ByteArray) : FileContent :=
  match String.fromUTF8? bytes with
  | some content => .text content
  | none => .binary bytes

def FileNode.isDirectory : FileNode → Bool
  | .directory | .closed => true
  | .file _ => false

structure FileTree where
  nodes : OrderedMap Location FileNode
  deriving Inhabited

namespace FileTree

def empty : FileTree := ⟨OrderedMap.empty⟩

/-- What stands at a location; the root is a directory. -/
def node? (tree : FileTree) (location : Location) : Option FileNode :=
  if location = [] then some .directory else tree.nodes.get? location

def put (tree : FileTree) (location : Location) (node : FileNode) : FileTree :=
  ⟨tree.nodes.insert location node⟩

def hasDirectory (tree : FileTree) (location : Location) : Bool :=
  (tree.node? location).any FileNode.isDirectory

def isClosed (tree : FileTree) (location : Location) : Bool :=
  match tree.node? location with
  | some .closed => true
  | _ => false

/-! ## Following paths -/

/-- Where a path begins, from a working directory. -/
def start (directory : Location) (path : Path) : Location := if path.isAbsolute then [] else directory

/-- The location that a path names from a directory, whether something stands there or not. -/
def locationOf (directory : Location) (path : Path) : Location :=
  (splitText '/' path.text).foldl
    (fun here piece =>
      if piece = "" ∨ piece = "." then here
      else if piece = ".." then here.dropLast
      else here ++ [piece])
    (start directory path)

/-- Go one piece of a path further.  Every piece, even an empty one, needs a directory to go on from, and
every other piece one that is not closed. -/
def step (tree : FileTree) (here : Location) (piece : String) : Except FileFault Location :=
  if !tree.hasDirectory here then .error .notDirectory
  else if piece = "" then .ok here
  else if tree.isClosed here then .error .permissionDenied
  else if piece = "." then .ok here
  else if piece = ".." then .ok here.dropLast
  else if (tree.node? (here ++ [piece])).isSome then .ok (here ++ [piece])
  else .error .notFound

def follow (tree : FileTree) : Location → List String → Except FileFault Location
  | here, [] => .ok here
  | here, piece :: pieces =>
    match tree.step here piece with
    | .ok next => follow tree next pieces
    | .error fault => .error fault

/-- Where the existing file or directory of a path stands. -/
def resolve (tree : FileTree) (directory : Location) (path : Path) : Except FileFault Location :=
  if path.text.isEmpty then .error .notFound
  else tree.follow (start directory path) (splitText '/' path.text)

def at? (tree : FileTree) (directory : Location) (path : Path) : Option FileNode :=
  match tree.resolve directory path with
  | .ok location => tree.node? location
  | .error _ => none

def pathExists (tree : FileTree) (directory : Location) (path : Path) : Bool :=
  (tree.at? directory path).isSome

def isDirectory (tree : FileTree) (directory : Location) (path : Path) : Bool :=
  (tree.at? directory path).any FileNode.isDirectory

def isFile (tree : FileTree) (directory : Location) (path : Path) : Bool :=
  (tree.at? directory path).any fun node => !node.isDirectory

def readText (tree : FileTree) (directory : Location) (path : Path) : Except FileFault String :=
  match tree.resolve directory path with
  | .error fault => .error fault
  | .ok location =>
    match tree.node? location with
    | none => .error .notFound
    | some .directory => .error .isDirectory
    | some .closed => .error .permissionDenied
    | some (.file (.text content)) => .ok content
    | some (.file (.binary _)) => .error .notUnicode

/-- The files at a location and below it, with the names on the way there, in the order of the names. -/
def filesBelow (tree : FileTree) (location : Location) : List (Location × FileContent) :=
  tree.nodes.entries.filterMap fun entry =>
    match entry.2 with
    | .directory | .closed => none
    | .file content =>
      if location.isPrefixOf entry.1 then some (entry.1.drop location.length, content) else none

/-- Whether names lead to something that a walk meets no later than what other names lead to.  A walk takes the
names in a directory in the order of their bytes. -/
def inWalkOrder (names others : List String) : Bool :=
  (compare (names.map bytesOfName) (others.map bytesOfName)).isLE

/-- The names on the way to the first closed directory that a walk meets at a location or below it. -/
def closedBelow? (tree : FileTree) (location : Location) : Option Location :=
  let closed := tree.nodes.entries.filterMap fun entry =>
    match entry.2 with
    | .directory | .file _ => none
    | .closed => if location.isPrefixOf entry.1 then some (entry.1.drop location.length) else none
  (closed.mergeSort inWalkOrder).head?

/-! ## Laws -/

theorem node?_put_self (tree : FileTree) {location : Location} (h : location ≠ [])
    (node : FileNode) : (tree.put location node).node? location = some node := by
  simp [node?, put, h, OrderedMap.get?_insert_self]

theorem node?_put_of_ne (tree : FileTree) {location other : Location} (h : other ≠ location)
    (node : FileNode) : (tree.put location node).node? other = tree.node? other := by
  have hc : compare other location ≠ .eq := fun e => h (Std.LawfulEqOrd.eq_of_compare e)
  simp [node?, put, OrderedMap.get?_insert_of_ne _ _ hc]

end FileTree

end ConverterBuilders
