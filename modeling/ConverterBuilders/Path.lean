import ConverterBuilders.Text.Names
import ConverterBuilders.Text.Split

/-!
# Paths

A path is a text of names between slashes.  Its text is kept as it was given, and its meaning is its
list of components: repeated slashes, a slash at the end and single dots inside a path do not count.  The names
are those of files, so they need not be texts.

Main statement:

* `join_absolute`: joining an absolute path puts it in the place of the base.
-/

namespace ConverterBuilders

open Text

structure Path where
  text : String
  deriving DecidableEq, Inhabited

namespace Path

inductive Component where
  | root
  | current
  | parent
  | name (text : String)
  deriving DecidableEq, Inhabited

/-! ## Reading a path -/

def isAbsolute (path : Path) : Bool := path.text.toList.head? = some '/'

/-- The first component if it is the root or a single dot, and the characters after it. -/
def lead : List Char → Option Component × List Char
  | '/' :: rest => (some .root, rest)
  | ['.'] => (some .current, [])
  | '.' :: '/' :: rest => (some .current, '/' :: rest)
  | cs => (none, cs)

def isIdle (piece : List Char) : Bool := piece = [] || piece = ['.']

def Component.ofPiece (piece : List Char) : Component :=
  if piece = ['.', '.'] then .parent else .name (String.ofList piece)

def bodyComponents (body : List Char) : List Component :=
  ((split '/' body).filter fun piece => !isIdle piece).map Component.ofPiece

def components (path : Path) : List Component :=
  (lead path.text.toList).1.toList ++ bodyComponents (lead path.text.toList).2

/-- The text by which components are ordered: the root, then `.`, then `..`, then names. -/
def Component.rank : Component → String
  | .root => "0"
  | .current => "1"
  | .parent => "2"
  | .name text => "3" ++ text

/-- What two paths with the same components share; paths are ordered by it. -/
def key (path : Path) : List String := path.components.map Component.rank

/-! ## Building a path -/

/-- Put `sub` below `base`; an absolute `sub` stays by itself. -/
def join (base sub : Path) : Path :=
  if sub.isAbsolute then sub
  else if base.text.toList.getLast?.any (· ≠ '/') then ⟨base.text ++ "/" ++ sub.text⟩
  else ⟨base.text ++ sub.text⟩

/-- The pieces of a body from the last that names a step to the first. -/
def backPieces (body : List Char) : List (List Char) :=
  (split '/' body).reverse.dropWhile isIdle

def leadText : Option Component → List Char
  | some .root => ['/']
  | some .current => ['.']
  | _ => []

/-- The path without its last component; the root and the empty path have none. -/
def parent (path : Path) : Option Path :=
  let (start, body) := lead path.text.toList
  match backPieces body with
  | _ :: before =>
    some ⟨String.ofList (leadText start ++ List.intercalate ['/'] (before.dropWhile isIdle).reverse)⟩
  | [] => if start = some .current then some ⟨""⟩ else none

/-- The last component, if it is a name. -/
def fileName (path : Path) : Option String :=
  match backPieces (lead path.text.toList).2 with
  | piece :: _ => if piece = ['.', '.'] then none else some (String.ofList piece)
  | [] => none

/-- At most `fuel` of the path, its parent, its parent's parent and so on. -/
def ancestorsWithin : Nat → Path → List Path
  | 0, _ => []
  | fuel + 1, path =>
    match path.parent with
    | none => [path]
    | some up => path :: ancestorsWithin fuel up

/-- The path, its parent, its parent's parent and so on. -/
def ancestors (path : Path) : List Path := ancestorsWithin (path.text.length + 1) path

/-! ## Showing a path -/

def isText (path : Path) : Bool := Text.isText path.text

def display (path : Path) : String := lossy path.text

def quoted (path : Path) : String := quoteName path.text

/-! ## Laws of joining -/

theorem join_absolute (base : Path) {sub : Path} (h : sub.isAbsolute = true) :
    base.join sub = sub := by
  simp [join, h]

end Path

end ConverterBuilders
