import ConverterBuilders.Record
import ConverterBuilders.Text.Split

/-!
# References to types

A type is referred to by its simple name, by its qualified name if that is known, and by its type
arguments.

Main statement:

* `isFullyResolved_iff`: a reference is resolved at every depth exactly if it is resolved itself and
  all its arguments are.
-/

namespace ConverterBuilders

open Text

/-- A reference to a type.  It is resolved if its qualified name is known. -/
structure TypeReference where
  name : String
  qualifiedName? : Option String
  arguments : List TypeReference
  deriving Inhabited

namespace TypeReference

/-- The reference to a type known by its qualified name; the simple name is its last part. -/
def resolved (qualifiedName : String) : TypeReference :=
  ⟨afterLastText '.' qualifiedName, some qualifiedName, []⟩

def isResolved (type : TypeReference) : Bool := type.qualifiedName?.isSome

mutual

/-- Whether the qualified name is known here and in every argument at every depth. -/
def isFullyResolved : TypeReference → Bool
  | ⟨_, qualifiedName?, arguments⟩ => qualifiedName?.isSome && allFullyResolved arguments

/-- Whether all of the references are resolved at every depth. -/
def allFullyResolved : List TypeReference → Bool
  | [] => true
  | type :: types => type.isFullyResolved && allFullyResolved types

end

/-! ## As a document -/

def fieldNames : List String := ["name", "qualified_name", "arguments"]

mutual

/-- The table that stands for a reference; an unknown qualified name and an empty list of arguments are
left out. -/
def write : TypeReference → Document
  | ⟨name, qualifiedName?, arguments⟩ =>
    .table
      (("name", .text name) ::
        (qualifiedName?.toList.map fun qualified => ("qualified_name", .text qualified)) ++
        (match writeAll arguments with
          | [] => []
          | items => [("arguments", .list items)]))

def writeAll : List TypeReference → List Document
  | [] => []
  | type :: types => write type :: writeAll types

end

/-- A reference from the values of its fields.  The arguments are read beforehand, so each value comes
with what it gives as a list of references. -/
def assemble : List (Option (Document × Option (List TypeReference))) → Option TypeReference
  | [name, qualifiedName, arguments] => do
    let name ← Record.required Document.text? (name.map Prod.fst)
    let qualifiedName? ← Record.optional Document.text? (qualifiedName.map Prod.fst)
    let arguments ← match arguments with
      | some (_, arguments) => arguments
      | none => some []
    some ⟨name, qualifiedName?, arguments⟩
  | _ => none

mutual

def read (format : Format) : Document → Option TypeReference
  | .table fields =>
    if Record.othersReadable fieldNames fields then
      (Record.pick format fieldNames (.named (readFields format fields))).bind assemble
    else none
  | .list items => (Record.pick format fieldNames (.ordered (readItems format items))).bind assemble
  | .null | .boolean _ | .integer _ | .text _ | .foreign | .unreadable => none

def readList (format : Format) : Document → Option (List TypeReference)
  | .list items => readAll format items
  | .null | .boolean _ | .integer _ | .text _ | .table _ | .foreign | .unreadable => none

def readAll (format : Format) : List Document → Option (List TypeReference)
  | [] => some []
  | item :: items => do
    let type ← read format item
    let types ← readAll format items
    some (type :: types)

/-- The values of a list, each with what it gives as a list of references. -/
def readItems (format : Format) : List Document → List (Document × Option (List TypeReference))
  | [] => []
  | item :: items => (item, readList format item) :: readItems format items

/-- The values of a table, each with what it gives as a list of references. -/
def readFields (format : Format) :
    List (String × Document) → List (String × Document × Option (List TypeReference))
  | [] => []
  | (name, value) :: fields => (name, value, readList format value) :: readFields format fields

end

/-! ## Laws -/

theorem allFullyResolved_eq (types : List TypeReference) :
    allFullyResolved types = types.all isFullyResolved := by
  induction types with
  | nil => simp [allFullyResolved]
  | cons type types ih => simp [allFullyResolved, ih]

theorem isFullyResolved_iff (type : TypeReference) :
    type.isFullyResolved = true ↔
      type.isResolved = true ∧ ∀ argument ∈ type.arguments, argument.isFullyResolved = true := by
  cases type with
  | mk name qualifiedName? arguments =>
    simp [isFullyResolved, isResolved, allFullyResolved_eq]

end TypeReference

end ConverterBuilders
