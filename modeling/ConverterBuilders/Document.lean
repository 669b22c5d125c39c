/-!
# Documents

The values that a structured text holds, whatever its format: nothing, truth values, integers, texts,
lists and tables.  A table keeps its fields in the order in which they were written, and a field name
may occur twice.
-/

namespace ConverterBuilders

/-- A value of a structured text.  A `foreign` value is one that no record of this library can hold,
such as a decimal number.  An `unreadable` value looks like a number and is none: it may stand only where
nobody comes past it. -/
inductive Document where
  | null
  | boolean (value : Bool)
  | integer (value : Int)
  | text (value : String)
  | list (items : List Document)
  | table (fields : List (String × Document))
  | foreign
  | unreadable
  deriving Inhabited

inductive Format where
  | json
  | toml
  deriving DecidableEq, Inhabited

namespace Document

def text? : Document → Option String
  | .text value => some value
  | _ => none

def boolean? : Document → Option Bool
  | .boolean value => some value
  | _ => none

/-- The items of a list, each read by `read`. -/
def listOf? {α : Type} (read : Document → Option α) : Document → Option (List α)
  | .list items => items.mapM read
  | _ => none

mutual

/-- Whether nothing unreadable stands in a document at any depth. -/
def isReadable : Document → Bool
  | .unreadable => false
  | .list items => areReadable items
  | .table fields => fieldsAreReadable fields
  | .null | .boolean _ | .integer _ | .text _ | .foreign => true

/-- Whether nothing unreadable stands in several documents. -/
def areReadable : List Document → Bool
  | [] => true
  | item :: items => item.isReadable && areReadable items

def fieldsAreReadable : List (String × Document) → Bool
  | [] => true
  | (_, value) :: fields => value.isReadable && fieldsAreReadable fields

end

def texts (values : List String) : Document := .list (values.map .text)

end Document

end ConverterBuilders
