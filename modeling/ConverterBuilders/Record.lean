import ConverterBuilders.Document

/-!
# Records in documents

A record is written as a table of its fields, or as the list of their values in the order of the
record.  A table may hold other fields beside them, which are passed one by one and so must be readable,
and a list may be too short; a record says of each field what its absence means.

Main statements:

* `get?_of_not_mem`, `get?_cons_of_ne`: a name that no field has is absent, and other fields do not
  matter;
* `pick_named`: the fields of a table are looked up one by one.
-/

namespace ConverterBuilders.Record

/-- What stands at the fields of a record: values under names, or values in order. -/
inductive Source (α : Type) where
  | named (fields : List (String × α))
  | ordered (items : List α)

def valuesAt {α : Type} (name : String) (fields : List (String × α)) : List α :=
  (fields.filter fun field => field.1 = name).map Prod.snd

/-- The value under a name if there is one; a name with two values is refused. -/
def get? {α : Type} (name : String) (fields : List (String × α)) : Option (Option α) :=
  match valuesAt name fields with
  | [] => some none
  | [value] => some (some value)
  | _ => none

/-- The values of the fields `names`.  Only a list in a TOML text may hold more values than the record
has fields. -/
def pick {α : Type} (format : Format) (names : List String) : Source α → Option (List (Option α))
  | .named fields => names.mapM fun name => get? name fields
  | .ordered items =>
    if format = .json ∧ names.length < items.length then none
    else some ((List.range names.length).map fun i => items[i]?)

/-- Whether the fields other than `names` can be passed over. -/
def othersReadable (names : List String) (fields : List (String × Document)) : Bool :=
  fields.all fun field => names.contains field.1 || field.2.isReadable

def fields (format : Format) (names : List String) : Document → Option (List (Option Document))
  | .table fields => if othersReadable names fields then pick format names (.named fields) else none
  | .list items => pick format names (.ordered items)
  | _ => none

/-! ## What the absence of a field means -/

def required {α : Type} (read : Document → Option α) (value : Option Document) : Option α :=
  value.bind read

def withDefault {α : Type} (default : α) (read : Document → Option α) : Option Document → Option α
  | some value => read value
  | none => some default

def optional {α : Type} (read : Document → Option α) : Option Document → Option (Option α)
  | some .null => some none
  | some value => (read value).map some
  | none => some none

/-! ## Looking up a field -/

theorem get?_of_not_mem {α : Type} {name : String} {fields : List (String × α)}
    (h : ∀ field ∈ fields, field.1 ≠ name) : get? name fields = some none := by
  have hv : valuesAt name fields = [] := by
    simpa [valuesAt, List.filter_eq_nil_iff] using h
  rw [get?, hv]

theorem get?_cons_of_ne {α : Type} {name other : String} (h : other ≠ name) (value : α)
    (fields : List (String × α)) : get? name ((other, value) :: fields) = get? name fields := by
  simp [get?, valuesAt, h]

theorem get?_cons_self {α : Type} {name : String} (value : α) {fields : List (String × α)}
    (h : ∀ field ∈ fields, field.1 ≠ name) :
    get? name ((name, value) :: fields) = some (some value) := by
  have hv : valuesAt name fields = [] := by
    simpa [valuesAt, List.filter_eq_nil_iff] using h
  have hc : valuesAt name ((name, value) :: fields) = value :: valuesAt name fields := by
    simp [valuesAt]
  rw [get?, hc, hv]

theorem pick_named {α : Type} (format : Format) (names : List String) (fields : List (String × α)) :
    pick format names (.named fields) = names.mapM fun name => get? name fields := rfl

end ConverterBuilders.Record
