import ConverterBuilders.Toml.Values

/-!
# Reading TOML texts

`Toml.read` gives the table that a TOML text makes.  The whole text is cut into statements before the
first of them takes effect, so of two faults the one that concerns brackets, commas, line ends and
comments is found first, and else the one that stands in front.  Whether one more of several tables may
stand under its header is asked at the end of its section.
-/

namespace ConverterBuilders.Toml

/-- Statements in sections: the assignments in front of all headers, and those behind each header. -/
def sections : List Statement → List Assignment × List (Header × List Assignment)
  | [] => ([], [])
  | .assignment assignment :: rest =>
    (assignment :: (sections rest).1, (sections rest).2)
  | .header header :: rest => ([], (header, (sections rest).1) :: (sections rest).2)

def addSections : List (Header × List Assignment) → Fields → Except Fault Fields
  | [], fields => .ok fields
  | (header, assignments) :: rest, fields => do
    let (path, name) ← keyOf header.key
    let fields ← addSection header.several path name (fill assignments) fields
    addSections rest fields

def fieldsOf (statements : List Statement) : Except Fault Fields := do
  let fields ← fill (sections statements).1 []
  addSections (sections statements).2 fields

def read (s : String) : Except Fault Document :=
  match statements? s with
  | none => .error .malformed
  | some statements => (fieldsOf statements).map fun fields => .table (documentsOfFields fields)

end ConverterBuilders.Toml
