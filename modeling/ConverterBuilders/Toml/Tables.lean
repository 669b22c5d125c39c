import ConverterBuilders.Document
import ConverterBuilders.Toml.Keys

/-!
# Tables in the making

The statements of a TOML text fill nested tables bit by bit.  How a table came about decides how it may
grow: a table under a header gets its fields there and nowhere else, a table that only leads to another
one may get its own header later, and a table made by a dotted key may grow by further dotted keys.  A
dotted key that leads through a table on the way to another one makes it a table of its own kind.

Main statements:

* `assign_simple`: a plain key adds a field to the table itself;
* `update_of_absent`: a field that was absent is added at the end.
-/

namespace ConverterBuilders.Toml

inductive Origin where
  /-- By a header of its own. -/
  | header
  /-- On the way to a table with a header. -/
  | passage
  /-- By a dotted key. -/
  | dotted
  deriving DecidableEq, Inhabited

/-- What stands under a key: a finished value, a table, or a list of tables of which the last may
grow. -/
inductive Node where
  | value (document : Document)
  | table (origin : Origin) (fields : List (String × Node))
  | tables (items : List (List (String × Node)))
  deriving Inhabited

abbrev Fields := List (String × Node)

/-- Change the node under a key, which may be absent; `change` may refuse. -/
def update (key : String) (change : Option Node → Except Fault Node) : Fields → Except Fault Fields
  | [] => (change none).map fun node => [(key, node)]
  | (name, node) :: rest =>
    if name = key then (change (some node)).map fun node => (name, node) :: rest
    else (update key change rest).map fun rest => (name, node) :: rest

/-- Change the last of several tables, if there is one. -/
def updateLast (change : Fields → Except Fault Fields) (items : List Fields) :
    Except Fault (List Fields) :=
  match items.getLast? with
  | none => .error .malformed
  | some last => (change last).map fun last => items.dropLast ++ [last]

/-- What a table is after a path of keys has led through it: a dotted key may not lead through a table
with a header. -/
def Origin.passed? (dotted : Bool) : Origin → Option Origin
  | .header => if dotted then none else some .header
  | .passage => if dotted then some .dotted else some .passage
  | .dotted => some .dotted

/-- Go down a path of keys and change the fields of the table at its end; `change` sees how that table
came about.  The path of a dotted key makes tables of its own kind, and leads to the last of several
tables as any other. -/
def descend (dotted : Bool) (change : Origin → Fields → Except Fault Fields) :
    List String → Origin → Fields → Except Fault Fields
  | [], origin, fields => change origin fields
  | key :: path, _, fields =>
    let made : Origin := if dotted then .dotted else .passage
    update key
      (fun node =>
        match node with
        | none => (descend dotted change path made []).map (.table made)
        | some (.table origin inner) =>
          match origin.passed? dotted with
          | none => .error .malformed
          | some origin => (descend dotted change path origin inner).map (.table origin)
        | some (.tables items) => (updateLast (descend dotted change path .header) items).map .tables
        | some (.value _) => .error .malformed)
      fields

def putNew (key : String) (value : Document) : Fields → Except Fault Fields :=
  update key fun node =>
    match node with
    | none => .ok (.value value)
    | some _ => .error .malformed

/-- Put a value under a key at the end of a path, which must be a table made by a dotted key. -/
def assign (path : List String) (key : String) (value : Document) (fields : Fields) :
    Except Fault Fields :=
  descend true
    (fun origin inner =>
      if path ≠ [] ∧ origin ≠ .dotted then .error .malformed else putNew key value inner)
    path .header fields

/-- Put a section under a key at the end of a path, with the fields that `fill` gives it. -/
def addTable (path : List String) (key : String) (fill : Fields → Except Fault Fields)
    (root : Fields) : Except Fault Fields :=
  descend false
    (fun _ =>
      update key fun node =>
        match node with
        | none => (fill []).map (.table .header)
        | some (.table .passage inner) => (fill inner).map (.table .header)
        | some _ => .error .malformed)
    path .header root

/-- Put one more of several tables under a key at the end of a path. -/
def pushTable (path : List String) (key : String) (item root : Fields) : Except Fault Fields :=
  descend false
    (fun _ =>
      update key fun node =>
        match node with
        | none => .ok (.tables [item])
        | some (.tables items) => .ok (.tables (items ++ [item]))
        | some _ => .error .malformed)
    path .header root

/-- Put a section under a key at the end of a path, with the fields that `fill` gives it.  The section
may be one more of `several` tables, which finds its place only when it is filled. -/
def addSection (several : Bool) (path : List String) (key : String)
    (fill : Fields → Except Fault Fields) (root : Fields) : Except Fault Fields :=
  if several then do
    let item ← fill []
    pushTable path key item root
  else addTable path key fill root

/-! ## As documents -/

mutual

def Node.document : Node → Document
  | .value document => document
  | .table _ fields => .table (documentsOfFields fields)
  | .tables items => .list (documentsOfTables items)

def documentsOfFields : List (String × Node) → List (String × Document)
  | [] => []
  | (key, node) :: rest => (key, node.document) :: documentsOfFields rest

def documentsOfTables : List (List (String × Node)) → List Document
  | [] => []
  | fields :: rest => .table (documentsOfFields fields) :: documentsOfTables rest

end

/-! ## Laws -/

theorem update_of_absent {key : String} (change : Option Node → Except Fault Node) {fields : Fields}
    (h : ∀ field ∈ fields, field.1 ≠ key) :
    update key change fields = (change none).map fun node => fields ++ [(key, node)] := by
  induction fields with
  | nil => rfl
  | cons field rest ih =>
    obtain ⟨name, node⟩ := field
    have hn : name ≠ key := h (name, node) (List.mem_cons_self ..)
    rw [update, if_neg hn, ih fun f hf => h f (List.mem_cons_of_mem _ hf)]
    cases change none <;> rfl

theorem assign_simple (key : String) (value : Document) (fields : Fields) :
    assign [] key value fields = putNew key value fields := by
  simp [assign, descend]

theorem putNew_of_absent {key : String} (value : Document) {fields : Fields}
    (h : ∀ field ∈ fields, field.1 ≠ key) :
    putNew key value fields = .ok (fields ++ [(key, .value value)]) := by
  rw [putNew, update_of_absent _ h]
  rfl

end ConverterBuilders.Toml
