import ConverterBuilders.OrderedMap
import ConverterBuilders.Record

/-!
# Values of annotation arguments

The arguments of an annotation are truth values, integers of 64 bits, texts, and lists of such values.

Main statements:

* `read_write`: a value is read back from the document that it is written to;
* `write_of_read`: a document that is read as a value is what the value is written to.
-/

namespace ConverterBuilders

inductive AnnotationValue where
  | boolean (value : Bool)
  | integer (value : Int64)
  | text (value : String)
  | list (items : List AnnotationValue)
  deriving Inhabited

abbrev AnnotationArguments := OrderedMap String AnnotationValue

namespace AnnotationValue

def text? : AnnotationValue → Option String
  | .text value => some value
  | _ => none

def list? : AnnotationValue → Option (List AnnotationValue)
  | .list items => some items
  | _ => none

def kindName : AnnotationValue → String
  | .boolean _ => "boolean"
  | .integer _ => "integer"
  | .text _ => "string"
  | .list _ => "list"

/-! ## As a document -/

mutual

def write : AnnotationValue → Document
  | .boolean value => .boolean value
  | .integer value => .integer value.toInt
  | .text value => .text value
  | .list items => .list (writeAll items)

def writeAll : List AnnotationValue → List Document
  | [] => []
  | item :: items => write item :: writeAll items

end

/-- Whether an integer has 64 bits. -/
def inWord (n : Int) : Bool := Int64.minValue.toInt ≤ n && n ≤ Int64.maxValue.toInt

mutual

def read : Document → Option AnnotationValue
  | .boolean value => some (.boolean value)
  | .integer value => if inWord value then some (.integer (Int64.ofInt value)) else none
  | .text value => some (.text value)
  | .list items => (readAll items).map .list
  | .null | .table _ | .foreign | .unreadable => none

def readAll : List Document → Option (List AnnotationValue)
  | [] => some []
  | item :: items => do
    let value ← read item
    let values ← readAll items
    some (value :: values)

end

/-- The arguments in a table; of fields with one name the last counts. -/
def readArguments : Document → Option AnnotationArguments
  | .table fields => do
    let entries ← fields.mapM fun field => (read field.2).map (field.1, ·)
    some (OrderedMap.ofList entries)
  | _ => none

def writeArguments (arguments : AnnotationArguments) : Document :=
  .table (arguments.entries.map fun entry => (entry.1, write entry.2))

/-! ## Laws -/

theorem inWord_toInt (n : Int64) : inWord n.toInt = true := by
  simp only [inWord, Bool.and_eq_true, decide_eq_true_eq]
  exact ⟨Int64.minValue_le_toInt n, Int64.toInt_le n⟩

mutual

theorem read_write : (value : AnnotationValue) → read value.write = some value
  | .boolean _ => rfl
  | .integer n => by simp [write, read, inWord_toInt, Int64.ofInt_toInt]
  | .text _ => rfl
  | .list items => by simp [write, read, readAll_writeAll items]

theorem readAll_writeAll : (items : List AnnotationValue) → readAll (writeAll items) = some items
  | [] => rfl
  | item :: items => by simp [writeAll, readAll, read_write item, readAll_writeAll items]

end

theorem toInt_ofInt_of_inWord {n : Int} (h : inWord n = true) : (Int64.ofInt n).toInt = n := by
  simp only [inWord, Bool.and_eq_true, decide_eq_true_eq] at h
  rw [Int64.toInt_minValue, Int64.toInt_maxValue] at h
  exact Int64.toInt_ofInt_of_le h.1 (Int.lt_of_le_sub_one h.2)

mutual

theorem write_of_read : (document : Document) → {value : AnnotationValue} →
    read document = some value → value.write = document
  | .boolean _, _, h => by cases h; rfl
  | .integer n, _, h => by
    rw [read] at h
    split at h
    · rename_i hn
      simp only [Option.some.injEq] at h
      rw [← h, write, toInt_ofInt_of_inWord hn]
    · simp at h
  | .text _, _, h => by cases h; rfl
  | .list items, value, h => by
    rw [read] at h
    obtain ⟨values, hv, rfl⟩ := Option.map_eq_some_iff.mp h
    rw [write, writeAll_of_readAll items hv]
  | .null, _, h => by simp [read] at h
  | .table _, _, h => by simp [read] at h
  | .foreign, _, h => by simp [read] at h
  | .unreadable, _, h => by simp [read] at h

theorem writeAll_of_readAll : (items : List Document) → {values : List AnnotationValue} →
    readAll items = some values → writeAll values = items
  | [], _, h => by cases h; rfl
  | item :: items, values, h => by
    simp only [readAll, Option.bind_eq_bind, Option.bind_eq_some_iff] at h
    obtain ⟨value, hv, rest, hr, hs⟩ := h
    simp only [Option.some.injEq] at hs
    rw [← hs, writeAll, write_of_read item hv, writeAll_of_readAll items hr]

end

end AnnotationValue

end ConverterBuilders
