import ConverterBuilders.Toml.Scalars
import ConverterBuilders.Toml.Tables

/-!
# Values of TOML texts

What written values stand for.  The assignments of a table in braces fill it in their order, as those of
a section fill theirs.
-/

namespace ConverterBuilders.Toml

def valueOf : Lexeme → Except Fault Document
  | .bare cs => (scalar? cs).elim (.error .malformed) .ok
  | .quoted cs => (text? cs).elim (.error .malformed) fun text => .ok (.text text)

mutual

def Written.read : Written → Except Fault Document
  | .lexeme lexeme => valueOf lexeme
  | .list items => (readAll items).map .list
  | .table assignments => (fill assignments []).map fun fields => .table (documentsOfFields fields)

def readAll : List Written → Except Fault (List Document)
  | [] => .ok []
  | item :: items => do
    let value ← item.read
    let values ← readAll items
    .ok (value :: values)

def fill : List (List Lexeme × Written) → Fields → Except Fault Fields
  | [], fields => .ok fields
  | (key, value) :: rest, fields => do
    let (path, name) ← keyOf key
    let document ← value.read
    let fields ← assign path name document fields
    fill rest fields

end

end ConverterBuilders.Toml
