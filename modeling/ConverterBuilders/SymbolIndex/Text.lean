import ConverterBuilders.Json.Reader
import ConverterBuilders.SymbolIndex.Basic
import ConverterBuilders.Toml.Reader

/-!
# Texts of symbol indexes

A symbol index is written in one or more files, each a TOML or JSON text with a list of declarations.
The name of a file tells its format.

Main statement:

* `merge_of_unreadable`: a text that is no index adds nothing.
-/

namespace ConverterBuilders

def Format.ofName? (name : String) : Option Format :=
  if Text.endsWith name ".toml" then some .toml
  else if Text.endsWith name ".json" then some .json
  else none

/-- The format that the name of a file tells, which must be a text. -/
def Format.ofPath? (path : Path) : Option Format := do
  let name ← path.fileName
  if Text.isText name then ofName? name else none

def Format.read : Format → String → Option Document
  | .json, content => Json.read content
  | .toml, content => (Toml.read content).toOption

namespace SymbolIndex

/-- Whether a file with this name is part of an index in a directory. -/
def isIndexName (name : String) : Bool :=
  Text.endsWith name ".symbols.toml" || Text.endsWith name ".symbols.json"

def declarationsOf (format : Format) (content : String) : Option (List Declaration) :=
  (format.read content).bind (Declaration.readIndex format)

/-- Insert the declarations in a text that comes from the file `origin`. -/
def merge (index : SymbolIndex) (origin : Path) (format : Format) (content : String) :
    SymbolIndex × Option Failure :=
  match declarationsOf format content with
  | none => (index, some (.index origin .unreadable))
  | some declarations => insertAll origin index declarations

theorem merge_of_unreadable {format : Format} {content : String}
    (h : declarationsOf format content = none) (index : SymbolIndex) (origin : Path) :
    index.merge origin format content = (index, some (.index origin .unreadable)) := by
  simp [merge, h]

end SymbolIndex

end ConverterBuilders
