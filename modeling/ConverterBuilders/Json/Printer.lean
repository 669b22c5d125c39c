import ConverterBuilders.Document
import ConverterBuilders.Text.Quoted

/-!
# Writing JSON texts

A document is written on one line, or with one item or field to a line and two spaces for each level.
A text escapes the quote, the backslash and the control characters below the space and no others.
-/

namespace ConverterBuilders.Json

open Text

def escapeChar (c : Char) : List Char :=
  match c with
  | '"' => ['\\', '"']
  | '\\' => ['\\', '\\']
  | '\x08' => ['\\', 'b']
  | '\x0c' => ['\\', 'f']
  | '\n' => ['\\', 'n']
  | '\r' => ['\\', 'r']
  | '\t' => ['\\', 't']
  | _ =>
    if c.toNat < 0x20 then
      ['\\', 'u', '0', '0', hexDigit (c.toNat / 16), hexDigit (c.toNat % 16)]
    else [c]

def writeText (s : String) : String :=
  String.ofList (['"'] ++ s.toList.flatMap escapeChar ++ ['"'])

mutual

/-- A document on one line.  A foreign or unreadable value is written as null. -/
def write : Document → String
  | .null => "null"
  | .boolean value => if value then "true" else "false"
  | .integer value => toString value
  | .text value => writeText value
  | .list items => "[" ++ String.intercalate "," (writeItems items) ++ "]"
  | .table fields => "\x7b" ++ String.intercalate "," (writeFields fields) ++ "\x7d"
  | .foreign | .unreadable => "null"

/-- The items of a list, each on one line. -/
def writeItems : List Document → List String
  | [] => []
  | item :: items => write item :: writeItems items

/-- The fields of a table, each on one line. -/
def writeFields : List (String × Document) → List String
  | [] => []
  | (name, value) :: fields => (writeText name ++ ":" ++ write value) :: writeFields fields

end

/-- Lines between an opening and a closing text, or the two together if there are none. -/
def block (indent opening closing : String) (lines : List String) : String :=
  if lines.isEmpty then opening ++ closing
  else
    opening ++ "\n" ++ String.intercalate ",\n" (lines.map fun line => indent ++ "  " ++ line) ++ "\n" ++
      indent ++ closing

mutual

/-- A document with one item or field to a line, all but the first line after `indent`. -/
def writePretty (indent : String) : Document → String
  | .list items => block indent "[" "]" (prettyItems (indent ++ "  ") items)
  | .table fields => block indent "\x7b" "\x7d" (prettyFields (indent ++ "  ") fields)
  | .null => write .null
  | .boolean value => write (.boolean value)
  | .integer value => write (.integer value)
  | .text value => write (.text value)
  | .foreign => write .foreign
  | .unreadable => write .unreadable

/-- The items of a list, each over its own lines. -/
def prettyItems (indent : String) : List Document → List String
  | [] => []
  | item :: items => writePretty indent item :: prettyItems indent items

/-- The fields of a table, each over its own lines. -/
def prettyFields (indent : String) : List (String × Document) → List String
  | [] => []
  | (name, value) :: fields =>
    (writeText name ++ ": " ++ writePretty indent value) :: prettyFields indent fields

end

end ConverterBuilders.Json
