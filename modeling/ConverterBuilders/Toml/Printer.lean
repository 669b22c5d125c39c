import ConverterBuilders.Document
import ConverterBuilders.Text.Digits

/-!
# Writing TOML texts

A text is written in the first of these forms that can hold it: between double quotes without escapes,
between single quotes, over lines between three double quotes without escapes, over lines between three
single quotes, and between double quotes with escapes, over lines if it has line ends.
-/

namespace ConverterBuilders.Toml

open Text

/-! ## What a text holds -/

/-- Whether a character is a control character other than tab and line feed. -/
def isControl (c : Char) : Bool := (c.toNat < 0x20 && c ≠ '\t' && c ≠ '\n') || c.toNat = 0x7F

/-- Whether `count` characters `c` stand in a row somewhere. -/
def hasRun (count : Nat) (c : Char) : List Char → Bool
  | [] => count == 0
  | d :: cs => (List.replicate count c).isPrefixOf (d :: cs) || hasRun count c cs

inductive TextForm where
  | basic
  | literal
  | multilineBasic
  | multilineLiteral
  deriving DecidableEq, Inhabited

def formOf (cs : List Char) : TextForm :=
  let control := cs.any isControl
  let backslash := cs.contains '\\'
  let line := cs.contains '\n'
  if !control && !backslash && !cs.contains '"' && !line then .basic
  else if !control && !cs.contains '\'' && !line then .literal
  else if !control && !backslash && !hasRun 3 '"' cs then .multilineBasic
  else if !control && !hasRun 3 '\'' cs then .multilineLiteral
  else if line then .multilineBasic
  else .basic

/-! ## Escapes -/

/-- A character between double quotes, quotes apart; line ends are kept in a text over lines. -/
def escapeChar (multiline : Bool) (c : Char) : List Char :=
  if c = '\x08' then ['\\', 'b']
  else if c = '\t' then ['\\', 't']
  else if c = '\n' then if multiline then ['\n'] else ['\\', 'n']
  else if c = '\x0c' then ['\\', 'f']
  else if c = '\r' then ['\\', 'r']
  else if c = '\\' then ['\\', '\\']
  else if isControl c then
    ['\\', 'u', '0', '0', upperHexDigit (c.toNat / 16), upperHexDigit (c.toNat % 16)]
  else [c]

/-- Characters between double quotes, of which `allowed` more quotes in a row need no escape. -/
def escapeFrom (multiline : Bool) (limit : Nat) : Nat → List Char → List Char
  | _, [] => []
  | allowed, c :: cs =>
    if c = '"' then
      match allowed with
      | 0 => '\\' :: '"' :: escapeFrom multiline limit limit cs
      | allowed + 1 => '"' :: escapeFrom multiline limit allowed cs
    else escapeChar multiline c ++ escapeFrom multiline limit limit cs

/-! ## Values -/

def quotes : TextForm → List Char
  | .basic => ['"']
  | .literal => ['\'']
  | .multilineBasic => ['"', '"', '"']
  | .multilineLiteral => ['\'', '\'', '\'']

def content (form : TextForm) (cs : List Char) : List Char :=
  match form with
  | .basic => escapeFrom false 0 0 cs
  | .literal => cs
  | .multilineBasic => (if cs.contains '\n' then ['\n'] else []) ++ escapeFrom true 2 2 cs
  | .multilineLiteral => (if cs.contains '\n' then ['\n'] else []) ++ cs

def writeText (s : String) : String :=
  let form := formOf s.toList
  String.ofList (quotes form ++ content form s.toList ++ quotes form)

/-- A list of texts: on one line up to one text, and else with one text to a line. -/
def writeTexts : List String → String
  | [] => "[]"
  | [value] => "[" ++ writeText value ++ "]"
  | values => "[\n" ++ String.join (values.map fun value => "    " ++ writeText value ++ ",\n") ++ "]"

def writeBoolean (value : Bool) : String := if value then "true" else "false"

/-- A section with its assignments, each a key and the text of its value. -/
def writeSection (name : String) (assignments : List (String × String)) : String :=
  "[" ++ name ++ "]\n" ++
    String.join (assignments.map fun entry => entry.1 ++ " = " ++ entry.2 ++ "\n")

end ConverterBuilders.Toml
