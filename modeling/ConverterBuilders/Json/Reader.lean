import ConverterBuilders.Document
import ConverterBuilders.Text.Digits

/-!
# Reading JSON texts

`Json.read` accepts exactly one JSON value with white space around it.  Three kinds of values are well
formed but cannot be held: a number that is no integer, a text with half of a surrogate pair, and a list
or table inside more than 127 others.  They are read as `Document.foreign`, so they may stand where
nobody looks at them.
-/

namespace ConverterBuilders.Json

open Text

/-- The greatest number of lists and tables inside each other. -/
def nestingLimit : Nat := 127

def isSpace (c : Char) : Bool := c = ' ' || c = '\t' || c = '\n' || c = '\r'

def skipSpace (cs : List Char) : List Char := cs.dropWhile isSpace

/-! ## Numbers -/

/-- The digits in front, and the characters after them. -/
def digits (cs : List Char) : List Char × List Char := (cs.takeWhile Char.isDigit, cs.dropWhile Char.isDigit)

/-- The characters after a fraction if there is one; a point without digits is refused. -/
def skipFraction : List Char → Option (List Char)
  | '.' :: cs =>
    match digits cs with
    | ([], _) => none
    | (_, rest) => some rest
  | cs => some cs

/-- The characters after an exponent if there is one; an exponent without digits is refused. -/
def skipExponent : List Char → Option (List Char)
  | [] => some []
  | c :: cs =>
    if c = 'e' ∨ c = 'E' then
      let unsigned := match cs with
        | '+' :: r => r
        | '-' :: r => r
        | r => r
      match digits unsigned with
      | ([], _) => none
      | (_, rest) => some rest
    else some (c :: cs)

/-- A number, which is an integer if it has neither a fraction nor an exponent; minus zero is none. -/
def readNumber (cs : List Char) : Option (Document × List Char) :=
  let (negative, unsigned) := match cs with
    | '-' :: r => (true, r)
    | r => (false, r)
  match digits unsigned with
  | ([], _) => none
  | (ds, rest) =>
    if ds.head? = some '0' ∧ ds.length ≠ 1 then none
    else do
      let afterFraction ← skipFraction rest
      let afterExponent ← skipExponent afterFraction
      if afterExponent.length = rest.length then
        let n := natOfDigits 10 ds
        if negative then
          if n = 0 then some (.foreign, rest) else some (.integer (-Int.ofNat n), rest)
        else some (.integer (Int.ofNat n), rest)
      else some (.foreign, afterExponent)

/-! ## Texts -/

def hexNumber (a b c d : Char) : Option Nat := do
  some (((← hexValue a) * 16 + (← hexValue b)) * 256 + ((← hexValue c) * 16 + (← hexValue d)))

def escapeCode : Char → Option Nat
  | '"' => some 0x22
  | '\\' => some 0x5C
  | '/' => some 0x2F
  | 'b' => some 0x08
  | 'f' => some 0x0C
  | 'n' => some 0x0A
  | 'r' => some 0x0D
  | 't' => some 0x09
  | _ => none

/-- The codes of the characters up to the closing quote, and the characters after it. -/
def readCodes : List Char → Option (List Nat × List Char)
  | [] => none
  | '"' :: rest => some ([], rest)
  | '\\' :: 'u' :: a :: b :: c :: d :: rest => do
    let code ← hexNumber a b c d
    let (codes, after) ← readCodes rest
    some (code :: codes, after)
  | '\\' :: e :: rest => do
    let code ← escapeCode e
    let (codes, after) ← readCodes rest
    some (code :: codes, after)
  | c :: rest =>
    if c.toNat < 0x20 ∨ c = '\\' then none
    else do
      let (codes, after) ← readCodes rest
      some (c.toNat :: codes, after)

/-- The characters of a list of codes: two halves of a surrogate pair make one character, and a half
by itself makes none. -/
def charsOfCodes : List Nat → Option (List Char)
  | [] => some []
  | high :: rest =>
    if 0xD800 ≤ high ∧ high < 0xDC00 then
      match rest with
      | low :: rest =>
        if 0xDC00 ≤ low ∧ low < 0xE000 then
          (charsOfCodes rest).map
            (Char.ofNat (0x10000 + (high - 0xD800) * 0x400 + (low - 0xDC00)) :: ·)
        else none
      | [] => none
    else if 0xDC00 ≤ high ∧ high < 0xE000 then none
    else (charsOfCodes rest).map (Char.ofNat high :: ·)

/-- A text after its opening quote; the text is missing if it holds half of a surrogate pair. -/
def readText (cs : List Char) : Option (Option String × List Char) := do
  let (codes, rest) ← readCodes cs
  some ((charsOfCodes codes).map String.ofList, rest)

/-! ## Values -/

def expect (word : String) (cs : List Char) : Option (List Char) :=
  if word.toList.isPrefixOf cs then some (cs.drop word.toList.length) else none

/-- A list or table inside `depth` others, if that many are allowed. -/
def atDepth (depth : Nat) (value : Document) : Document :=
  if depth < nestingLimit then value else .foreign

/-- The table of fields read, unless the name of one could not be held. -/
def tableOf (fields : List (Option String × Document)) : Document :=
  match fields.mapM fun field => field.1.map fun name => (name, field.2) with
  | some fields => .table fields
  | none => .foreign

mutual

/-- One value inside `depth` lists and tables, with white space in front, in at most `fuel` steps. -/
def readValue : Nat → Nat → List Char → Option (Document × List Char)
  | 0, _, _ => none
  | fuel + 1, depth, cs =>
    match skipSpace cs with
    | 'n' :: rest => (expect "ull" rest).map ((.null, ·))
    | 't' :: rest => (expect "rue" rest).map ((.boolean true, ·))
    | 'f' :: rest => (expect "alse" rest).map ((.boolean false, ·))
    | '"' :: rest => do
      let (value, after) ← readText rest
      some (value.elim .foreign .text, after)
    | '[' :: rest =>
      match skipSpace rest with
      | ']' :: after => some (atDepth depth (.list []), after)
      | _ => do
        let (items, after) ← readItems fuel (depth + 1) rest
        some (atDepth depth (.list items), after)
    | '\x7b' :: rest =>
      match skipSpace rest with
      | '\x7d' :: after => some (atDepth depth (.table []), after)
      | _ => do
        let (fields, after) ← readFields fuel (depth + 1) rest
        some (atDepth depth (tableOf fields), after)
    | other => readNumber other

def readItems : Nat → Nat → List Char → Option (List Document × List Char)
  | 0, _, _ => none
  | fuel + 1, depth, cs => do
    let (item, rest) ← readValue fuel depth cs
    match skipSpace rest with
    | ']' :: after => some ([item], after)
    | ',' :: more => do
      let (items, after) ← readItems fuel depth more
      some (item :: items, after)
    | _ => none

def readFields : Nat → Nat → List Char → Option (List (Option String × Document) × List Char)
  | 0, _, _ => none
  | fuel + 1, depth, cs =>
    match skipSpace cs with
    | '"' :: named => do
      let (name, rest) ← readText named
      match skipSpace rest with
      | ':' :: valued => do
        let (value, rest) ← readValue fuel depth valued
        match skipSpace rest with
        | '\x7d' :: after => some ([(name, value)], after)
        | ',' :: more => do
          let (fields, after) ← readFields fuel depth more
          some ((name, value) :: fields, after)
        | _ => none
      | _ => none
    | _ => none

end

/-- The value of a JSON text, or `none` if the text is not well formed. -/
def read (s : String) : Option Document :=
  match readValue (2 * s.length + 2) 0 s.toList with
  | some (value, rest) => if skipSpace rest = [] then some value else none
  | none => none

end ConverterBuilders.Json
