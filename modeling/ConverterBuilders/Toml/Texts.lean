import ConverterBuilders.Text.Digits
import ConverterBuilders.Toml.Lexemes

/-!
# Texts in TOML

A text stands between quotes.  Between double quotes a backslash begins an escape, and between single
quotes every character stands for itself.  Three quotes instead of one allow line ends in the text, and
up to two quotes in front of the closing three belong to it.

Main statement:

* `unit?_plain`: a plain character stands for itself.
-/

namespace ConverterBuilders.Toml

open Text

/-! ## Escapes -/

/-- The character with this number in hexadecimal digits. -/
def numberedChar (ds : List Char) : Option Char := do
  let _ ← ds.mapM hexValue
  let n := natOfDigits 16 ds
  if n.isValidChar then some (Char.ofNat n) else none

/-- A numbered escape of `count` digits, with the number of characters behind the backslash. -/
def numbered (count : Nat) (cs : List Char) : Option (Char × Nat) :=
  if (cs.take count).length = count then
    (numberedChar (cs.take count)).map fun c => (c, count + 1)
  else none

/-- The character that an escape stands for, and the number of characters behind the backslash. -/
def escape? : List Char → Option (Char × Nat)
  | 'x' :: cs => numbered 2 cs
  | 'u' :: cs => numbered 4 cs
  | 'U' :: cs => numbered 8 cs
  | 'b' :: _ => some ('\x08', 1)
  | 't' :: _ => some ('\t', 1)
  | 'n' :: _ => some ('\n', 1)
  | 'f' :: _ => some ('\x0c', 1)
  | 'r' :: _ => some ('\r', 1)
  | 'e' :: _ => some ('\x1b', 1)
  | '"' :: _ => some ('"', 1)
  | '\\' :: _ => some ('\\', 1)
  | _ => none

/-- The character that stands in front of a text with escapes, and the number of characters that write
it. -/
def unit? : List Char → Option (Char × Nat)
  | [] => none
  | c :: cs =>
    if c = '\\' then (escape? cs).map fun e => (e.1, e.2 + 1)
    else if isPlain c then some (c, 1)
    else none

/-! ## One line -/

/-- A text up to its closing double quote, after passing over `skip` characters. -/
def basicFrom : Nat → List Char → Option (List Char × List Char)
  | _, [] => none
  | skip + 1, _ :: cs => basicFrom skip cs
  | 0, c :: cs =>
    if c = '"' then some ([], cs)
    else
      match unit? (c :: cs) with
      | none => none
      | some (u, n) => (basicFrom (n - 1) cs).map fun r => (u :: r.1, r.2)

def literal (cs : List Char) : Option (List Char × List Char) :=
  let isInside := fun c => isPlain c && c ≠ '\''
  match cs.dropWhile isInside with
  | '\'' :: rest => some (cs.takeWhile isInside, rest)
  | _ => none

/-! ## Several lines -/

/-- What belongs to a text in a run of three or more quotes, and the characters after it. -/
def closeRun (quote : Char) (cs : List Char) : List Char × List Char :=
  let run := min (quoteRun quote cs) 5
  (List.replicate (run - 3) quote, cs.drop run)

/-- Whether only white space stands between here and the end of the line. -/
def endsLine (cs : List Char) : Bool :=
  match skipSpaces cs with
  | '\n' :: _ => true
  | '\r' :: '\n' :: _ => true
  | _ => false

/-- Whether the characters begin with white space or a line end. -/
def atBlank : List Char → Bool
  | '\r' :: '\n' :: _ => true
  | c :: _ => isSpace c || c = '\n'
  | [] => false

def atBreak : List Char → Bool
  | '\r' :: '\n' :: _ => true
  | '\n' :: _ => true
  | _ => false

/-- A text up to its closing three double quotes, after passing over `skip` characters.  While `folding`,
which a backslash at the end of a line begins, white space and line ends are left out. -/
def multilineFrom : Nat → Bool → List Char → Option (List Char × List Char)
  | _, _, [] => none
  | skip + 1, folding, _ :: cs => multilineFrom skip folding cs
  | 0, folding, c :: cs =>
    if folding && atBlank (c :: cs) then multilineFrom 0 true cs
    else if c = '"' ∧ 3 ≤ quoteRun '"' (c :: cs) then some (closeRun '"' (c :: cs))
    else if c = '\\' ∧ endsLine cs then multilineFrom 0 true cs
    else if c = '"' ∨ c = '\n' ∨ atBreak (c :: cs) then
      (multilineFrom 0 false cs).map fun r => (c :: r.1, r.2)
    else
      match unit? (c :: cs) with
      | none => none
      | some (u, n) => (multilineFrom (n - 1) false cs).map fun r => (u :: r.1, r.2)

def multilineLiteral : List Char → Option (List Char × List Char)
  | [] => none
  | c :: cs =>
    if c = '\'' ∧ 3 ≤ quoteRun '\'' (c :: cs) then some (closeRun '\'' (c :: cs))
    else if isPlain c ∨ atBreak (c :: cs) then
      (multilineLiteral cs).map fun r => (c :: r.1, r.2)
    else none

/-! ## All forms -/

/-- The characters of a text on one line, from its opening quote. -/
def readLineChars : List Char → Option (List Char × List Char)
  | '"' :: cs => basicFrom 0 cs
  | '\'' :: cs => literal cs
  | _ => none

/-- The characters of a text, from its opening quotes. -/
def readChars : List Char → Option (List Char × List Char)
  | '"' :: '"' :: '"' :: cs => multilineFrom 0 false (skipLineEnd cs)
  | '\'' :: '\'' :: '\'' :: cs => multilineLiteral (skipLineEnd cs)
  | cs => readLineChars cs

/-- The text that has been read, if nothing is left behind it. -/
def whole : Option (List Char × List Char) → Option String
  | some (cs, []) => some (String.ofList cs)
  | _ => none

def lineText? (cs : List Char) : Option String := whole (readLineChars cs)

def text? (cs : List Char) : Option String := whole (readChars cs)

theorem unit?_plain {c : Char} (h : isPlain c = true) (hb : c ≠ '\\') (cs : List Char) :
    unit? (c :: cs) = some (c, 1) := by
  simp [unit?, h, hb]

end ConverterBuilders.Toml
