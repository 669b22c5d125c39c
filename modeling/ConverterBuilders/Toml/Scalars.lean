import ConverterBuilders.Document
import ConverterBuilders.Toml.Moments

/-!
# Numbers and other bare values in TOML

A value without quotes or brackets is a truth value, an integer, a decimal number, or a date or time.
Digits may have single underscores between them.

What a value looks like is settled first, by its sign, its first digits and what follows them.  A value
that looks like a number may still have none: an integer of more than 128 bits, one with letters among
its digits, a base without digits, or a decimal number too great for a double-precision number is
`Document.unreadable`.
-/

namespace ConverterBuilders.Toml

open Text

/-! ## Digits -/

/-- Whether each underscore stands in front of a digit and behind one; `allowed` tells whether one may
stand here. -/
def isGroupedFrom (isDigit : Char → Bool) : Bool → List Char → Bool
  | _, [] => true
  | allowed, c :: cs =>
    if c = '_' then allowed && cs.head?.any isDigit && isGroupedFrom isDigit false cs
    else isGroupedFrom isDigit (isDigit c) cs

def isGrouped (isDigit : Char → Bool) (cs : List Char) : Bool := isGroupedFrom isDigit false cs

def ungrouped (cs : List Char) : List Char := cs.filter (· ≠ '_')

def isHexDigit (c : Char) : Bool := (hexValue c).isSome

/-- The sign in front of a number, and the characters after it. -/
def signed : List Char → Bool × List Char
  | '+' :: cs => (false, cs)
  | '-' :: cs => (true, cs)
  | cs => (false, cs)

/-- Whether the digits of a whole number begin with a zero that is not the only one. -/
def hasLeadingZero (cs : List Char) : Bool := cs.head? = some '0' && cs.length ≠ 1

/-! ## Integers -/

def inRange (n : Int) : Bool := -Int.ofNat (Nat.pow 2 127) ≤ n && n < Int.ofNat (Nat.pow 2 128)

/-- The integer with these digits in a base, if there are digits only. -/
def integerOf (base : Nat) (isDigit : Char → Bool) (negative : Bool) (ds : List Char) : Document :=
  let n := Int.ofNat (natOfDigits base ds)
  let value := if negative then -n else n
  if ds ≠ [] ∧ ds.all isDigit = true ∧ inRange value = true then .integer value else .unreadable

/-- An integer in a base that the characters in front have named. -/
def based? (base : Nat) (isDigit : Char → Bool) (cs : List Char) : Option Document :=
  if cs.all (fun c => isDigit c || c = '_') && isGrouped isDigit cs then
    some (integerOf base isDigit false (ungrouped cs))
  else none

/-! ## Decimal numbers -/

/-- The least number that is too great for a double-precision number. -/
def doubleLimit : Nat := Nat.pow 2 1024 - Nat.pow 2 970

/-- Whether `digits` times the power of ten with this exponent is too great for a double-precision
number. -/
def overflows (digits : List Char) (exponent : Int) : Bool :=
  let significant := digits.dropWhile (· = '0')
  let magnitude := Int.ofNat significant.length + exponent
  if significant = [] ∨ magnitude < 300 then false
  else if 400 < magnitude then true
  else if 0 ≤ exponent then doubleLimit ≤ natOfDigits 10 significant * Nat.pow 10 exponent.toNat
  else doubleLimit * Nat.pow 10 (-exponent).toNat ≤ natOfDigits 10 significant

/-- The digits in front, between which underscores may stand, and the characters after them; at least
one digit is needed. -/
def digitRun (cs : List Char) : Option (List Char × List Char) :=
  let isRun := fun c : Char => c.isDigit || c = '_'
  match (cs.takeWhile isRun).filter Char.isDigit with
  | [] => none
  | ds => some (ds, cs.dropWhile isRun)

/-- The digits of a fraction if a point stands in front, and the characters after them. -/
def fraction? : List Char → Option (List Char × List Char)
  | '.' :: cs => digitRun cs
  | cs => some ([], cs)

def isExponentMark (c : Char) : Bool := c = 'e' || c = 'E'

/-- The exponent if its mark stands in front, and the characters after it. -/
def exponent? : List Char → Option (Int × List Char)
  | [] => some (0, [])
  | c :: cs =>
    if isExponentMark c then do
      let (negative, cs) := signed cs
      let (ds, rest) ← digitRun cs
      let n := Int.ofNat (natOfDigits 10 ds)
      some (if negative then -n else n, rest)
    else some (0, c :: cs)

def decimal? (cs : List Char) : Option Document := do
  let (whole, rest) ← digitRun cs
  let (fraction, rest) ← fraction? rest
  let (exponent, rest) ← exponent? rest
  if (cs.head? = some '0' ∧ whole.length ≠ 1) ∨ rest ≠ [] ∨ isGrouped Char.isDigit cs = false then none
  else if overflows (whole ++ fraction) (exponent - Int.ofNat fraction.length) then some .unreadable
  else some .foreign

/-! ## All bare values -/

/-- The name of the only field of the table that stands for a date or time. -/
def momentField : String := "$__toml_private_datetime"

/-- A number, a date or a time. -/
def number? (cs : List Char) : Option Document :=
  let (negative, unsigned) := signed cs
  if unsigned = ['i', 'n', 'f'] ∨ unsigned = ['n', 'a', 'n'] then some .foreign
  else
    match unsigned.dropWhile Char.isDigit with
    | [] =>
      if unsigned = [] ∨ hasLeadingZero unsigned = true then none
      else some (integerOf 10 Char.isDigit negative unsigned)
    | c :: rest =>
      if c = '-' ∨ c = ':' then
        (moment? cs).map fun text => .table [(momentField, .text (String.ofList text))]
      else if ' ' ∈ c :: rest then none
      else if (c :: rest).any (fun d => d = '.' || isExponentMark d) then decimal? unsigned
      else if c = '_' ∧ hasLeadingZero unsigned = false ∧ isGrouped isHexDigit unsigned = true then
        some (integerOf 10 Char.isDigit negative (ungrouped unsigned))
      else none

def scalar? : List Char → Option Document
  | ['t', 'r', 'u', 'e'] => some (.boolean true)
  | ['f', 'a', 'l', 's', 'e'] => some (.boolean false)
  | '0' :: 'x' :: cs => based? 16 isHexDigit cs
  | '0' :: 'o' :: cs => based? 8 (fun c => '0' ≤ c && c ≤ '7') cs
  | '0' :: 'b' :: cs => based? 2 (fun c => c = '0' || c = '1') cs
  | cs => number? cs

end ConverterBuilders.Toml
