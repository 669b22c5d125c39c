import ConverterBuilders.Text.Digits

/-!
# Dates and times in TOML

A date, a time of day, or both with a `T` or a space between them; to both together an offset from
universal time may be added.  Seconds may be left out.
-/

namespace ConverterBuilders.Toml

open Text

/-- The number that the first `count` characters write, if they are decimal digits. -/
def fixedNumber (count : Nat) (cs : List Char) : Option (Nat × List Char) :=
  let ds := cs.take count
  if ds.length = count ∧ ds.all Char.isDigit then some (natOfDigits 10 ds, cs.drop count) else none

/-- The characters after the one that must stand in front. -/
def expectChar (c : Char) : List Char → Option (List Char)
  | d :: cs => if d = c then some cs else none
  | [] => none

def isLeapYear (year : Nat) : Bool := year % 4 == 0 && (year % 100 != 0 || year % 400 == 0)

def daysOf (year month : Nat) : Nat :=
  if month = 2 then if isLeapYear year then 29 else 28
  else if month = 4 ∨ month = 6 ∨ month = 9 ∨ month = 11 then 30
  else 31

def date? (cs : List Char) : Option (List Char × List Char) := do
  let (year, rest) ← fixedNumber 4 cs
  let rest ← expectChar '-' rest
  let (month, rest) ← fixedNumber 2 rest
  let rest ← expectChar '-' rest
  let (day, rest) ← fixedNumber 2 rest
  if 1 ≤ month ∧ month ≤ 12 ∧ 1 ≤ day ∧ day ≤ daysOf year month then some (cs.take 10, rest)
  else none

/-- The digits of a fraction of a second to nine places, without zeros at the end. -/
def fractionText (ds : List Char) : List Char :=
  match ((ds.take 9).reverse.dropWhile (· = '0')).reverse with
  | [] => ['0']
  | kept => kept

def time? (cs : List Char) : Option (List Char × List Char) := do
  let (hour, rest) ← fixedNumber 2 cs
  let rest ← expectChar ':' rest
  let (minute, rest) ← fixedNumber 2 rest
  if 23 < hour ∨ 59 < minute then none
  else
    match rest with
    | ':' :: rest => do
      let (second, rest) ← fixedNumber 2 rest
      if 60 < second then none
      else
        match rest with
        | '.' :: fraction =>
          match fraction.takeWhile Char.isDigit with
          | [] => none
          | ds => some (cs.take 8 ++ '.' :: fractionText ds, fraction.dropWhile Char.isDigit)
        | rest => some (cs.take 8, rest)
    | rest => some (cs.take 5, rest)

/-- An offset from universal time, which must be all that is left. -/
def offset? : List Char → Option (List Char)
  | [] => some []
  | c :: cs =>
    if c = 'Z' ∨ c = 'z' then if cs = [] then some ['Z'] else none
    else if c = '+' ∨ c = '-' then do
      let (hours, rest) ← fixedNumber 2 cs
      let rest ← expectChar ':' rest
      let (minutes, rest) ← fixedNumber 2 rest
      if 23 < hours ∨ 59 < minutes ∨ rest ≠ [] then none
      else if hours = 0 ∧ minutes = 0 then some ('+' :: cs)
      else some (c :: cs)
    else none

/-- The text of a date, a time or both, if the characters are one. -/
def moment? (cs : List Char) : Option (List Char) :=
  match date? cs with
  | some (date, []) => some date
  | some (date, c :: rest) =>
    if c = 'T' ∨ c = 't' ∨ c = ' ' then do
      let (time, rest) ← time? rest
      let offset ← offset? rest
      some (date ++ 'T' :: time ++ offset)
    else none
  | none =>
    match time? cs with
    | some (time, []) => some time
    | _ => none

end ConverterBuilders.Toml
