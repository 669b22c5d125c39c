import ConverterBuilders.Text.Blank
import ConverterBuilders.Text.CaseTables

/-!
# The case of a first character

A name in front of which a word is put starts with a title-case letter, and a name of its own starts
in lower case.  Only the first character changes.

Main statements:

* `titleFirstChars_tail`, `lowerFirstChars_tail`: what follows the first character is kept.
-/

namespace ConverterBuilders.Text

/-- The image of a code point under a list of runs; it is its own image outside all of them. -/
def shiftBy (runs : List CaseRun) (n : Nat) : Nat :=
  match runs.find? fun run => run.first ≤ n && n ≤ run.last && (n - run.first) % run.step == 0 with
  | some run => (Int.ofNat n + run.shift).toNat
  | none => n

def isLowercase (c : Char) : Bool := inRanges lowercaseRanges c

/-- The lower-case form of a character; the dotted capital I has one of two characters. -/
def lowerCase (c : Char) : List Char :=
  if c.toNat = 0x130 then ['i', Char.ofNat 0x307] else [Char.ofNat (shiftBy lowerRuns c.toNat)]

/-- The title-case form of a lower-case character that has one of a single character.  The Latin
digraphs have a form apart from the upper-case one. -/
def titleCase? (c : Char) : Option Char :=
  if 0x1C4 ≤ c.toNat ∧ c.toNat ≤ 0x1C6 then some (Char.ofNat 0x1C5)
  else if 0x1C7 ≤ c.toNat ∧ c.toNat ≤ 0x1C9 then some (Char.ofNat 0x1C8)
  else if 0x1CA ≤ c.toNat ∧ c.toNat ≤ 0x1CC then some (Char.ofNat 0x1CB)
  else if 0x1F1 ≤ c.toNat ∧ c.toNat ≤ 0x1F3 then some (Char.ofNat 0x1F2)
  else if inRanges expandingRanges c then none
  else some (Char.ofNat (shiftBy upperRuns c.toNat))

/-- Put the first character into title case if it is lower case. -/
def titleFirstChars : List Char → List Char
  | [] => []
  | c :: rest =>
    if isLowercase c then
      match titleCase? c with
      | some title => title :: rest
      | none => c :: rest
    else c :: rest

def lowerFirstChars : List Char → List Char
  | [] => []
  | c :: rest => lowerCase c ++ rest

/-- The text with its first character in title case, if that character is lower case. -/
def titleFirst (s : String) : String := String.ofList (titleFirstChars s.toList)

def lowerFirst (s : String) : String := String.ofList (lowerFirstChars s.toList)

/-! ## Only the first character changes -/

theorem titleFirstChars_tail (c : Char) (rest : List Char) :
    ∃ title, titleFirstChars (c :: rest) = title :: rest := by
  rw [titleFirstChars]
  split
  · split
    · exact ⟨_, rfl⟩
    · exact ⟨_, rfl⟩
  · exact ⟨_, rfl⟩

theorem lowerFirstChars_tail (c : Char) (rest : List Char) :
    lowerFirstChars (c :: rest) = lowerCase c ++ rest := rfl

end ConverterBuilders.Text
