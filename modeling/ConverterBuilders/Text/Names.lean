import ConverterBuilders.Text.Digits
import ConverterBuilders.Text.Quoted

/-!
# Names of files

The name of a file is a sequence of bytes, and not every one is a text.  A byte that belongs to no character is
written as a NUL, which no name of a file holds, with the character of its number behind it; all else in a name is
written as it is.  So a text is the name that it spells, except that a NUL in front of a character from U+0080 to
U+00FF does not stand for itself.

Main statement:

* `lossy_of_isText`: a name that is a text is shown as it is.
-/

namespace ConverterBuilders.Text

/-- A character of a name, or a byte that belongs to none. -/
inductive NameUnit where
  | char (c : Char)
  | stray (byte : Nat)
  deriving DecidableEq, Inhabited

/-- Whether a character may stand for a byte that belongs to no character. -/
def isByteChar (c : Char) : Bool := 0x80 ≤ c.toNat && c.toNat < 0x100

def unitsOf : List Char → List NameUnit
  | [] => []
  | '\x00' :: c :: rest =>
    if isByteChar c then .stray c.toNat :: unitsOf rest else .char '\x00' :: unitsOf (c :: rest)
  | c :: rest => .char c :: unitsOf rest

def NameUnit.isChar : NameUnit → Bool
  | .char _ => true
  | .stray _ => false

/-- Whether all bytes of a name belong to characters. -/
def isText (name : String) : Bool := (unitsOf name.toList).all NameUnit.isChar

/-! ## What is shown of a name -/

/-- What an unfinished character goes on with: a byte between two bounds, and perhaps one more behind it. -/
structure Unfinished where
  low : Nat
  high : Nat
  more : Bool

namespace Unfinished

def takes (unfinished : Unfinished) (byte : Nat) : Bool :=
  unfinished.low ≤ byte && byte ≤ unfinished.high

def next? (unfinished : Unfinished) : Option Unfinished :=
  if unfinished.more then some ⟨0x80, 0xBF, false⟩ else none

/-- The characters of three and four bytes by the first of them. -/
def begun? (byte : Nat) : Option Unfinished :=
  if byte < 0xE0 || 0xF4 < byte then none
  else if byte = 0xE0 then some ⟨0xA0, 0xBF, false⟩
  else if byte = 0xED then some ⟨0x80, 0x9F, false⟩
  else if byte < 0xF0 then some ⟨0x80, 0xBF, false⟩
  else if byte = 0xF0 then some ⟨0x90, 0xBF, true⟩
  else if byte = 0xF4 then some ⟨0x80, 0x8F, true⟩
  else some ⟨0x80, 0xBF, true⟩

end Unfinished

/-- The characters of a name, with one replacement character for each beginning of a character that is not
finished and for each other byte that belongs to none. -/
def lossyFrom : Option Unfinished → List NameUnit → List Char
  | _, [] => []
  | _, .char c :: rest => c :: lossyFrom none rest
  | unfinished?, .stray byte :: rest =>
    if unfinished?.any fun unfinished => unfinished.takes byte then
      lossyFrom (unfinished?.bind Unfinished.next?) rest
    else '\uFFFD' :: lossyFrom (Unfinished.begun? byte) rest

/-- A name as a text. -/
def lossy (name : String) : String := String.ofList (lossyFrom none (unitsOf name.toList))

def quoteUnit : NameUnit → List Char
  | .char c => quoteChar c
  | .stray byte => ['\\', 'x', upperHexDigit (byte / 16), upperHexDigit (byte % 16)]

def quoteName (name : String) : String :=
  String.ofList (['"'] ++ (unitsOf name.toList).flatMap quoteUnit ++ ['"'])

/-! ## The order of names -/

def NameUnit.bytes : NameUnit → List Nat
  | .char c => (String.utf8EncodeChar c).map UInt8.toNat
  | .stray byte => [byte]

def bytesOfName (name : String) : List Nat := (unitsOf name.toList).flatMap NameUnit.bytes

/-! ## Names that are texts -/

theorem unitsOf_of_isText {cs : List Char} (h : (unitsOf cs).all NameUnit.isChar = true) :
    unitsOf cs = cs.map .char := by
  fun_induction unitsOf cs with
  | case1 => rfl
  | case2 c rest _ _ => simp [NameUnit.isChar] at h
  | case3 c rest _ ih =>
    rw [List.all_cons, Bool.and_eq_true] at h
    rw [ih h.2]
    rfl
  | case4 c rest _ ih =>
    rw [List.all_cons, Bool.and_eq_true] at h
    rw [ih h.2]
    rfl

theorem lossyFrom_chars (unfinished? : Option Unfinished) (cs : List Char) :
    lossyFrom unfinished? (cs.map .char) = cs := by
  induction cs generalizing unfinished? with
  | nil => rfl
  | cons c cs ih => rw [List.map_cons, lossyFrom, ih]

/-- **A name that is a text is shown as it is.** -/
theorem lossy_of_isText {name : String} (h : isText name = true) : lossy name = name := by
  rw [lossy, unitsOf_of_isText h, lossyFrom_chars, String.ofList_toList]

/-! ## Characters that are shown -/

theorem count_lossyFrom_le {c : Char} (hc : c ≠ '\uFFFD') (unfinished? : Option Unfinished)
    (units : List NameUnit) : (lossyFrom unfinished? units).count c ≤ units.count (.char c) := by
  fun_induction lossyFrom unfinished? units with
  | case1 => exact Nat.le_refl _
  | case2 _ d rest ih =>
    rw [List.count_cons, List.count_cons]
    simpa using ih
  | case3 _ byte rest _ ih => simpa [List.count_cons] using ih
  | case4 _ byte rest _ ih => simpa [List.count_cons, hc.symm] using ih

theorem count_unitsOf_le (c : Char) (cs : List Char) : (unitsOf cs).count (.char c) ≤ cs.count c := by
  fun_induction unitsOf cs with
  | case1 => exact Nat.le_refl _
  | case2 d rest _ ih =>
    rw [List.count_cons_of_ne (by simp), List.count_cons, List.count_cons]
    omega
  | case3 d rest _ ih =>
    rw [List.count_cons, List.count_cons]
    simpa using ih
  | case4 d rest _ ih =>
    rw [List.count_cons, List.count_cons]
    simpa using ih

/-- What is shown of a name holds no character more often than the name, but for the replacement character. -/
theorem count_lossy_le {c : Char} (hc : c ≠ '\uFFFD') (name : String) :
    (lossy name).toList.count c ≤ name.toList.count c := by
  rw [lossy, String.toList_ofList]
  exact Nat.le_trans (count_lossyFrom_le hc none _) (count_unitsOf_le c _)

end ConverterBuilders.Text
