import ConverterBuilders.Toml.Lexemes

/-!
# Statements of TOML texts

A TOML text is a sequence of lines: headers, which begin sections, and assignments of values to keys.
A key is one lexeme or several with points between.  A value is a lexeme, a list in brackets, or a table
in braces; lists and tables may go over several lines and end in a comma, and they may not be nested
deeper than eighty.  What the lexemes mean is not asked here.

A missing part of a key does not hinder the cutting of a text, nor does a missing value at the end of a
line or of a table: a missing lexeme stands there, which has no meaning.  Of a header that ends with a
missing part the closing brackets may be missing too, and then the rest of its line is passed over.

Main statement:

* `readKey_word`: a word in front of a space is a key.
-/

namespace ConverterBuilders.Toml

/-- The greatest number of lists and tables in braces inside each other. -/
def nestingLimit : Nat := 80

inductive Written where
  | lexeme (lexeme : Lexeme)
  | list (items : List Written)
  | table (assignments : List (List Lexeme × Written))
  deriving Inhabited

/-- A key, which is a list of lexemes, with its value. -/
abbrev Assignment := List Lexeme × Written

structure Header where
  /-- Whether the section is one more of several tables. -/
  several : Bool
  key : List Lexeme
  deriving Inhabited

inductive Statement where
  | header (header : Header)
  | assignment (assignment : Assignment)
  deriving Inhabited

/-! ## Keys -/

/-- A key in at most `fuel` steps, and the characters after it and the white space behind it; white
space may stand around the points. -/
def readKeyFrom : Nat → List Char → List Lexeme × List Char
  | 0, cs => ([], cs)
  | fuel + 1, cs =>
    let (part, rest) := Lexeme.ofKey cs
    match skipSpaces rest with
    | '.' :: more =>
      let (parts, rest) := readKeyFrom fuel (skipSpaces more)
      (part :: parts, rest)
    | rest => ([part], rest)

/-- A key, and the characters after it and the white space behind it. -/
def readKey (cs : List Char) : List Lexeme × List Char := readKeyFrom (cs.length + 1) cs

/-- Whether the last part of a key is missing. -/
def isCutShort (key : List Lexeme) : Bool := key.getLast? = some .missing

/-! ## Values -/

mutual

/-- One value inside some lists and tables, of which `depth` more are allowed, in at most `fuel`
steps.  It is not missing. -/
def readValue : Nat → Nat → List Char → Option (Written × List Char)
  | 0, _, _ => none
  | fuel + 1, depth, cs =>
    match cs with
    | '[' :: rest =>
      if depth = 0 then none
      else (readItems fuel (depth - 1) rest).map fun r => (.list r.1, r.2)
    | '\x7b' :: rest =>
      if depth = 0 then none
      else (readAssignments fuel (depth - 1) rest).map fun r => (.table r.1, r.2)
    | cs =>
      match Lexeme.ofValue cs with
      | (.bare [], _) => none
      | (lexeme, rest) => some (.lexeme lexeme, rest)

def readItems : Nat → Nat → List Char → Option (List Written × List Char)
  | 0, _, _ => none
  | fuel + 1, depth, cs => do
    match ← skipBlank cs with
    | ']' :: after => some ([], after)
    | start =>
      let (item, rest) ← readValue fuel depth start
      match ← skipBlank rest with
      | ']' :: after => some ([item], after)
      | ',' :: more =>
        let (items, after) ← readItems fuel depth more
        some (item :: items, after)
      | _ => none

/-- The value of an assignment in a table, from behind its key.  It may be missing in front of the
closing brace, with its equals sign or alone. -/
def readAssigned : Nat → Nat → List Char → Option (Written × List Char)
  | 0, _, _ => none
  | fuel + 1, depth, cs => do
    match ← skipBlank cs with
    | '\x7d' :: after => some (.lexeme .missing, '\x7d' :: after)
    | '=' :: rest =>
      match ← skipBlank rest with
      | '\x7d' :: after => some (.lexeme .missing, '\x7d' :: after)
      | start => readValue fuel depth start
    | _ => none

def readAssignments : Nat → Nat → List Char → Option (List Assignment × List Char)
  | 0, _, _ => none
  | fuel + 1, depth, cs => do
    match ← skipBlank cs with
    | '\x7d' :: after => some ([], after)
    | start =>
      let (key, rest) := readKey start
      let (value, rest) ← readAssigned fuel depth rest
      match ← skipBlank rest with
      | '\x7d' :: after => some ([(key, value)], after)
      | ',' :: more =>
        let (assignments, after) ← readAssignments fuel depth more
        some ((key, value) :: assignments, after)
      | _ => none

end

/-! ## Lines -/

/-- The characters after the line of a header with this key, from behind the key. -/
def closeHeader (several : Bool) (key : List Lexeme) (cs : List Char) : Option (List Char) :=
  match several, cs with
  | false, ']' :: rest => endLine rest
  | true, ']' :: ']' :: rest => endLine rest
  | true, ']' :: _ => none
  | _, rest => if isCutShort key then skipLine rest else none

/-- A header after its opening bracket, and the characters after its line. -/
def readHeader (cs : List Char) : Option (Statement × List Char) :=
  let (several, start) := match cs with
    | '[' :: rest => (true, rest)
    | rest => (false, rest)
  let (key, rest) := readKey (skipSpaces start)
  (closeHeader several key rest).map fun after => (.header ⟨several, key⟩, after)

/-- The value of an assignment on a line of its own, and the characters after the line.  It may be
missing. -/
def readLineValue (cs : List Char) : Option (Written × List Char) :=
  match endLine cs with
  | some after => some (.lexeme .missing, after)
  | none => do
    let start := skipSpaces cs
    let (value, rest) ← readValue (2 * start.length + 1) nestingLimit start
    let after ← endLine rest
    some (value, after)

/-- An assignment, and the characters after its line. -/
def readAssignment (cs : List Char) : Option (Statement × List Char) :=
  let (key, rest) := readKey cs
  match rest with
  | '=' :: rest => (readLineValue rest).map fun r => (.assignment (key, r.1), r.2)
  | _ => none

/-- A header or an assignment, and the characters after its line. -/
def readStatement : List Char → Option (Statement × List Char)
  | '[' :: cs => readHeader cs
  | cs => readAssignment cs

/-- The statements of a text, in at most `fuel` steps. -/
def readStatements : Nat → List Char → Option (List Statement)
  | 0, _ => none
  | fuel + 1, cs => do
    match ← skipBlank cs with
    | [] => some []
    | start =>
      let (statement, rest) ← readStatement start
      let statements ← readStatements fuel rest
      some (statement :: statements)

def skipMark : List Char → List Char
  | '\ufeff' :: cs => cs
  | cs => cs

def statements? (s : String) : Option (List Statement) :=
  let cs := skipMark s.toList
  readStatements (cs.length + 1) cs

theorem readKey_word {word : List Char} (hne : word ≠ []) (h : ∀ c ∈ word, isDelimiter c = false)
    (hq : ∀ c ∈ word, isQuote c = false) {c : Char} (hs : isSpace c = false) (hp : c ≠ '.')
    (rest : List Char) : readKey (word ++ ' ' :: c :: rest) = ([.bare word], c :: rest) := by
  have hsp : isDelimiter ' ' = true := by decide
  have hk : skipSpaces (' ' :: c :: rest) = c :: rest := by
    rw [skipSpaces, List.dropWhile_cons_of_pos (by decide), List.dropWhile_cons_of_neg (by simp [hs])]
  rw [readKey, readKeyFrom, ofKey_word hne h hq hsp]
  simp only [hk]
  split
  · rename_i hc
    simp only [List.cons.injEq] at hc
    exact absurd hc.1 hp
  · rfl

end ConverterBuilders.Toml
