import ConverterBuilders.Toml.Spacing

/-!
# Lexemes of TOML texts

A lexeme is what is written in one piece: a text in quotes, a word of a key, or a value without quotes.
Where it ends does not depend on its meaning, so a text is cut into lexemes before any of them is
understood.  A text in quotes ends with its quotes, or where the line or the whole text ends without
them.  Where a lexeme is missing, an empty word stands for it.

Main statement:

* `ofKey_word`: a word of a key ends at the first delimiter.
-/

namespace ConverterBuilders.Toml

/-- What is written in one piece; a text keeps its quotes. -/
inductive Lexeme where
  | bare (chars : List Char)
  | quoted (chars : List Char)
  deriving DecidableEq, Inhabited

/-- What stands for a lexeme that is not there. -/
def Lexeme.missing : Lexeme := .bare []

def isDelimiter (c : Char) : Bool :=
  isSpace c || c = '\n' || c = '\r' || c = '.' || c = '=' || c = ',' || c = '#' || c = '[' || c = ']' ||
    c = '\x7b' || c = '\x7d'

def isQuote (c : Char) : Bool := c = '"' || c = '\''

/-! ## Texts in quotes -/

def quoteRun (quote : Char) (cs : List Char) : Nat := (cs.takeWhile (· = quote)).length

/-- The number of characters up to a closing double quote on the line. -/
def basicLength : List Char → Nat
  | [] => 0
  | '\n' :: _ => 0
  | '"' :: _ => 1
  | '\\' :: '\\' :: cs => basicLength cs + 2
  | '\\' :: '"' :: cs => basicLength cs + 2
  | _ :: cs => basicLength cs + 1

/-- The number of characters up to a closing single quote on the line. -/
def literalLength : List Char → Nat
  | [] => 0
  | '\n' :: _ => 0
  | '\'' :: _ => 1
  | _ :: cs => literalLength cs + 1

/-- The number of characters up to three closing double quotes and at most two more behind them. -/
def multilineBasicLength : List Char → Nat
  | [] => 0
  | '\\' :: '\\' :: cs => multilineBasicLength cs + 2
  | '\\' :: '"' :: cs => multilineBasicLength cs + 2
  | c :: cs =>
    if 3 ≤ quoteRun '"' (c :: cs) then min (quoteRun '"' (c :: cs)) 5
    else multilineBasicLength cs + 1

/-- The number of characters up to three closing single quotes and at most two more behind them. -/
def multilineLiteralLength : List Char → Nat
  | [] => 0
  | c :: cs =>
    if 3 ≤ quoteRun '\'' (c :: cs) then min (quoteRun '\'' (c :: cs)) 5
    else multilineLiteralLength cs + 1

/-- The number of characters of the text in quotes in front, which is zero if no quote stands there. -/
def quotedLength : List Char → Nat
  | '"' :: '"' :: '"' :: cs => multilineBasicLength cs + 3
  | '\'' :: '\'' :: '\'' :: cs => multilineLiteralLength cs + 3
  | '"' :: cs => basicLength cs + 1
  | '\'' :: cs => literalLength cs + 1
  | _ => 0

/-! ## Lexemes in front -/

def keyWord (cs : List Char) : List Char := cs.takeWhile fun c => !isDelimiter c

def isWordStart (c : Char) : Bool := !isDelimiter c && !isQuote c

/-- The characters of a value without quotes in front, with `fresh` where a word begins.  It may hold
points between its words, and white space in front of a word. -/
def valueWordsFrom : Bool → List Char → List Char
  | _, [] => []
  | fresh, c :: cs =>
    if isSpace c then
      if (skipSpaces cs).head?.any isWordStart then c :: valueWordsFrom true cs else []
    else if c = '.' then c :: valueWordsFrom true cs
    else if isDelimiter c || (fresh && isQuote c) then []
    else c :: valueWordsFrom false cs

def valueWords (cs : List Char) : List Char := valueWordsFrom true cs

namespace Lexeme

/-- The lexeme in front, where `bare` gives the characters of one without quotes, and the characters
after it. -/
def cut (bare : List Char → List Char) (cs : List Char) : Lexeme × List Char :=
  match quotedLength cs with
  | 0 => (.bare (bare cs), cs.drop (bare cs).length)
  | length => (.quoted (cs.take length), cs.drop length)

/-- A part of a key, and the characters after it. -/
def ofKey (cs : List Char) : Lexeme × List Char := cut keyWord cs

/-- A value other than a list or a table, and the characters after it. -/
def ofValue (cs : List Char) : Lexeme × List Char := cut valueWords cs

end Lexeme

/-! ## Lines passed over -/

/-- The characters after a line of which the rest is passed over, in at most `fuel` steps; a line does
not end inside a lexeme. -/
def skipLineFrom : Nat → List Char → Option (List Char)
  | 0, _ => none
  | fuel + 1, cs =>
    match skipSpaces cs with
    | [] => some []
    | c :: cs =>
      if c = '#' ∨ c = '\n' ∨ c = '\r' then endLine (c :: cs)
      else
        match Lexeme.ofKey (c :: cs) with
        | (.bare [], _) => skipLineFrom fuel cs
        | (_, rest) => skipLineFrom fuel rest

/-- The characters after a line of which the rest is passed over. -/
def skipLine (cs : List Char) : Option (List Char) := skipLineFrom (cs.length + 1) cs

/-! ## Laws -/

theorem quotedLength_of_not_quote {c : Char} (hc : isQuote c = false) (cs : List Char) :
    quotedLength (c :: cs) = 0 := by
  unfold quotedLength
  split <;> simp_all [isQuote]

theorem ofKey_word {word : List Char} (hne : word ≠ []) (h : ∀ c ∈ word, isDelimiter c = false)
    (hq : ∀ c ∈ word, isQuote c = false) {c : Char} (hc : isDelimiter c = true) (rest : List Char) :
    Lexeme.ofKey (word ++ c :: rest) = (.bare word, c :: rest) := by
  have ht : keyWord (word ++ c :: rest) = word := by
    rw [keyWord, List.takeWhile_append_of_pos (by simpa using h)]
    simp [hc]
  cases word with
  | nil => exact absurd rfl hne
  | cons d ds =>
    have hz : quotedLength (d :: ds ++ c :: rest) = 0 := by
      rw [List.cons_append, quotedLength_of_not_quote (hq d (List.mem_cons_self ..))]
    rw [Lexeme.ofKey, Lexeme.cut, hz]
    simp only [ht]
    simp

end ConverterBuilders.Toml
