/-!
# White space and comments in TOML texts

A line ends in a line feed, with a carriage return in front of it or without.  A comment reaches from a
number sign to the end of its line, and no control character but a tabulator may stand in it.

Main statement:

* `skipBlank_of_solid`: nothing is skipped in front of a character that is neither.
-/

namespace ConverterBuilders.Toml

def isSpace (c : Char) : Bool := c = ' ' || c = '\t'

/-- Whether a character may stand in a comment or, unless it has a meaning there, in a text. -/
def isPlain (c : Char) : Bool := c = '\t' || (0x20 ≤ c.toNat && c.toNat ≠ 0x7F)

/-- The characters without the white space of the line in front. -/
def skipSpaces (cs : List Char) : List Char := cs.dropWhile isSpace

/-- The characters without the white space, line ends and comments in front, from inside a comment or
from outside. -/
def skipBlankFrom : Bool → List Char → Option (List Char)
  | _, [] => some []
  | _, '\n' :: cs => skipBlankFrom false cs
  | _, '\r' :: '\n' :: cs => skipBlankFrom false cs
  | true, c :: cs => if isPlain c then skipBlankFrom true cs else none
  | false, c :: cs =>
    if isSpace c then skipBlankFrom false cs
    else if c = '#' then skipBlankFrom true cs
    else some (c :: cs)

/-- The characters without the white space, line ends and comments in front. -/
def skipBlank (cs : List Char) : Option (List Char) := skipBlankFrom false cs

/-- The characters without a line end in front, if there is one. -/
def skipLineEnd : List Char → List Char
  | '\n' :: cs => cs
  | '\r' :: '\n' :: cs => cs
  | cs => cs

def atLineEnd : List Char → Bool
  | [] => true
  | '\n' :: _ => true
  | '\r' :: '\n' :: _ => true
  | _ => false

/-- The characters after the rest of a line, on which only white space and a comment may stand. -/
def endLine (cs : List Char) : Option (List Char) :=
  let rest := match skipSpaces cs with
    | '#' :: comment => comment.dropWhile isPlain
    | rest => rest
  if atLineEnd rest then some (skipLineEnd rest) else none

theorem skipBlank_of_solid {c : Char} {cs : List Char} (hs : isSpace c = false) (hc : c ≠ '#')
    (hn : c ≠ '\n') (hr : c ≠ '\r') : skipBlank (c :: cs) = some (c :: cs) := by
  rw [skipBlank, skipBlankFrom]
  · simp [hs, hc]
  · exact hn
  · intro rest h _
    exact hr h

end ConverterBuilders.Toml
