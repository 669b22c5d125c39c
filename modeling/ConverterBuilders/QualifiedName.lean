import ConverterBuilders.Text.Split

/-!
# Qualified names

A qualified name is a sequence of identifiers with points between them, and an identifier is a letter
or underscore followed by letters, digits and underscores.  Letters and digits are those of ASCII.

Main statement:

* `isValid_iff`: a text is a qualified name exactly if each part between its points is an identifier.
-/

namespace ConverterBuilders.QualifiedName

open Text

def isStart (c : Char) : Bool := c.isAlpha || c = '_'

def isPart (c : Char) : Bool := c.isAlphanum || c = '_'

def isIdentifier : List Char → Bool
  | [] => false
  | c :: rest => isStart c && rest.all isPart

def isValid (s : String) : Bool := (split '.' s.toList).all isIdentifier

def simpleName (s : String) : String := afterLastText '.' s

/-- Whether a name stands below a package; every name stands below the one without a name. -/
def isInside (package name : String) : Bool := package.isEmpty || startsWith name (package ++ ".")

theorem isValid_iff {s : String} :
    isValid s = true ↔ ∀ piece ∈ split '.' s.toList, isIdentifier piece = true := by
  simp [isValid]

end ConverterBuilders.QualifiedName
