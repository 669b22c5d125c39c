import ConverterBuilders.Toml.Statements
import ConverterBuilders.Toml.Texts

/-!
# Keys of TOML texts

A part of a key is a bare word or a text on one line; a part may not be missing.  A key leads through tables to the one that holds
its last part, and it may lead through fewer than eighty of them.

Main statements:

* `partOf_word`: a word of letters, digits, hyphens and underscores stands for itself;
* `keyOf_single`: a key of one part leads nowhere.
-/

namespace ConverterBuilders.Toml

inductive Fault where
  | malformed
  | overlongKey
  deriving DecidableEq, Inhabited

/-- The least number of tables that no key may lead through. -/
def pathLimit : Nat := 80

/-- Whether a character may stand in a key without quotes. -/
def isKeyChar (c : Char) : Bool := c.isAlphanum || c = '-' || c = '_'

def partOf : Lexeme → Except Fault String
  | .bare cs => if cs ≠ [] ∧ cs.all isKeyChar then .ok (String.ofList cs) else .error .malformed
  | .quoted cs => (lineText? cs).elim (.error .malformed) .ok

/-- A key as the path to a table and the name of a field there. -/
def keyOf (key : List Lexeme) : Except Fault (List String × String) := do
  let parts ← key.mapM partOf
  match parts.getLast? with
  | none => .error .malformed
  | some last =>
    if pathLimit < parts.length then .error .overlongKey else .ok (parts.dropLast, last)

theorem partOf_word {word : List Char} (hne : word ≠ []) (h : word.all isKeyChar = true) :
    partOf (.bare word) = .ok (String.ofList word) := by
  rw [partOf, if_pos ⟨hne, h⟩]

theorem keyOf_single {part : Lexeme} {name : String} (h : partOf part = .ok name) :
    keyOf [part] = .ok ([], name) := by
  simp [keyOf, h, bind, Except.bind, pure, Except.pure, pathLimit]

end ConverterBuilders.Toml
