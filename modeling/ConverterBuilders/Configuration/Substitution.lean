import ConverterBuilders.Failure
import ConverterBuilders.OrderedMap
import ConverterBuilders.Text.Split

/-!
# Variables in settings

A setting may refer to variables of the environment.  A reference is a dollar sign and, between braces,
the name of the variable and perhaps `:-` and a default.  The references of a text are found from left to
right without overlap.  Each reference in turn is replaced wherever its text stands in what the ones
before it left.

Main statement:

* `substitute_of_no_reference`: a text without references is left alone.
-/

namespace ConverterBuilders

open Text

/-- Variables by their names.  A variable that is no text counts as one that is not set. -/
abbrev Environment := OrderedMap String String

/-- The value of a variable.  An equals sign ends the name of the variable, and what stands behind it
must be the front of the value up to a further equals sign; the name then means the rest of the value. -/
def Environment.value? (environment : Environment) (name : List Char) : Option (List Char) := do
  let value ← environment.get? (String.ofList (name.takeWhile (· ≠ '=')))
  match name.dropWhile (· ≠ '=') with
  | [] => some value.toList
  | _ :: front => (front ++ ['=']).isPrefixOf? value.toList

/-- A reference to a variable, perhaps with a default. -/
structure VariableReference where
  name : List Char
  default? : Option (List Char)
  deriving DecidableEq, Inhabited

namespace VariableReference

def opening : List Char := ['$', '\x7b']

def closing : Char := '\x7d'

def text (reference : VariableReference) : List Char :=
  opening ++ reference.name ++
    (match reference.default? with
      | some default => ':' :: '-' :: default
      | none => []) ++ [closing]

def ofName? (cs : List Char) : Option VariableReference :=
  match cs.takeWhile fun c => c ≠ closing && c ≠ ':' with
  | [] => none
  | name =>
    match cs.drop name.length with
    | ':' :: '-' :: rest =>
      let default := rest.takeWhile fun c => c ≠ closing
      if default.length < rest.length then some ⟨name, some default⟩ else none
    | c :: _ => if c = closing then some ⟨name, none⟩ else none
    | [] => none

def at? : List Char → Option VariableReference
  | '$' :: '\x7b' :: cs => ofName? cs
  | _ => none

/-- The references of a text from left to right, after passing over `skip` characters. -/
def allFrom : Nat → List Char → List VariableReference
  | _, [] => []
  | skip + 1, _ :: cs => allFrom skip cs
  | 0, c :: cs =>
    match at? (c :: cs) with
    | some reference => reference :: allFrom (reference.text.length - 1) cs
    | none => allFrom 0 cs

def all (cs : List Char) : List VariableReference := allFrom 0 cs

/-- What a reference stands for: its variable, else its default. -/
def value? (environment : Environment) (reference : VariableReference) : Option (List Char) :=
  match environment.value? reference.name with
  | some value => some value
  | none => reference.default?

end VariableReference

namespace Environment

def replaceEach (environment : Environment) :
    List VariableReference → List Char → Except Failure (List Char)
  | [], cs => .ok cs
  | reference :: rest, cs =>
    match reference.value? environment with
    | some value => replaceEach environment rest (replaceAll reference.text value cs)
    | none => .error (.variableNotSet (String.ofList reference.name))

def substitute (environment : Environment) (text : String) : Except Failure String :=
  (replaceEach environment (VariableReference.all text.toList) text.toList).map String.ofList

theorem substitute_of_no_reference (environment : Environment) {text : String}
    (h : VariableReference.all text.toList = []) : environment.substitute text = .ok text := by
  simp [substitute, h, replaceEach, Except.map]

end Environment

end ConverterBuilders
