import ConverterBuilders.BuilderFunction.Basic
import ConverterBuilders.Plan
import ConverterBuilders.Text.Casing

/-!
# The shapes of builder functions

Each shape has a plain form and, lists apart, a choice form, which takes its values from a map.  The
names are called from outside, so they are fixed: `n`, `nList`, `optionalN` and `defaultingN` for the
display name `n`, and `Choice` behind them for the choice form.
-/

namespace ConverterBuilders

open Text

structure BuilderContext where
  /-- The simple name of the converter class. -/
  converter : String
  /-- The display name that the annotation gives. -/
  displayName : String
  /-- The simple name of the type of the values. -/
  valueType : String
  /-- The type that the functions extend. -/
  receiver : String
  deriving DecidableEq, Inhabited

namespace BuilderContext

/-- The parameters that all builder functions begin with. -/
def leadingParameters : List Parameter :=
  [⟨"displayName", "String", none⟩, ⟨"description", "String", none⟩]

def choicesParameter (context : BuilderContext) : Parameter :=
  ⟨"choices", "Map<String, " ++ context.valueType ++ ">", none⟩

/-- The parameter for the check of a value, which all builder functions end with. -/
def validatorParameter (type : String) : Parameter :=
  ⟨"validator", "Validator<" ++ type ++ ">", some "null"⟩

def requiredParameter (default : String) : Parameter := ⟨"required", "Boolean", some default⟩

/-- The registration of an argument, with a combinator behind the converter or without one. -/
def registration (converter : String) (combinator? : Option String) : List String :=
  ["arg(", "    displayName = displayName,", "    description = description,", "",
    "    converter = " ++ converter] ++
  (combinator?.toList.map fun combinator => "        ." ++ combinator) ++ [")"]

/-- The reference to the converter in a documentation comment. -/
def seeConverter (context : BuilderContext) : String := "@see " ++ context.converter

/-- The first line of a documentation comment. -/
def summary (context : BuilderContext) (kind : String) (choice : Bool) : String :=
  if choice then
    "Creates " ++ kind ++ context.displayName ++
      " choice converter, for a defined set of single arguments."
  else "Creates " ++ kind ++ context.displayName ++ " converter, for single arguments."

def formName (base : String) (choice : Bool) : String := if choice then base ++ "Choice" else base

def single (context : BuilderContext) (choice : Bool) : BuilderFunction where
  doc := [context.summary "a " choice, "", context.seeConverter]
  receiver := context.receiver
  name := formName (lowerFirst context.displayName) choice
  parameters := leadingParameters ++ (if choice then [context.choicesParameter] else []) ++
    [validatorParameter context.valueType]
  returnType := "SingleConverter<" ++ context.valueType ++ ">"
  body := registration
    (context.converter ++ (if choice then "(choices, validator)" else "(validator)")) none

/-- A builder function for one value that may be left out. -/
def optional (context : BuilderContext) (choice : Bool) : BuilderFunction where
  doc := [context.summary "an optional " choice, ""] ++
    (if choice then []
      else ["@param required Whether command parsing should fail if an invalid argument is provided."]) ++
    [context.seeConverter]
  receiver := context.receiver
  name := formName ("optional" ++ titleFirst context.displayName) choice
  parameters := leadingParameters ++
    [if choice then context.choicesParameter else requiredParameter "false"] ++
    [validatorParameter (context.valueType ++ "?")]
  returnType := "OptionalConverter<" ++ context.valueType ++ "?>"
  body := registration
    (context.converter ++ (if choice then "(choices)" else "()"))
    (some (if choice then "toOptional(nestedValidator = validator)"
      else "toOptional(outputError = required, nestedValidator = validator)"))

def defaulting (context : BuilderContext) (choice : Bool) : BuilderFunction where
  doc := [context.summary "a defaulting " choice, "",
    "@param defaultValue Default value to use if no argument was provided.", context.seeConverter]
  receiver := context.receiver
  name := formName ("defaulting" ++ titleFirst context.displayName) choice
  parameters := leadingParameters ++ [⟨"defaultValue", context.valueType, none⟩] ++
    (if choice then [context.choicesParameter] else []) ++ [validatorParameter context.valueType]
  returnType := "DefaultingConverter<" ++ context.valueType ++ ">"
  body := registration
    (context.converter ++ (if choice then "(choices)" else "()"))
    (some "toDefaulting(defaultValue, nestedValidator = validator)")

def list (context : BuilderContext) : BuilderFunction where
  doc := ["Creates a " ++ context.displayName ++ " converter, for lists of arguments.", "",
    "@param required Whether command parsing should fail if no arguments could be converted.",
    context.seeConverter]
  receiver := context.receiver
  name := lowerFirst context.displayName ++ "List"
  parameters := leadingParameters ++ [requiredParameter "true"] ++
    [validatorParameter ("List<" ++ context.valueType ++ ">")]
  returnType := "MultiConverter<" ++ context.valueType ++ ">"
  body := registration (context.converter ++ "()")
    (some "toMulti(required, nestedValidator = validator)")

/-- The builder function of a shape; a list has no choice form. -/
def build (context : BuilderContext) (shape : Shape) (choice : Bool) :
    Except RequestError BuilderFunction :=
  match shape with
  | .single => .ok (context.single choice)
  | .optional => .ok (context.optional choice)
  | .defaulting => .ok (context.defaulting choice)
  | .list => if choice then .error listChoiceConflict else .ok context.list

end BuilderContext

end ConverterBuilders
