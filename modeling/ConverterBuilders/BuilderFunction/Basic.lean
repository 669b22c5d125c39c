import ConverterBuilders.SourceWriter

/-!
# Builder functions

A builder function is a documented extension function with an expression body.  It is plain data until
it is rendered.
-/

namespace ConverterBuilders

structure Parameter where
  name : String
  type : String
  default? : Option String
  deriving DecidableEq, Inhabited

structure BuilderFunction where
  doc : List String
  receiver : String
  name : String
  parameters : List Parameter
  returnType : String
  body : List String
  deriving DecidableEq, Inhabited

namespace Parameter

def declared (parameter : Parameter) : String :=
  parameter.name ++ ": " ++ parameter.type

/-- The default value behind a parameter, if it has one. -/
def defaultText (parameter : Parameter) : String :=
  match parameter.default? with
  | some value => " = " ++ value
  | none => ""

/-- A parameter in a signature, which shows no types. -/
def short (parameter : Parameter) : String := parameter.name ++ parameter.defaultText

/-- Write a parameter, and behind it the separator and the end of the line. -/
def render (w : SourceWriter) (parameter : Parameter) (separator : String) : SourceWriter :=
  let w := w.write parameter.declared
  let w := match parameter.default? with
    | some value => w.write (" = " ++ value)
    | none => w
  w.writeLine separator

/-- Write parameters, one to a line, with commas between them. -/
def renderAll (w : SourceWriter) : List Parameter → SourceWriter
  | [] => w
  | [last] => last.render w ""
  | parameter :: rest => renderAll (parameter.render w ",") rest

end Parameter

namespace BuilderFunction

def parameter? (function : BuilderFunction) (name : String) : Option Parameter :=
  function.parameters.find? fun parameter => parameter.name = name

/-- The name and the parameters with their default values, on one line. -/
def signature (function : BuilderFunction) : String :=
  function.name ++ "(" ++ String.intercalate ", " (function.parameters.map Parameter.short) ++ ")"

def header (function : BuilderFunction) : String :=
  "public fun " ++ function.receiver ++ "." ++ function.name ++ "("

def footer (function : BuilderFunction) : String := "): " ++ function.returnType ++ " ="

def render (w : SourceWriter) (function : BuilderFunction) : SourceWriter :=
  let w := (w.comment function.doc).writeLine function.header
  let w := w.indented fun w => Parameter.renderAll w function.parameters
  let w := w.writeLine function.footer
  w.indented fun w => w.writeLines function.body

/-- The text of a function by itself, with four spaces for each indentation. -/
def source (function : BuilderFunction) : String := (render (.withSpaces 4) function).output

end BuilderFunction

end ConverterBuilders
