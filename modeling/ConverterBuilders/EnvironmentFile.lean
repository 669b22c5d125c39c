import ConverterBuilders.Configuration.Substitution
import ConverterBuilders.FileTree.Basic
import ConverterBuilders.Text.AlphanumericRanges
import ConverterBuilders.Text.Blank

/-!
# Environment files

The file `.env` gives values to variables that have none, one variable to a line.  A value may be quoted
and may refer to other variables.  The first line that is not well formed ends the file.
-/

namespace ConverterBuilders

open Text

namespace EnvironmentFile

def fileName : String := ".env"

/-! ## Values -/

/-- Where in a value one is.  In most places it matters whether a double quote is open. -/
inductive Place where
  /-- Outside of quotes, or behind an open double quote. -/
  | open (quoted : Bool)
  /-- Behind an open single quote. -/
  | literal
  /-- Behind a backslash. -/
  | escape (quoted : Bool)
  /-- In the name of a variable behind a dollar sign; the name is reversed. -/
  | name (quoted : Bool) (reversed : List Char)
  /-- In the name of a variable in braces; the name is reversed. -/
  | braced (quoted : Bool) (reversed : List Char)
  /-- Behind the value, where only white space and a comment may stand. -/
  | done
  deriving Inhabited

/-- The value of a variable, or nothing. -/
def valueOf (environment : Environment) (reversed : List Char) : List Char :=
  (environment.value? reversed.reverse).getD []

def escaped? : Char → Option Char
  | '\\' => some '\\'
  | '\'' => some '\''
  | '"' => some '"'
  | '$' => some '$'
  | ' ' => some ' '
  | 'n' => some '\n'
  | _ => none

/-- What a value ends with if it ends here; an open quote or brace is refused. -/
def finish (environment : Environment) : Place → Option (List Char)
  | .open quoted => if quoted then none else some []
  | .escape quoted => if quoted then none else some []
  | .name quoted reversed => if quoted then none else some (valueOf environment reversed)
  | .done => some []
  | .literal => none
  | .braced _ _ => none

def value? (environment : Environment) : Place → List Char → Option (List Char)
  | place, [] => finish environment place
  | .done, c :: cs =>
    if c = ' ' ∨ c = '\t' then value? environment .done cs
    else if c = '#' then some []
    else none
  | .escape quoted, c :: cs => do
    let e ← escaped? c
    let rest ← value? environment (.open quoted) cs
    some (e :: rest)
  | .literal, c :: cs =>
    if c = '\'' then value? environment (.open false) cs
    else (value? environment .literal cs).map (c :: ·)
  | .name quoted reversed, c :: cs =>
    if inRanges alphanumericRanges c then value? environment (.name quoted (c :: reversed)) cs
    else if c = '\x7b' ∧ reversed = [] then value? environment (.braced quoted []) cs
    else if c = '$' then
      (value? environment (.name quoted []) cs).map (valueOf environment reversed ++ ·)
    else (value? environment (.open quoted) cs).map (valueOf environment reversed ++ c :: ·)
  | .braced quoted reversed, c :: cs =>
    if c = '\x7d' then
      (value? environment (.open quoted) cs).map (valueOf environment reversed ++ ·)
    else value? environment (.braced quoted (c :: reversed)) cs
  | .open quoted, c :: cs =>
    if c = '$' then value? environment (.name quoted []) cs
    else if c = '\\' then value? environment (.escape quoted) cs
    else if c = '"' then value? environment (.open !quoted) cs
    else if quoted then (value? environment (.open true) cs).map (c :: ·)
    else if c = '\'' then value? environment .literal cs
    else if c = ' ' ∨ c = '\t' then value? environment .done cs
    else (value? environment (.open false) cs).map (c :: ·)

/-! ## Lines -/

def isNameStart (c : Char) : Bool := c.isAlpha || c = '_'

def isNamePart (c : Char) : Bool := c.isAlphanum || c = '_' || c = '.'

def skipBlankChars (cs : List Char) : List Char := cs.dropWhile isBlankChar

/-- A name, and the characters after it and the white space behind it. -/
def readName : List Char → Option (List Char × List Char)
  | [] => none
  | c :: cs =>
    if isNameStart c then
      some ((c :: cs).takeWhile isNamePart, skipBlankChars ((c :: cs).dropWhile isNamePart))
    else none

/-- The characters after an equals sign and the white space behind it. -/
def skipEquals : List Char → Option (List Char)
  | '=' :: cs => some (skipBlankChars cs)
  | _ => none

/-- A name with the characters of its value; the word `export` may stand in front of the name. -/
def readDefinition (cs : List Char) : Option (List Char × List Char) := do
  let (name, rest) ← readName cs
  match skipEquals rest with
  | some value => some (name, value)
  | none =>
    if name = "export".toList then do
      let (name, rest) ← readName rest
      let value ← skipEquals rest
      some (name, value)
    else none

/-- Whether nothing or a comment stands here. -/
def isVacant : List Char → Bool
  | [] => true
  | c :: _ => c = '#'

/-- The variable that a line defines and its value; a vacant line defines none. -/
def readLine (environment : Environment) (line : String) : Option (Option (String × String)) :=
  let cs := skipBlankChars (trimEndChars line.toList)
  if isVacant cs then some none
  else do
    let (name, value) ← readDefinition cs
    let value ← if isVacant value then some [] else value? environment (.open false) value
    some (some (String.ofList name, String.ofList value))

/-- Give a variable a value if it has none. -/
def define (environment : Environment) (name value : String) : Environment :=
  if environment.contains name then environment else environment.insert name value

/-- Go through lines up to the first that is not well formed; a line that is no text is not. -/
def defineAll : Environment → List (Option String) → Environment
  | environment, [] => environment
  | environment, none :: _ => environment
  | environment, some line :: rest =>
    match readLine environment line with
    | none => environment
    | some none => defineAll environment rest
    | some (some (name, value)) => defineAll (define environment name value) rest

/-! ## Files -/

def byteLines (bytes : ByteArray) : List ByteArray :=
  let (others, first) := bytes.toList.foldr
    (fun byte (others, line) => if byte = 10 then (line :: others, []) else (others, byte :: line))
    (([] : List (List UInt8)), ([] : List UInt8))
  (first :: others).map fun line => ⟨line.toArray⟩

def dropReturn (line : String) : String :=
  if endsWith line "\r" then String.ofList line.toList.dropLast else line

def linesOf : FileContent → List (Option String)
  | .text content => (splitText '\n' content).map fun line => some (dropReturn line)
  | .binary bytes => (byteLines bytes).map fun line => (String.fromUTF8? line).map dropReturn

def load (environment : Environment) (content : FileContent) : Environment :=
  defineAll environment (linesOf content)

end EnvironmentFile

end ConverterBuilders
