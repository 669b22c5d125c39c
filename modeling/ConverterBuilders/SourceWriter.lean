import ConverterBuilders.Text.Blank

/-!
# Writing indented source text

A source writer keeps the text written so far and the number of indentations that are open.  The
indentation of a line stands in front of the first piece on it that is not blank, so a blank line has
no white space of the writer's.

Main statement:

* `level_write`, `level_writeLine`, `level_writeLines`: writing opens and closes no indentation.
-/

namespace ConverterBuilders

open Text

structure SourceWriter where
  output : String
  level : Nat
  indentText : String
  atLineStart : Bool
  deriving Inhabited

namespace SourceWriter

/-- A writer without text whose indentation is `indentText`. -/
def new (indentText : String) : SourceWriter := ⟨"", 0, indentText, true⟩

def withSpaces (count : Nat) : SourceWriter := new (String.ofList (List.replicate count ' '))

def repeated (text : String) : Nat → String
  | 0 => ""
  | n + 1 => text ++ repeated text n

def write (w : SourceWriter) (text : String) : SourceWriter :=
  if w.atLineStart && !isBlank text then
    { w with output := w.output ++ repeated w.indentText w.level ++ text, atLineStart := false }
  else { w with output := w.output ++ text }

def endLine (w : SourceWriter) : SourceWriter :=
  { w with output := w.output ++ "\n", atLineStart := true }

def writeLine (w : SourceWriter) (text : String) : SourceWriter := (w.write text).endLine

def writeLines (w : SourceWriter) (lines : List String) : SourceWriter := lines.foldl writeLine w

/-- Open an indentation. -/
def indent (w : SourceWriter) : SourceWriter := { w with level := w.level + 1 }

def dedent (w : SourceWriter) : SourceWriter := { w with level := w.level - 1 }

def indented (w : SourceWriter) (body : SourceWriter → SourceWriter) : SourceWriter :=
  (body w.indent).dedent

def commentLine (line : String) : String := if line.isEmpty then " *" else " * " ++ line

/-- Write a documentation comment; without lines there is none. -/
def comment (w : SourceWriter) (lines : List String) : SourceWriter :=
  if lines.isEmpty then w
  else ((w.writeLine "/**").writeLines (lines.map commentLine)).writeLine " */"

/-! ## Laws -/

@[simp] theorem level_indent (w : SourceWriter) : w.indent.level = w.level + 1 := rfl

@[simp] theorem level_dedent (w : SourceWriter) : w.dedent.level = w.level - 1 := rfl

theorem level_write (w : SourceWriter) (text : String) : (w.write text).level = w.level := by
  rw [write]
  split <;> rfl

theorem level_writeLine (w : SourceWriter) (text : String) : (w.writeLine text).level = w.level :=
  level_write w text

theorem level_writeLines (w : SourceWriter) (lines : List String) :
    (w.writeLines lines).level = w.level := by
  induction lines generalizing w with
  | nil => rfl
  | cons line lines ih => rw [writeLines, List.foldl_cons, ← writeLines, ih, level_writeLine]

end SourceWriter

end ConverterBuilders
