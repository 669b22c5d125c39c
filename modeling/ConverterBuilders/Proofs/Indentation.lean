import ConverterBuilders.Proofs.Sections

/-!
# Lines at an indentation

At the start of a line a source writer puts its indentation in front of the next line, if that is not blank,
and adds nothing else.  So all that is written in whole lines is one text behind what stands there already,
and the writer is as it was.

Main statements:

* `placed_placed`: one indentation inside another;
* `write_write`, `writeLine_write`: pieces of a line behind one that is not blank are one piece;
* `writeLine_eq`, `writeLines_eq`, `indented_writeLines`, `comment_eq`: what is written at the start of a line;
* `ended_separated`: items on lines of their own with commas between them.
-/

namespace ConverterBuilders

open Text

theorem Text.isBlank_append (front back : String) :
    isBlank (front ++ back) = (isBlank front && isBlank back) := by
  simp [isBlank]

namespace SourceWriter

variable {w : SourceWriter}

theorem repeated_succ (text : String) (n : Nat) : repeated text (n + 1) = repeated text n ++ text := by
  induction n with
  | zero => simp [repeated]
  | succ n ih =>
    calc
      repeated text (n + 2) = text ++ repeated text (n + 1) := rfl
      _ = text ++ (repeated text n ++ text) := by rw [ih]
      _ = repeated text (n + 1) ++ text := (String.append_assoc ..).symm

/-! ## Indented lines -/

/-- A line with an indentation in front of it; a blank line stays as it is. -/
def placed (indentation line : String) : String :=
  if isBlank line then line else indentation ++ line

theorem placed_of_isBlank {line : String} (h : isBlank line = true) (indentation : String) :
    placed indentation line = line := by
  simp [placed, h]

theorem placed_of_not_isBlank {line : String} (h : isBlank line = false) (indentation : String) :
    placed indentation line = indentation ++ line := by
  simp [placed, h]

@[simp] theorem placed_empty (line : String) : placed "" line = line := by
  simp [placed]

/-- **A line that is indented twice has both indentations in front of it**, the later one first. -/
theorem placed_placed (outer inner line : String) :
    placed outer (placed inner line) = placed (outer ++ inner) line := by
  cases h : isBlank line with
  | true => rw [placed_of_isBlank h, placed_of_isBlank h, placed_of_isBlank h]
  | false =>
    have hinner : isBlank (inner ++ line) = false := by rw [isBlank_append, h, Bool.and_false]
    rw [placed_of_not_isBlank h, placed_of_not_isBlank h, placed_of_not_isBlank hinner,
      String.append_assoc]

theorem not_mem_placed {c : Char} {indentation line : String} (hi : c ∉ indentation.toList)
    (hl : c ∉ line.toList) : c ∉ (placed indentation line).toList := by
  unfold placed
  split
  · exact hl
  · simp [hi, hl]

/-! ## Pieces of a line -/

/-- **Behind a piece that is not blank the line goes on as it is.** -/
theorem write_write {text : String} (h : isBlank text = false) (more : String) :
    (w.write text).write more = w.write (text ++ more) := by
  have hboth : isBlank (text ++ more) = false := by rw [isBlank_append, h, Bool.false_and]
  cases hs : w.atLineStart <;> simp [write, hs, h, hboth, String.append_assoc]

theorem writeLine_write {text : String} (h : isBlank text = false) (more : String) :
    (w.write text).writeLine more = w.writeLine (text ++ more) := by
  rw [writeLine, writeLine, write_write h]

/-! ## Whole lines -/

def indentation (w : SourceWriter) : String := repeated w.indentText w.level

def followedBy (w : SourceWriter) (text : String) : SourceWriter :=
  { w with output := w.output ++ text }

@[simp] theorem output_followedBy (text : String) : (w.followedBy text).output = w.output ++ text := rfl

@[simp] theorem atLineStart_followedBy (text : String) :
    (w.followedBy text).atLineStart = w.atLineStart := rfl

@[simp] theorem indentText_followedBy (text : String) : (w.followedBy text).indentText = w.indentText := rfl

@[simp] theorem indentation_followedBy (text : String) :
    (w.followedBy text).indentation = w.indentation := rfl

@[simp] theorem followedBy_empty : w.followedBy "" = w := by
  simp [followedBy]

@[simp] theorem followedBy_followedBy (text more : String) :
    (w.followedBy text).followedBy more = w.followedBy (text ++ more) := by
  simp [followedBy, String.append_assoc]

@[simp] theorem indentation_indent : w.indent.indentation = w.indentation ++ w.indentText :=
  repeated_succ w.indentText w.level

/-- **A line is put behind the text with the indentation of the writer.** -/
theorem writeLine_eq (h : w.atLineStart = true) (line : String) :
    w.writeLine line = w.followedBy (placed w.indentation line ++ "\n") := by
  cases hl : isBlank line <;>
    simp [writeLine, write, endLine, followedBy, placed, indentation, h, hl, String.append_assoc]

theorem ended_append (front back : List String) : ended (front ++ back) = ended front ++ ended back := by
  simp [ended]

/-- **Lines are put behind the text, each with the indentation of the writer.** -/
theorem writeLines_eq (h : w.atLineStart = true) (lines : List String) :
    w.writeLines lines = w.followedBy (ended (lines.map (placed w.indentation))) := by
  induction lines generalizing w with
  | nil => simp [writeLines]
  | cons line lines ih =>
    rw [writeLines, List.foldl_cons, ← writeLines, writeLine_eq h, ih (by simpa using h)]
    simp

/-- What is written with one more indentation is put behind the text like all else. -/
theorem indented_eq {body : SourceWriter → SourceWriter} {text : String}
    (h : body w.indent = w.indent.followedBy text) : w.indented body = w.followedBy text := by
  rw [indented, h]
  rfl

/-- **Lines that are written with one more indentation** have it behind that of the writer. -/
theorem indented_writeLines (h : w.atLineStart = true) (lines : List String) :
    w.indented (fun inner => inner.writeLines lines) =
      w.followedBy (ended (lines.map (placed (w.indentation ++ w.indentText)))) := by
  apply indented_eq
  rw [writeLines_eq (w := w.indent) h, indentation_indent]

/-- The lines of a documentation comment; without lines in it there are none. -/
def commentLines (lines : List String) : List String :=
  if lines.isEmpty then [] else "/**" :: lines.map commentLine ++ [" */"]

theorem not_mem_commentLines {lines : List String} (h : ∀ line ∈ lines, '\n' ∉ line.toList) :
    ∀ line ∈ commentLines lines, '\n' ∉ line.toList := by
  intro line hm
  unfold commentLines at hm
  split at hm
  · simp at hm
  · simp only [List.cons_append, List.mem_cons, List.mem_append, List.mem_map, List.not_mem_nil,
      or_false] at hm
    rcases hm with rfl | ⟨inner, hinner, rfl⟩ | rfl
    · decide
    · have hline := h inner hinner
      unfold commentLine
      split <;> simp [hline]
    · decide

/-- **A documentation comment is put behind the text line by line.** -/
theorem comment_eq (h : w.atLineStart = true) (lines : List String) :
    w.comment lines = w.followedBy (ended ((commentLines lines).map (placed w.indentation))) := by
  unfold comment commentLines
  split
  · simp
  · rw [writeLine_eq h, writeLines_eq (by simpa using h), writeLine_eq (by simpa using h)]
    simp [ended_append, String.append_assoc]

/-! ## Items with commas between them -/

def separated : List String → List String
  | [] => []
  | [last] => [last]
  | item :: rest => (item ++ ",") :: separated rest

theorem separated_cons_cons (item next : String) (rest : List String) :
    separated (item :: next :: rest) = (item ++ ",") :: separated (next :: rest) := rfl

theorem not_mem_separated {c : Char} (hc : c ≠ ',') {items : List String}
    (h : ∀ item ∈ items, c ∉ item.toList) : ∀ line ∈ separated items, c ∉ line.toList := by
  fun_induction separated items with
  | case1 => simp
  | case2 last => exact h
  | case3 item rest _ ih =>
    have hitem := h item (List.mem_cons_self ..)
    have hrest := ih fun other hm => h other (List.mem_cons_of_mem _ hm)
    intro line hm
    rcases List.mem_cons.1 hm with rfl | hm
    · simp [hitem, hc]
    · exact hrest line hm

/-- Items on lines of their own behind an indentation, with commas between them. -/
def itemLines (indentation : String) (items : List String) : String :=
  if items.isEmpty then ""
  else String.intercalate ",\n" (items.map fun item => indentation ++ item) ++ "\n"

/-- **Items that are no blank lines are put on lines of their own with commas between them.** -/
theorem ended_separated {items : List String} (h : ∀ item ∈ items, isBlank item = false)
    (indentation : String) :
    ended ((separated items).map (placed indentation)) = itemLines indentation items := by
  induction items with
  | nil => rfl
  | cons item rest ih =>
    have hitem : isBlank item = false := h item (List.mem_cons_self ..)
    cases rest with
    | nil => simp [separated, itemLines, placed_of_not_isBlank hitem]
    | cons next others =>
      have hrest := ih fun other hm => h other (List.mem_cons_of_mem _ hm)
      have hcomma : isBlank (item ++ ",") = false := by rw [isBlank_append, hitem, Bool.false_and]
      have hjoin : "," ++ "\n" = ",\n" := rfl
      rw [separated_cons_cons, List.map_cons, ended_cons, hrest, placed_of_not_isBlank hcomma]
      simp [itemLines, String.append_assoc, ← hjoin]

end SourceWriter

end ConverterBuilders
