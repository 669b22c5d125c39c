import ConverterBuilders.Proofs.Indentation
import ConverterBuilders.Proofs.SourceLines

/-!
# Writers and the guards of their indentations

Who opens an indentation takes a guard, and the indentation is open until the guard is released.  Guards are
released in any order, also in the middle of a line.  What was done with a writer can be told without the
writer: which guards are alive, and which pieces stand on which line, each with the number of guards that
were alive when it was written.  The text of the writer follows from that.

Main statements:

* `lineText_concat`: one more piece on a line;
* `Follows.perform`: what an action does to a writer is what it adds to the pieces and guards;
* `follows_run`: so it is after any actions;
* `lines_of_run`: the level, the text and the lines of a writer after any actions.
-/

namespace ConverterBuilders

open Text

namespace SourceWriter

/-! ## Actions -/

/-- What is done with a writer.  The guards of the indentations have the numbers in which they are taken,
from zero on. -/
inductive Action where
  | write (text : String)
  | writeLine (text : String)
  | endLine
  | comment (lines : List String)
  | indent
  | release (guard : Nat)
  deriving DecidableEq

def Action.texts : Action → List String
  | .write text | .writeLine text => [text]
  | .comment lines => lines
  | .endLine | .indent | .release _ => []

def perform (w : SourceWriter) : Action → SourceWriter
  | .write text => w.write text
  | .writeLine text => w.writeLine text
  | .endLine => w.endLine
  | .comment lines => w.comment lines
  | .indent => w.indent
  | .release _ => w.dedent

def run (indentText : String) (actions : List Action) : SourceWriter :=
  actions.foldl perform (new indentText)

theorem comment_eq_writeLines (w : SourceWriter) (lines : List String) :
    w.comment lines = w.writeLines (commentLines lines) := by
  unfold comment commentLines
  split
  · rfl
  · simp [writeLines]

/-! ## Pieces and guards -/

/-- A piece of a line, and how many guards were alive when it was written. -/
structure Piece where
  text : String
  guards : Nat
  deriving DecidableEq

def Piece.isBlank (piece : Piece) : Bool := Text.isBlank piece.text

/-- The text of a line: its pieces one after the other, and in front of the first that is not blank an
indentation for each guard that was alive then. -/
def lineText (indentText : String) : List Piece → String
  | [] => ""
  | piece :: rest =>
    if piece.isBlank then piece.text ++ lineText indentText rest
    else repeated indentText piece.guards ++ piece.text ++ String.join (rest.map Piece.text)

/-- What was done with a writer: how many guards were taken, those that are alive, the lines that were ended
and the line that was begun. -/
structure Transcript where
  taken : Nat
  alive : List Nat
  ended : List (List Piece)
  begun : List Piece
  deriving DecidableEq

namespace Transcript

def empty : Transcript := ⟨0, [], [], []⟩

def write (t : Transcript) (text : String) : Transcript :=
  { t with begun := t.begun ++ [⟨text, t.alive.length⟩] }

def endLine (t : Transcript) : Transcript := { t with ended := t.ended ++ [t.begun], begun := [] }

def writeLines (t : Transcript) (lines : List String) : Transcript :=
  lines.foldl (fun t line => (t.write line).endLine) t

def perform (t : Transcript) : Action → Transcript
  | .write text => t.write text
  | .writeLine text => t.writeLines [text]
  | .endLine => t.endLine
  | .comment lines => t.writeLines (commentLines lines)
  | .indent => { t with taken := t.taken + 1, alive := t.taken :: t.alive }
  | .release guard => { t with alive := t.alive.erase guard }

def ofActions (actions : List Action) : Transcript := actions.foldl perform empty

/-- Whether an action is possible: only a guard that is alive can be released. -/
def allows (t : Transcript) : Action → Bool
  | .release guard => t.alive.contains guard
  | _ => true

def allowsAll : Transcript → List Action → Bool
  | _, [] => true
  | t, action :: rest => t.allows action && allowsAll (t.perform action) rest

/-- The lines, the one that was begun as the last. -/
def lines (t : Transcript) : List (List Piece) := t.ended ++ [t.begun]

theorem allowsAll_append (t : Transcript) (front back : List Action) :
    t.allowsAll (front ++ back) = (t.allowsAll front && (front.foldl perform t).allowsAll back) := by
  induction front generalizing t with
  | nil => rfl
  | cons action front ih => simp [allowsAll, ih, Bool.and_assoc]

end Transcript

/-! ## One more piece -/

theorem lineText_of_not_isBlank {piece : Piece} (h : piece.isBlank = false) (indentText : String)
    (rest : List Piece) : lineText indentText (piece :: rest) =
      repeated indentText piece.guards ++ piece.text ++ String.join (rest.map Piece.text) := by
  simp [lineText, h]

theorem lineText_of_isBlank {piece : Piece} (h : piece.isBlank = true) (indentText : String)
    (rest : List Piece) :
    lineText indentText (piece :: rest) = piece.text ++ lineText indentText rest := by
  simp [lineText, h]

/-- **One more piece on a line** has the indentation in front of it if it is the first that is not blank. -/
theorem lineText_concat (indentText : String) (pieces : List Piece) (piece : Piece) :
    lineText indentText (pieces ++ [piece]) = lineText indentText pieces ++
      (if pieces.all Piece.isBlank && !piece.isBlank then repeated indentText piece.guards ++ piece.text
       else piece.text) := by
  induction pieces with
  | nil => cases h : piece.isBlank <;> simp [lineText, h]
  | cons first rest ih =>
    cases h : first.isBlank with
    | true =>
      rw [List.cons_append, lineText_of_isBlank h, lineText_of_isBlank h, ih, List.all_cons, h,
        Bool.true_and, String.append_assoc]
    | false =>
      rw [List.cons_append, lineText_of_not_isBlank h, lineText_of_not_isBlank h, List.all_cons, h]
      simp [String.append_assoc]

/-! ## The writer behind the pieces -/

/-- Whether a writer is what it must be after what was done. -/
structure Follows (w : SourceWriter) (indentText : String) (t : Transcript) : Prop where
  indent : w.indentText = indentText
  level : w.level = t.alive.length
  output : w.output = ended (t.ended.map (lineText indentText)) ++ lineText indentText t.begun
  atLineStart : w.atLineStart = t.begun.all Piece.isBlank

variable {w : SourceWriter} {indentText : String} {t : Transcript}

theorem follows_new (indentText : String) : Follows (new indentText) indentText .empty :=
  ⟨rfl, rfl, rfl, rfl⟩

theorem Follows.write (h : Follows w indentText t) (text : String) :
    Follows (w.write text) indentText (t.write text) := by
  have hstart : (t.write text).begun.all Piece.isBlank = (w.atLineStart && isBlank text) := by
    simp [Transcript.write, h.atLineStart, Piece.isBlank]
  have hline : lineText indentText (t.write text).begun = lineText indentText t.begun ++
      (if w.atLineStart && !isBlank text then repeated indentText w.level ++ text else text) := by
    rw [Transcript.write, lineText_concat, ← h.atLineStart, h.level]
    rfl
  cases hfirst : w.atLineStart && !isBlank text with
  | true =>
    have hw : w.write text = { w with
        output := w.output ++ repeated w.indentText w.level ++ text, atLineStart := false } := by
      simp [SourceWriter.write, hfirst]
    rw [hfirst, if_pos rfl] at hline
    obtain ⟨hat, hblank⟩ := Bool.and_eq_true_iff.1 hfirst
    constructor
    · rw [hw, h.indent]
    · rw [hw]
      exact h.level
    · rw [hline, hw, h.indent, h.output]
      simp only [Transcript.write, String.append_assoc]
    · rw [hstart, hw, hat, Bool.true_and]
      simpa using hblank
  | false =>
    have hw : w.write text = { w with output := w.output ++ text } := by
      simp [SourceWriter.write, hfirst]
    rw [hfirst, if_neg Bool.false_ne_true] at hline
    constructor
    · rw [hw, h.indent]
    · rw [hw]
      exact h.level
    · rw [hline, hw, h.output]
      simp only [Transcript.write, String.append_assoc]
    · rw [hstart, hw]
      cases hat : w.atLineStart <;> simp_all

theorem Follows.endLine (h : Follows w indentText t) : Follows w.endLine indentText t.endLine := by
  refine ⟨h.indent, h.level, ?_, rfl⟩
  simp [SourceWriter.endLine, Transcript.endLine, h.output, ended_append, lineText, String.append_assoc]

theorem Follows.writeLines (h : Follows w indentText t) (lines : List String) :
    Follows (w.writeLines lines) indentText (t.writeLines lines) := by
  induction lines generalizing w t with
  | nil => exact h
  | cons line lines ih => exact ih (h.write line).endLine

/-- **What an action does to a writer is what it adds to the pieces and the guards.** -/
theorem Follows.perform (h : Follows w indentText t) {action : Action} (ha : t.allows action = true) :
    Follows (w.perform action) indentText (t.perform action) := by
  cases action with
  | write text => exact h.write text
  | writeLine text => exact h.writeLines [text]
  | endLine => exact h.endLine
  | comment lines =>
    rw [SourceWriter.perform, comment_eq_writeLines]
    exact h.writeLines (commentLines lines)
  | indent => exact ⟨h.indent, congrArg (· + 1) h.level, h.output, h.atLineStart⟩
  | release guard =>
    have hlevel : w.level - 1 = (t.alive.erase guard).length := by
      rw [List.length_erase_of_mem (List.contains_iff_mem.1 ha), h.level]
    exact ⟨h.indent, hlevel, h.output, h.atLineStart⟩

theorem Follows.performAll (h : Follows w indentText t) {actions : List Action}
    (ha : t.allowsAll actions = true) :
    Follows (actions.foldl SourceWriter.perform w) indentText (actions.foldl Transcript.perform t) := by
  induction actions generalizing w t with
  | nil => exact h
  | cons action rest ih =>
    obtain ⟨hfirst, hrest⟩ := Bool.and_eq_true_iff.1 ha
    exact ih (h.perform hfirst) hrest

/-- **A new writer follows what is done with it.** -/
theorem follows_run (indentText : String) {actions : List Action}
    (h : Transcript.empty.allowsAll actions = true) :
    Follows (run indentText actions) indentText (.ofActions actions) :=
  (follows_new indentText).performAll h

/-! ## Lines without line ends in them -/

theorem not_mem_repeated {c : Char} {text : String} (h : c ∉ text.toList) (n : Nat) :
    c ∉ (repeated text n).toList := by
  induction n with
  | zero => simp [repeated]
  | succ n ih => simp [repeated, h, ih]

theorem not_mem_lineText {c : Char} (hi : c ∉ indentText.toList) {pieces : List Piece}
    (h : ∀ piece ∈ pieces, c ∉ piece.text.toList) : c ∉ (lineText indentText pieces).toList := by
  induction pieces with
  | nil => simp [lineText]
  | cons piece rest ih =>
    have hpiece := h piece (List.mem_cons_self ..)
    have hrest : ∀ other ∈ rest, c ∉ other.text.toList := fun other ho =>
      h other (List.mem_cons_of_mem _ ho)
    cases hb : piece.isBlank with
    | true =>
      rw [lineText_of_isBlank hb]
      simp [hpiece, ih hrest]
    | false =>
      rw [lineText_of_not_isBlank hb]
      have hfront := not_mem_repeated hi piece.guards
      simpa [hpiece, hfront] using hrest

namespace Transcript

def WithoutLineEnds (t : Transcript) : Prop := ∀ line ∈ t.lines, ∀ piece ∈ line, '\n' ∉ piece.text.toList

theorem WithoutLineEnds.write (h : t.WithoutLineEnds) {text : String} (ht : '\n' ∉ text.toList) :
    (t.write text).WithoutLineEnds := by
  intro line hm piece hp
  rcases List.mem_append.1 hm with hm | hm
  · exact h line (List.mem_append_left _ hm) piece hp
  · rw [List.mem_singleton] at hm
    subst hm
    rcases List.mem_append.1 hp with hp | hp
    · exact h t.begun (by simp [lines]) piece hp
    · rw [List.mem_singleton.1 hp]
      exact ht

theorem WithoutLineEnds.endLine (h : t.WithoutLineEnds) : t.endLine.WithoutLineEnds := by
  intro line hm
  rcases List.mem_append.1 hm with hm | hm
  · exact h line hm
  · rw [List.mem_singleton.1 hm]
    simp [Transcript.endLine]

theorem WithoutLineEnds.writeLines (h : t.WithoutLineEnds) {texts : List String}
    (ht : ∀ text ∈ texts, '\n' ∉ text.toList) : (t.writeLines texts).WithoutLineEnds := by
  induction texts generalizing t with
  | nil => exact h
  | cons text texts ih =>
    exact ih (h.write (ht text (List.mem_cons_self ..))).endLine
      fun other ho => ht other (List.mem_cons_of_mem _ ho)

theorem WithoutLineEnds.perform (h : t.WithoutLineEnds) {action : Action}
    (ha : ∀ text ∈ action.texts, '\n' ∉ text.toList) : (t.perform action).WithoutLineEnds := by
  cases action with
  | write text => exact h.write (ha text (List.mem_singleton_self text))
  | writeLine text => exact h.writeLines ha
  | endLine => exact h.endLine
  | comment lines => exact h.writeLines (not_mem_commentLines ha)
  | indent => exact h
  | release guard => exact h

theorem withoutLineEnds_ofActions {actions : List Action}
    (h : ∀ action ∈ actions, ∀ text ∈ action.texts, '\n' ∉ text.toList) :
    (ofActions actions).WithoutLineEnds := by
  have hall : ∀ t : Transcript, t.WithoutLineEnds →
      (actions.foldl Transcript.perform t).WithoutLineEnds := by
    induction actions with
    | nil => exact fun t ht => ht
    | cons action rest ih =>
      exact fun t ht => ih (fun other ho => h other (List.mem_cons_of_mem _ ho)) _
        (ht.perform (h action (List.mem_cons_self ..)))
  exact hall empty (by simp [WithoutLineEnds, lines, empty])

end Transcript

/-- The lines of a text are its lines, if no line end stands in one of them. -/
theorem splitText_ended_append {lines : List String} {last : String}
    (h : ∀ line ∈ lines ++ [last], '\n' ∉ line.toList) :
    splitText '\n' (ended lines ++ last) = lines ++ [last] := by
  have hlines : lines.flatMap (splitText '\n') = lines := by
    rw [List.flatMap_congr fun line hm => splitText_of_not_mem (h line (List.mem_append_left _ hm)),
      List.flatMap_singleton']
  rw [Artifact.splitText_ended, hlines, splitText_of_not_mem (h last (by simp))]

/-! ## The lines of a run -/

/-- **What a writer is after any actions.**  However indentations are opened and their guards released, the
level is the number of the guards that are alive, and there is one whenever a guard is released.  The text is
the lines that were ended and the one that was begun, each with the indentation of the moment in front of its
first piece that is not blank, and no other; these are the lines of the text, if the indentation and what was
written hold no line end. -/
theorem lines_of_run (indentText : String) {actions : List Action}
    (h : Transcript.empty.allowsAll actions = true) :
    (∀ front back, actions = front ++ back →
      (run indentText front).level = (Transcript.ofActions front).alive.length) ∧
    (∀ front guard back, actions = front ++ .release guard :: back →
      guard ∈ (Transcript.ofActions front).alive ∧ 0 < (run indentText front).level) ∧
    (run indentText actions).output =
      ended ((Transcript.ofActions actions).ended.map (lineText indentText)) ++
        lineText indentText (Transcript.ofActions actions).begun ∧
    ('\n' ∉ indentText.toList →
      (∀ action ∈ actions, ∀ text ∈ action.texts, '\n' ∉ text.toList) →
      splitText '\n' (run indentText actions).output =
        (Transcript.ofActions actions).lines.map (lineText indentText)) := by
  have hlevel : ∀ front back, actions = front ++ back →
      (run indentText front).level = (Transcript.ofActions front).alive.length := by
    rintro front back rfl
    rw [Transcript.allowsAll_append] at h
    exact (follows_run indentText (Bool.and_eq_true_iff.1 h).1).level
  have houtput := (follows_run indentText h).output
  refine ⟨hlevel, ?_, houtput, fun hi ht => ?_⟩
  · intro front guard back he
    have hback := h
    rw [he, Transcript.allowsAll_append] at hback
    have halive : guard ∈ (Transcript.ofActions front).alive :=
      List.contains_iff_mem.1 (Bool.and_eq_true_iff.1 (Bool.and_eq_true_iff.1 hback).2).1
    rw [hlevel front _ he]
    exact ⟨halive, List.length_pos_of_mem halive⟩
  · rw [houtput, Transcript.lines, List.map_append, List.map_singleton]
    apply splitText_ended_append
    have hpieces := Transcript.withoutLineEnds_ofActions ht
    rw [← List.map_singleton, ← List.map_append]
    intro line hm
    obtain ⟨pieces, hp, rfl⟩ := List.mem_map.1 hm
    exact not_mem_lineText hi (hpieces pieces hp)

/-- Two indentations whose guards are released in the order in which they were taken, the first of them in the
middle of a line that begins with a blank piece. -/
def crossing : List Action :=
  [.indent, .write " ", .indent, .write "a(", .release 0, .write "b", .endLine, .writeLine "", .writeLine "c",
    .release 1, .comment ["x", ""], .write "d"]

/-- The first line has the two indentations of the moment in front of its first piece that is not blank. -/
theorem lines_of_run_crossing :
    Transcript.empty.allowsAll crossing = true ∧ (run "\t" crossing).level = 0 ∧
      0 < (run "\t" (crossing.take 4)).level ∧
      (run "\t" crossing).output = " \t\ta(b\n\n\tc\n/**\n * x\n *\n */\nd" ∧
      splitText '\n' (run "\t" crossing).output =
        [" \t\ta(b", "", "\tc", "/**", " * x", " *", " */", "d"] := by
  have hallowed : Transcript.empty.allowsAll crossing = true := by decide
  obtain ⟨hlevel, hrelease, houtput, hlines⟩ := lines_of_run "\t" hallowed
  refine ⟨hallowed, hlevel crossing [] (List.append_nil _).symm,
    (hrelease (crossing.take 4) 0 (crossing.drop 5) rfl).2, ?_, ?_⟩
  · rw [houtput]
    decide +kernel
  · rw [hlines (by decide) (by decide)]
    decide +kernel

end SourceWriter

end ConverterBuilders
