import ConverterBuilders.Proofs.Indentation
import ConverterBuilders.Proofs.SourceLines

/-!
# Rendering inside an indentation

A builder function is rendered in whole lines, some of them behind one indentation.  So the text of a function
hangs on where it stands only by what is put in front of its lines: inside other indentations it is the text
that it has by itself, with these indentations in front of the lines that are not blank.

Main statements:

* `Parameter.renderAll_eq`: parameters have a line each;
* `BuilderFunction.render_eq`: what rendering at the start of a line puts behind the text;
* `nested_ended`: lines inside an indentation;
* `BuilderFunction.source_eq_layout`: the text of a function by itself;
* `BuilderFunction.render_nested`: both for all functions and all places.
-/

namespace ConverterBuilders

open Text SourceWriter

/-! ## Texts inside an indentation -/

namespace SourceWriter

/-- A text with an indentation in front of each of its lines that is not blank. -/
def nested (indentation text : String) : String :=
  String.intercalate "\n" ((splitText '\n' text).map (placed indentation))

theorem intercalate_concat_empty (lines : List String) :
    String.intercalate "\n" (lines ++ [""]) = ended lines := by
  induction lines with
  | nil => simp
  | cons line lines ih =>
    rw [List.cons_append, String.intercalate_cons_of_ne_nil (by simp), ih, ended_cons]

/-- **Lines inside an indentation** have it in front of them, each by itself. -/
theorem nested_ended {lines : List String} (h : ∀ line ∈ lines, '\n' ∉ line.toList)
    (indentation : String) :
    nested indentation (ended lines) = ended (lines.map (placed indentation)) := by
  have hlines : lines.flatMap (splitText '\n') = lines := by
    rw [List.flatMap_congr fun line hm => splitText_of_not_mem (h line hm), List.flatMap_singleton']
  have hsplit : splitText '\n' (ended lines) = lines ++ [""] := by
    have hempty : splitText '\n' "" = [""] := rfl
    rw [← String.append_empty (s := ended lines), Artifact.splitText_ended, hlines, hempty]
  have hblank : placed indentation "" = "" := placed_of_isBlank rfl indentation
  rw [nested, hsplit, List.map_append, List.map_singleton, hblank, intercalate_concat_empty]

end SourceWriter

/-! ## The parameters of a function -/

namespace Parameter

/-- A parameter with its type and its default value, if it has one. -/
def full (parameter : Parameter) : String := parameter.declared ++ parameter.defaultText

theorem isBlank_declared (parameter : Parameter) : isBlank parameter.declared = false := by
  have hcolon : isBlank ": " = false := by decide
  simp [declared, isBlank_append, hcolon]

theorem not_mem_full {parameter : Parameter} (h : '\n' ∉ parameter.name.toList ∧
    '\n' ∉ parameter.type.toList ∧ ∀ value ∈ parameter.default?, '\n' ∉ value.toList) :
    '\n' ∉ parameter.full.toList := by
  obtain ⟨hname, htype, hdefault⟩ := h
  cases hd : parameter.default? with
  | none => simp [full, declared, defaultText, hd, hname, htype]
  | some value =>
    have hvalue := hdefault value hd
    simp [full, declared, defaultText, hd, hname, htype, hvalue]

theorem isBlank_full (parameter : Parameter) : isBlank parameter.full = false := by
  rw [full, isBlank_append, isBlank_declared, Bool.false_and]

/-- **A parameter is one line**, though it is written in pieces. -/
theorem render_eq (w : SourceWriter) (parameter : Parameter) (separator : String) :
    parameter.render w separator = w.writeLine (parameter.full ++ separator) := by
  have hdeclared := isBlank_declared parameter
  have hfull := isBlank_full parameter
  cases hd : parameter.default? with
  | none =>
    have htext : parameter.full = parameter.declared := by simp [full, defaultText, hd]
    simp only [render, hd]
    rw [writeLine_write hdeclared, htext]
  | some value =>
    have htext : parameter.full = parameter.declared ++ (" = " ++ value) := by
      simp [full, defaultText, hd]
    simp only [render, hd]
    rw [write_write hdeclared, ← htext, writeLine_write hfull]

/-- **Parameters have a line each, with commas between them.** -/
theorem renderAll_eq (w : SourceWriter) (parameters : List Parameter) :
    renderAll w parameters = w.writeLines (separated (parameters.map full)) := by
  fun_induction renderAll w parameters with
  | case1 w => rfl
  | case2 w last =>
    rw [render_eq, String.append_empty]
    rfl
  | case3 w parameter rest hne ih =>
    obtain ⟨next, others, rfl⟩ := List.exists_cons_of_ne_nil hne
    rw [ih, render_eq]
    rfl

end Parameter

namespace BuilderFunction

/-! ## The lines of a function -/

/-- The lines of a function, where `indentText` is one indentation. -/
def lines (function : BuilderFunction) (indentText : String) : List String :=
  commentLines function.doc ++
    function.header :: (separated (function.parameters.map Parameter.full)).map (placed indentText) ++
    function.footer :: function.body.map (placed indentText)

/-- **A function that is rendered at the start of a line is put behind the text line by line**, each behind
the indentation of the writer. -/
theorem render_eq {w : SourceWriter} (h : w.atLineStart = true) (function : BuilderFunction) :
    function.render w =
      w.followedBy (ended ((function.lines w.indentText).map (placed w.indentation))) := by
  simp only [render, Parameter.renderAll_eq]
  rw [comment_eq h, writeLine_eq (by simpa using h) function.header,
    indented_writeLines (by simpa using h) (separated (function.parameters.map Parameter.full)),
    writeLine_eq (by simpa using h) function.footer,
    indented_writeLines (by simpa using h) function.body]
  simp [lines, ended_append, placed_placed, Function.comp_def, String.append_assoc]

/-- Whether there is no line end in any of the texts that a function is made of. -/
structure WithoutLineEnds (function : BuilderFunction) : Prop where
  doc : ∀ line ∈ function.doc, '\n' ∉ line.toList
  receiver : '\n' ∉ function.receiver.toList
  name : '\n' ∉ function.name.toList
  parameters : ∀ parameter ∈ function.parameters, '\n' ∉ parameter.name.toList ∧
    '\n' ∉ parameter.type.toList ∧ ∀ value ∈ parameter.default?, '\n' ∉ value.toList
  returnType : '\n' ∉ function.returnType.toList
  body : ∀ line ∈ function.body, '\n' ∉ line.toList

/-- **The lines of a function are lines, if no text that it is made of has a line end in it.** -/
theorem WithoutLineEnds.lines {function : BuilderFunction} (h : function.WithoutLineEnds)
    {indentText : String} (hi : '\n' ∉ indentText.toList) :
    ∀ line ∈ function.lines indentText, '\n' ∉ line.toList := by
  intro line hm
  simp only [BuilderFunction.lines, List.mem_append, List.mem_cons] at hm
  rcases hm with (hdoc | rfl | hparameter) | rfl | hbody
  · exact not_mem_commentLines h.doc line hdoc
  · simp only [header, String.toList_append, List.mem_append, not_or]
    exact ⟨⟨⟨⟨by decide, h.receiver⟩, by decide⟩, h.name⟩, by decide⟩
  · obtain ⟨item, hitem, rfl⟩ := List.mem_map.1 hparameter
    refine not_mem_placed hi (not_mem_separated (by decide) (fun full hfull => ?_) item hitem)
    obtain ⟨parameter, hp, rfl⟩ := List.mem_map.1 hfull
    exact Parameter.not_mem_full (h.parameters parameter hp)
  · simp only [footer, String.toList_append, List.mem_append, not_or]
    exact ⟨⟨by decide, h.returnType⟩, by decide⟩
  · obtain ⟨body, hb, rfl⟩ := List.mem_map.1 hbody
    exact not_mem_placed hi (h.body body hb)

/-! ## Functions inside an indentation -/

/-- The text of a function by itself, put together from its parts: the documentation comment, the head, the
parameters, the return type and the body. -/
def layout (function : BuilderFunction) : String :=
  ended (commentLines function.doc) ++
    "public fun " ++ function.receiver ++ "." ++ function.name ++ "(\n" ++
    itemLines "    " (function.parameters.map Parameter.full) ++
    "): " ++ function.returnType ++ " =\n" ++
    ended (function.body.map (placed "    "))

/-- **The text of a function by itself.** -/
theorem source_eq_layout (function : BuilderFunction) : function.source = function.layout := by
  have hitems : ∀ item ∈ function.parameters.map Parameter.full, isBlank item = false := by
    intro item hm
    obtain ⟨parameter, -, rfl⟩ := List.mem_map.1 hm
    exact parameter.isBlank_full
  have hspaces : (withSpaces 4).indentText = "    " := by decide
  have hempty : (withSpaces 4).output = "" := rfl
  have hplaced : placed (withSpaces 4).indentation = id := funext placed_empty
  have hopen : "(" ++ "\n" = "(\n" := rfl
  have hclose : " =" ++ "\n" = " =\n" := rfl
  rw [source, render_eq rfl, hspaces, hplaced, List.map_id, output_followedBy, hempty, lines, layout,
    ended_append, ended_append, ended_cons, ended_cons, ended_separated hitems]
  simp [header, footer, String.append_assoc, ← hopen, ← hclose]

/-- **Rendering inside indentations is rendering alone, with the indentations in front of the lines.**  At the
start of a line, whatever the indentation is and how often it stands there, a function without line ends in its
texts puts behind the text what it would put there alone, inside these indentations, and leaves the writer at
the start of a line with the indentations that were open.  By itself and with four spaces for an indentation
the text of any function is the one that is put together from its parts. -/
theorem render_nested (function : BuilderFunction) :
    (∀ w : SourceWriter, w.atLineStart = true → '\n' ∉ w.indentText.toList →
      function.WithoutLineEnds →
      function.render w =
        { w with
          output := w.output ++
            nested (repeated w.indentText w.level) (function.render (.new w.indentText)).output }) ∧
    function.source = function.layout := by
  refine ⟨fun w hstart hindent hfunction => ?_, source_eq_layout function⟩
  have halone : (function.render (.new w.indentText)).output = ended (function.lines w.indentText) := by
    have hplaced : placed (new w.indentText).indentation = id := funext placed_empty
    rw [render_eq rfl, output_followedBy, hplaced, List.map_id]
    exact String.empty_append
  rw [render_eq hstart, halone, nested_ended (hfunction.lines hindent)]
  rfl

/-- A function with a default value and two blank lines in its body, one of them a space. -/
def counting : BuilderFunction :=
  ⟨["Counts."], "A", "count", [⟨"from", "Int", none⟩, ⟨"to", "Int", some "9"⟩], "Int",
    ["f(", "", " ", ")"]⟩

/-- Inside two tabulators the lines that are not blank have these in front of them, those of the body behind
one of their own. -/
theorem render_nested_counting :
    counting.render ⟨"class A\n", 2, "\t", true⟩ = ⟨"class A\n" ++
      "\t\t/**\n\t\t * Counts.\n\t\t */\n\t\tpublic fun A.count(\n" ++
      "\t\t\tfrom: Int,\n\t\t\tto: Int = 9\n\t\t): Int =\n" ++
      "\t\t\tf(\n\n \n\t\t\t)\n", 2, "\t", true⟩ ∧
    counting.source = "/**\n * Counts.\n */\npublic fun A.count(\n" ++
      "    from: Int,\n    to: Int = 9\n): Int =\n" ++
      "    f(\n\n \n    )\n" := by
  obtain ⟨hnested, hsource⟩ := render_nested counting
  constructor
  · rw [hnested ⟨"class A\n", 2, "\t", true⟩ rfl (by decide)
      ⟨by decide, by decide, by decide, by decide, by decide, by decide⟩]
    refine congrArg (fun output => SourceWriter.mk output 2 "\t" true) ?_
    decide +kernel
  · rw [hsource]
    decide +kernel

end BuilderFunction

end ConverterBuilders
