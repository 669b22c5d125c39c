import ConverterBuilders.BuilderFunction.Shapes

/-!
# Writing only adds text

Whatever is written, the text so far stays in front of it.  So the source of a builder function begins
with its documentation comment.

Main statement:

* `source_begins`: the source of a documented function begins with the opening of a comment.
-/

namespace ConverterBuilders

namespace SourceWriter

/-- Whether `v` has the text of `w` and perhaps more behind it. -/
def Extends (w v : SourceWriter) : Prop := w.output.toList <+: v.output.toList

namespace Extends

theorem refl (w : SourceWriter) : w.Extends w := List.prefix_rfl

theorem trans {u v w : SourceWriter} (huv : u.Extends v) (hvw : v.Extends w) : u.Extends w :=
  List.IsPrefix.trans huv hvw

theorem write (w : SourceWriter) (text : String) : w.Extends (w.write text) := by
  unfold Extends SourceWriter.write
  split <;> simp [String.toList_append, List.append_assoc]

theorem endLine (w : SourceWriter) : w.Extends w.endLine := by
  simp [Extends, SourceWriter.endLine, String.toList_append]

theorem writeLine (w : SourceWriter) (text : String) : w.Extends (w.writeLine text) :=
  (write w text).trans (endLine _)

theorem writeLines (w : SourceWriter) (lines : List String) : w.Extends (w.writeLines lines) := by
  induction lines generalizing w with
  | nil => exact refl w
  | cons line lines ih => exact (writeLine w line).trans (ih _)

/-- Indentation is no text by itself. -/
theorem indented {w : SourceWriter} (body : SourceWriter → SourceWriter)
    (h : w.indent.Extends (body w.indent)) : w.Extends (w.indented body) := h

theorem renderParameter (w : SourceWriter) (parameter : Parameter) (separator : String) :
    w.Extends (parameter.render w separator) := by
  unfold Parameter.render
  refine (write w parameter.declared).trans ?_
  cases parameter.default? with
  | none => exact writeLine _ _
  | some value => exact (write _ _).trans (writeLine _ _)

theorem renderParameters (w : SourceWriter) (parameters : List Parameter) :
    w.Extends (Parameter.renderAll w parameters) := by
  fun_induction Parameter.renderAll w parameters with
  | case1 w => exact refl w
  | case2 w last => exact renderParameter w last ""
  | case3 w parameter rest _ ih => exact (renderParameter w parameter ",").trans ih

/-- What follows the documentation comment of a function only adds text. -/
theorem renderBody (w : SourceWriter) (function : BuilderFunction) :
    (w.comment function.doc).Extends (function.render w) := by
  unfold BuilderFunction.render
  refine (writeLine _ function.header).trans ?_
  refine (indented (fun w => Parameter.renderAll w function.parameters)
    (renderParameters _ _)).trans ?_
  refine (writeLine _ function.footer).trans ?_
  exact indented (fun w => w.writeLines function.body) (writeLines _ _)

/-- The opening of a comment stays in front of the lines in it. -/
theorem comment (w : SourceWriter) {lines : List String} (h : lines ≠ []) :
    (w.writeLine "/**").Extends (w.comment lines) := by
  unfold SourceWriter.comment
  rw [if_neg (by simpa using h)]
  exact (writeLines _ _).trans (writeLine _ _)

end Extends

end SourceWriter

namespace BuilderFunction

/-- **The source of a documented function begins with a comment.** -/
theorem source_begins {function : BuilderFunction} (h : function.doc ≠ []) :
    ['/', '*', '*', '\n'] <+: function.source.toList := by
  have hopen := SourceWriter.Extends.comment (.withSpaces 4) h
  exact hopen.trans (SourceWriter.Extends.renderBody (.withSpaces 4) function)

/-- All builder functions are documented. -/
theorem doc_ne_nil_of_build {context : BuilderContext} {shape : Shape} {choice : Bool}
    {function : BuilderFunction} (h : context.build shape choice = .ok function) :
    function.doc ≠ [] := by
  cases shape with
  | single => cases h; simp [BuilderContext.single]
  | optional => cases h; simp [BuilderContext.optional]
  | defaulting => cases h; simp [BuilderContext.defaulting]
  | list =>
    cases choice with
    | true => simp [BuilderContext.build] at h
    | false => cases h; simp [BuilderContext.list]

end BuilderFunction

end ConverterBuilders
