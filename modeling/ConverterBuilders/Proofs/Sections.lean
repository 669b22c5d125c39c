import ConverterBuilders.Artifact.Basic
import Mathlib.Data.List.Basic

/-!
# The sections of a preamble

Without an indentation a source writer puts texts down as they are.  So the preamble of an artifact is one
section after the other, and each of them ends in a blank line.

Main statements:

* `output_writeLine`, `output_writeLines`: what is written without an indentation;
* `output_writeImports`: imports make a section;
* `preamble_eq`: a preamble is one section after the other;
* `exists_preamble`: the extra imports stand behind the others, on lines of their own.
-/

namespace ConverterBuilders

namespace SourceWriter

def ended (lines : List String) : String := String.join (lines.map fun line => line ++ "\n")

@[simp] theorem ended_nil : ended [] = "" := rfl

@[simp] theorem ended_cons (line : String) (lines : List String) :
    ended (line :: lines) = line ++ "\n" ++ ended lines := by
  simp [ended, String.join_cons]

variable {w : SourceWriter}

theorem output_write (h : w.level = 0) (text : String) : (w.write text).output = w.output ++ text := by
  rw [write]
  split
  · simp [h, repeated]
  · rfl

theorem output_writeLine (h : w.level = 0) (text : String) :
    (w.writeLine text).output = w.output ++ text ++ "\n" := by
  rw [writeLine, endLine, output_write h]

theorem output_writeLines (h : w.level = 0) (lines : List String) :
    (w.writeLines lines).output = w.output ++ ended lines := by
  induction lines generalizing w with
  | nil => simp [writeLines]
  | cons line lines ih =>
    rw [writeLines, List.foldl_cons, ← writeLines, ih (by rw [level_writeLine, h]), output_writeLine h,
      ended_cons, String.append_assoc, String.append_assoc, String.append_assoc]

end SourceWriter

namespace Artifact

open SourceWriter

/-- The section of some imports; without imports there is none. -/
def importSection (heading : String) (imports : List String) : String :=
  if imports.isEmpty then ""
  else ended (("// " ++ heading) :: imports.map fun path => "import " ++ path) ++ "\n"

variable {w : SourceWriter}

theorem output_writeImports (h : w.level = 0) (heading : String) (imports : List String) :
    (writeImports w heading imports).output = w.output ++ importSection heading imports := by
  unfold writeImports importSection
  split
  · simp
  · rw [endLine, output_writeLines (by rw [level_writeLine, h]), output_writeLine h, ended_cons]
    simp only [String.append_assoc]

@[simp] theorem level_writeImports (heading : String) (imports : List String) :
    (writeImports w heading imports).level = w.level := by
  unfold writeImports
  split
  · rfl
  · rw [endLine, level_writeLines, level_writeLine]

@[simp] theorem level_writePackage (package : String) : (writePackage w package).level = w.level := by
  unfold writePackage
  split
  · rfl
  · rw [endLine, level_writeLine]

@[simp] theorem level_writeOptIns (markers : List String) : (writeOptIns w markers).level = w.level := by
  unfold writeOptIns
  split
  · rfl
  · simp only [endLine, level_writeLine, indented, level_dedent, level_writeLines, level_indent]
    omega

def opening (request : Request) (profile : Profile) : String :=
  (writePackage (writeOptIns (.withSpaces 4) profile.optIns) request.source.package).output

/-- **A preamble is one section after the other.** -/
theorem preamble_eq (request : Request) (profile : Profile) :
    preamble request profile = opening request profile ++
      importSection "Converter type param" [request.valueTypeImport] ++
      importSection "Original converter class, for safety" [request.source.qualifiedName] ++
      importSection "Imports that all converters need" profile.runtimeImports ++
      importSection "Extra imports" request.extraImports := by
  have hlevel : (writePackage (writeOptIns (.withSpaces 4) profile.optIns)
      request.source.package).level = 0 := by
    rw [level_writePackage, level_writeOptIns]
    rfl
  unfold preamble writePreamble
  rw [output_writeImports (by simpa using hlevel), output_writeImports (by simpa using hlevel),
    output_writeImports (by simpa using hlevel), output_writeImports hlevel]
  rfl

/-- Behind a line end, a section of imports ends in one too. -/
theorem exists_append_importSection {text : String} (h : ∃ front, text = front ++ "\n")
    (heading : String) (imports : List String) :
    ∃ front, text ++ importSection heading imports = front ++ "\n" := by
  unfold importSection
  split
  · rwa [String.append_empty]
  · exact ⟨_, (String.append_assoc ..).symm⟩

/-- **The extra imports stand behind all other sections**, which end in a line end. -/
theorem exists_preamble (request : Request) (profile : Profile) :
    ∃ front, preamble { request with extraImports := [] } profile = front ++ "\n" ∧
      preamble request profile = front ++ "\n" ++ importSection "Extra imports" request.extraImports := by
  have hlast : preamble { request with extraImports := [] } profile =
      opening request profile ++ importSection "Converter type param" [request.valueTypeImport] ++
        importSection "Original converter class, for safety" [request.source.qualifiedName] ++
        importSection "Imports that all converters need" profile.runtimeImports :=
    (preamble_eq _ profile).trans (String.append_empty ..)
  have hends : ∃ front, opening request profile ++
      importSection "Converter type param" [request.valueTypeImport] ++
        importSection "Original converter class, for safety" [request.source.qualifiedName] =
      front ++ "\n" := ⟨_, (String.append_assoc ..).symm⟩
  obtain ⟨front, hfront⟩ := exists_append_importSection hends "Imports that all converters need"
    profile.runtimeImports
  exact ⟨front, hlast.trans hfront, by rw [preamble_eq, hfront]⟩

end Artifact

end ConverterBuilders
