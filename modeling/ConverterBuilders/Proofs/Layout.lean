import ConverterBuilders.Proofs.Indentation
import ConverterBuilders.Proofs.Planning
import Mathlib.Data.List.DropRight

/-!
# The layout of an artifact

The text of an artifact is one section behind the other, those of its preamble and the blocks of its plan,
whatever texts a request, a profile and a plan hold.  Sections without anything in them are left out.

Main statements:

* `writeOptIns_eq`, `output_writePackage`: the sections in front of the imports;
* `isStripped_trimLineEnds`: what is left of a block;
* `blocksOf_eq`: the blocks of a plan;
* `exists_last_joinBlocks`: behind the blocks there is one line end;
* `ofPlan_layout`: the text of an artifact.
-/

namespace ConverterBuilders

open Text SourceWriter

namespace Artifact

/-! ## The sections in front of the imports -/

theorem optInLines_eq (markers : List String) :
    optInLines markers = separated (markers.map fun marker => marker ++ "::class") := by
  have hcomma : "::class" ++ "," = "::class," := rfl
  fun_induction optInLines markers with
  | case1 => rfl
  | case2 last => rfl
  | case3 marker rest hne ih =>
    obtain ⟨next, others, rfl⟩ := List.exists_cons_of_ne_nil hne
    rw [ih, List.map_cons, List.map_cons, List.map_cons, separated_cons_cons, String.append_assoc,
      hcomma]

/-- The section of markers that a file opts into; without markers there is none. -/
def optInSection (markers : List String) : String :=
  if markers.isEmpty then ""
  else "@file:OptIn(\n" ++ itemLines "    " (markers.map fun marker => marker ++ "::class") ++ ")\n\n"

/-- The section of the package; without a package there is none. -/
def packageSection (package : String) : String :=
  if package.isEmpty then "" else "package " ++ package ++ "\n\n"

variable {w : SourceWriter}

theorem endLine_followedBy (h : w.atLineStart = true) (text : String) :
    (w.followedBy text).endLine = w.followedBy (text ++ "\n") := by
  simp [endLine, followedBy, h, String.append_assoc]

theorem writeOptIns_eq (markers : List String) :
    writeOptIns (.withSpaces 4) markers = (SourceWriter.withSpaces 4).followedBy (optInSection markers) := by
  have hitems : ∀ item ∈ markers.map fun marker => marker ++ "::class", isBlank item = false := by
    have hclass : isBlank "::class" = false := by decide
    intro item hm
    obtain ⟨marker, -, rfl⟩ := List.mem_map.1 hm
    rw [isBlank_append, hclass, Bool.and_false]
  have hspaces : (withSpaces 4).indentation ++ (withSpaces 4).indentText = "    " := by decide
  have hplaced : placed (withSpaces 4).indentation = id := funext placed_empty
  have hopen : "@file:OptIn(" ++ "\n" = "@file:OptIn(\n" := rfl
  have hclose : ")" ++ "\n\n" = ")\n\n" := rfl
  unfold writeOptIns optInSection
  split
  · simp
  · simp only [optInLines_eq]
    rw [writeLine_eq rfl "@file:OptIn(", indented_writeLines rfl, indentation_followedBy,
      indentText_followedBy, hspaces, ended_separated hitems, writeLine_eq rfl ")",
      endLine_followedBy rfl]
    simp [hplaced, ← hopen, ← hclose, String.append_assoc]

theorem output_writePackage (h : w.level = 0) (package : String) :
    (writePackage w package).output = w.output ++ packageSection package := by
  unfold writePackage packageSection
  split
  · simp
  · rw [endLine, output_writeLine h]
    simp [String.append_assoc]

theorem opening_eq (request : Request) (profile : Profile) :
    opening request profile = optInSection profile.optIns ++ packageSection request.source.package := by
  rw [opening, writeOptIns_eq, output_writePackage rfl, output_followedBy]
  exact congrArg (· ++ _) String.empty_append

/-! ## The blocks of a plan -/

/-- Whether a text is another one without the line ends behind that. -/
structure IsStripped (text stripped : String) : Prop where
  ends : ∃ count, text = stripped ++ repeated "\n" count
  solid : ∀ front, stripped ≠ front ++ "\n"

theorem toList_repeated_lineEnd (count : Nat) :
    (repeated "\n" count).toList = List.replicate count '\n' := by
  induction count with
  | zero => rfl
  | succ count ih =>
    rw [repeated, String.toList_append, ih, List.replicate_succ]
    rfl

theorem toList_trimLineEnds (text : String) :
    (trimLineEnds text).toList = text.toList.rdropWhile (· = '\n') := by
  rw [trimLineEnds, String.toList_ofList]
  rfl

/-- **A block loses the line ends behind it** and nothing else. -/
theorem isStripped_trimLineEnds (text : String) : IsStripped text (trimLineEnds text) := by
  constructor
  · have hends : ∀ c ∈ text.toList.rtakeWhile (· = '\n'), c = '\n' := fun c hc => by
      simpa using List.mem_rtakeWhile_imp hc
    refine ⟨(text.toList.rtakeWhile (· = '\n')).length, ?_⟩
    rw [← String.toList_inj, String.toList_append, toList_repeated_lineEnd, toList_trimLineEnds,
      ← List.eq_replicate_of_mem hends, List.rdropWhile_append_rtakeWhile]
  · intro front h
    have hlist : text.toList.rdropWhile (· = '\n') = front.toList ++ ['\n'] := by
      rw [← toList_trimLineEnds, h, String.toList_append]
      rfl
    have hlast := List.rdropWhile_last_not (· = '\n') text.toList (by simp [hlist])
    simp [hlist] at hlast

/-- The block that stands for an entry of a plan; there is none for the choice form. -/
def blockOf? (context : BuilderContext) : Planned → Option String
  | .builder shape choice => (context.build shape choice).toOption.map BuilderFunction.source
  | .choiceModifier => none
  | .unsupported name => some ("// Unsupported converter type: " ++ name ++ "\n")

/-- **The blocks of a plan are those of its entries**, in its order. -/
theorem blocksOf_eq {context : BuilderContext} {plan : List Planned} {blocks : List String}
    (h : blocksOf context plan = .ok blocks) : blocks = plan.filterMap (blockOf? context) := by
  induction plan generalizing blocks with
  | nil =>
    cases h
    rfl
  | cons planned rest ih =>
    cases planned with
    | builder shape choice =>
      obtain ⟨function, hf, h⟩ := bind_eq_ok_iff.1 h
      obtain ⟨others, ho, h⟩ := bind_eq_ok_iff.1 h
      cases h
      rw [List.filterMap_cons_some (by rw [blockOf?, hf]; rfl), ih ho]
    | choiceModifier => exact ih h
    | unsupported name =>
      obtain ⟨others, ho, h⟩ := bind_eq_ok_iff.1 h
      cases h
      rw [List.filterMap_cons_some (by rfl), ih ho]
      rfl

/-- Every block begins with a comment. -/
theorem slash_mem_of_blockOf? {context : BuilderContext} {planned : Planned} {block : String}
    (h : blockOf? context planned = some block) : '/' ∈ block.toList := by
  cases planned with
  | builder shape choice =>
    cases hb : context.build shape choice with
    | error fault => simp [blockOf?, hb, Except.toOption] at h
    | ok function =>
      have hsource : function.source = block := by simpa [blockOf?, hb, Except.toOption] using h
      rw [← hsource]
      have hbegins := BuilderFunction.source_begins (BuilderFunction.doc_ne_nil_of_build hb)
      exact hbegins.subset (by decide)
  | choiceModifier => cases h
  | unsupported name =>
    cases h
    simp

/-! ## The end of the text -/

/-- What is left of a text that has something but line ends in it. -/
theorem IsStripped.exists_last {text stripped : String} (h : IsStripped text stripped) {c : Char}
    (hm : c ∈ text.toList) (hc : c ≠ '\n') :
    ∃ front last, stripped.toList = front ++ [last] ∧ last ≠ '\n' := by
  obtain ⟨count, htext⟩ := h.ends
  rcases List.eq_nil_or_concat stripped.toList with hnil | ⟨front, last, hlast⟩
  · rw [htext, String.toList_append, hnil, toList_repeated_lineEnd, List.nil_append,
      List.mem_replicate] at hm
    exact absurd hm.2 hc
  · rw [List.concat_eq_append] at hlast
    refine ⟨front, last, hlast, ?_⟩
    rintro rfl
    apply h.solid (String.ofList front)
    rw [← String.toList_inj, hlast, String.toList_append, String.toList_ofList]
    rfl

/-- **Behind the blocks there is one line end**, if none of them is made of line ends. -/
theorem exists_last_joinBlocks {blocks : List String} (hne : blocks ≠ [])
    (h : ∀ block ∈ blocks, '/' ∈ block.toList) :
    ∃ front last, (joinBlocks blocks).toList = front ++ [last, '\n'] ∧ last ≠ '\n' := by
  obtain ⟨others, block, rfl⟩ := (List.eq_nil_or_concat blocks).resolve_left hne
  rw [List.concat_eq_append] at h ⊢
  obtain ⟨front, last, hlast, hend⟩ :=
    (isStripped_trimLineEnds block).exists_last (h block (by simp)) (by decide)
  have hjoined : ∃ before, String.intercalate "\n\n" ((others ++ [block]).map trimLineEnds) =
      before ++ trimLineEnds block := by
    rw [List.map_append, List.map_singleton]
    by_cases ho : others = []
    · exact ⟨"", by simp [ho]⟩
    · rw [String.intercalate_append_of_ne_nil (by simpa using ho) (by simp),
        String.intercalate_singleton]
      exact ⟨_, rfl⟩
  obtain ⟨before, hbefore⟩ := hjoined
  refine ⟨before.toList ++ front, last, ?_, hend⟩
  rw [joinBlocks, hbefore]
  simp [hlast]

/-! ## The text of an artifact -/

/-- **The text of an artifact.**  A plan with a builder function and without lists in choice form gives an
artifact, and its text is one section behind the other: the markers that the file opts into, the package, the
imports under their headings, and the blocks of the entries of the plan without the line ends behind them, with
a blank line between each two; there is one line end behind it all. -/
theorem ofPlan_layout (request : Request) (profile : Profile) {plan : List Planned}
    (hbuilder : ∃ shape choice, .builder shape choice ∈ plan) (hlist : .builder .list true ∉ plan) :
    ∃ artifact, ofPlan request profile plan = .ok (some artifact) ∧
      artifact.text =
        optInSection profile.optIns ++
        packageSection request.source.package ++
        importSection "Converter type param" [request.valueTypeImport] ++
        importSection "Original converter class, for safety" [request.source.qualifiedName] ++
        importSection "Imports that all converters need" profile.runtimeImports ++
        importSection "Extra imports" request.extraImports ++
        String.intercalate "\n\n"
          ((plan.filterMap (blockOf? (contextOf request profile))).map trimLineEnds) ++ "\n" ∧
      (∀ block, IsStripped block (trimLineEnds block)) ∧
      ∃ front last, artifact.text.toList = front ++ [last, '\n'] ∧ last ≠ '\n' := by
  obtain ⟨functions, hf, hlength⟩ := exists_functionsOf hlist (contextOf request profile)
  have hne : functions ≠ [] := by
    obtain ⟨shape, choice, hm⟩ := hbuilder
    have hbuilt : (shape, choice) ∈ plan.filterMap Planned.built? :=
      List.mem_filterMap.2 ⟨_, hm, rfl⟩
    rw [← List.length_pos_iff, hlength]
    exact List.length_pos_of_mem hbuilt
  obtain ⟨artifact, blocks, ha, hb, hholds, -⟩ := ofPlan_of_functions hf hne
  have hblocks := blocksOf_eq hb
  have hslash : ∀ block ∈ blocks, '/' ∈ block.toList := by
    intro block hm
    rw [hblocks] at hm
    obtain ⟨planned, -, hplanned⟩ := List.mem_filterMap.1 hm
    exact slash_mem_of_blockOf? hplanned
  have hsome : blocks ≠ [] := by
    rintro rfl
    have hnone := functionsOf_of_no_blocks hb
    exact hne (Except.ok.inj (hf.symm.trans hnone))
  obtain ⟨front, last, hlast, hend⟩ := exists_last_joinBlocks hsome hslash
  refine ⟨artifact, ha, ?_, isStripped_trimLineEnds, (preamble request profile).toList ++ front, last,
    ?_, hend⟩
  · rw [hholds.text, preamble_eq, opening_eq, joinBlocks, hblocks]
    simp only [String.append_assoc]
  · rw [hholds.text, String.toList_append, hlast, List.append_assoc]

def moneyRequest : Request :=
  { askedFor "money" [.builder .single] with
    extraImports := ["org.shop.Unit"]
    source := ⟨"org.shop.Money", "Money", "org.shop", [], none⟩ }

/-- Two markers to opt into, no imports of the profile, and a name with line ends behind it. -/
theorem ofPlan_layout_money :
    ∃ artifact, ofPlan moneyRequest ⟨"Arguments", ["A", "B"], []⟩
        [.unsupported "MAP\n\n", .choiceModifier, .builder .single false] = .ok (some artifact) ∧
      artifact.text =
        "@file:OptIn(\n    A::class,\n    B::class\n)\n\n" ++ packageSection "org.shop" ++
        importSection "Converter type param" ["org.shop.Amount"] ++
        importSection "Original converter class, for safety" ["org.shop.Money"] ++
        importSection "Extra imports" ["org.shop.Unit"] ++
        "// Unsupported converter type: MAP" ++ "\n\n" ++
        trimLineEnds (BuilderContext.single ⟨"Money", "money", "Amount", "Arguments"⟩ false).source ++
        "\n" := by
  have hbuilder : ∃ shape choice, Planned.builder shape choice ∈
      [.unsupported "MAP\n\n", .choiceModifier, .builder .single false] :=
    ⟨.single, false, by decide⟩
  obtain ⟨artifact, hartifact, htext, -⟩ :=
    ofPlan_layout moneyRequest ⟨"Arguments", ["A", "B"], []⟩ hbuilder (by decide)
  have hoptIns : optInSection ["A", "B"] = "@file:OptIn(\n    A::class,\n    B::class\n)\n\n" := by
    simp [optInSection, itemLines]
  have hnone : importSection "Imports that all converters need" [] = "" := rfl
  have hmarked : trimLineEnds (marker "MAP\n\n") = "// Unsupported converter type: MAP" := by
    decide +kernel
  have hblocks : [.unsupported "MAP\n\n", .choiceModifier, .builder .single false].filterMap
      (blockOf? (contextOf moneyRequest ⟨"Arguments", ["A", "B"], []⟩)) = [marker "MAP\n\n",
        (BuilderContext.single ⟨"Money", "money", "Amount", "Arguments"⟩ false).source] := rfl
  refine ⟨artifact, hartifact, ?_⟩
  rw [htext, hblocks, List.map_cons, hmarked, List.map_singleton, String.intercalate_cons_cons,
    String.intercalate_singleton, hoptIns, hnone, String.append_empty]
  simp only [← String.append_assoc]
  rfl

end Artifact

end ConverterBuilders
