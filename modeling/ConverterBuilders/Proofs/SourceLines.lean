import ConverterBuilders.Proofs.Extraction
import ConverterBuilders.Proofs.Generation
import ConverterBuilders.Proofs.NameParts
import ConverterBuilders.Proofs.Sections
import Mathlib.Data.List.Nodup

/-!
# The lines of an artifact

The text of an artifact is made of the lines of its preamble, those of its extra imports, and those of its
blocks with a blank line between each two.  An extra import and a name that nothing is generated for are
written as they are, so each of them has a line of its own exactly if there is no line end in it.

Main statements:

* `splitText_importSection`, `splitText_joinBlocks`: the lines of sections and blocks;
* `blocksOf_forall₂`: one block for each entry of a plan, but for the choice form;
* `Plan.eq_of_ofRequest`: one entry of a plan for each variant;
* `artifact_lines`: the lines of the artifact of a converter.
-/

namespace ConverterBuilders

open Text

/-! ## Lines of texts -/

namespace Text

theorem splitText_append_line (front back : String) :
    splitText '\n' (front ++ "\n" ++ back) = splitText '\n' front ++ splitText '\n' back := by
  have hlist : (front ++ "\n" ++ back).toList = front.toList ++ '\n' :: back.toList := by simp
  rw [splitText, hlist, split_append, List.map_append]
  rfl

theorem splitText_append_lineEnd (text : String) :
    splitText '\n' (text ++ "\n") = splitText '\n' text ++ [""] := by
  rw [← String.append_empty (s := text ++ "\n"), splitText_append_line]
  rfl

theorem splitText_of_not_mem {text : String} (h : '\n' ∉ text.toList) : splitText '\n' text = [text] := by
  rw [splitText, split_of_not_mem h, List.map_singleton, String.ofList_toList]

theorem not_mem_of_mem_splitText {text line : String} (h : line ∈ splitText '\n' text) :
    '\n' ∉ line.toList := by
  obtain ⟨piece, hp, rfl⟩ := List.mem_map.1 h
  rw [String.toList_ofList]
  exact not_mem_of_mem_split hp

/-- **A text is one line exactly if there is no line end in it.** -/
theorem splitText_eq_singleton_iff {text : String} :
    splitText '\n' text = [text] ↔ '\n' ∉ text.toList :=
  ⟨fun h => not_mem_of_mem_splitText (h ▸ List.mem_singleton_self text), splitText_of_not_mem⟩

end Text

namespace Artifact

open SourceWriter

/-- The lines of imports under a heading, with a blank line behind them; without imports there are none. -/
def importLines (heading : String) (imports : List String) : List String :=
  if imports.isEmpty then []
  else ("// " ++ heading) :: imports.flatMap (fun path => splitText '\n' ("import " ++ path)) ++ [""]

theorem splitText_ended (lines : List String) (back : String) :
    splitText '\n' (ended lines ++ back) = lines.flatMap (splitText '\n') ++ splitText '\n' back := by
  induction lines with
  | nil => simp
  | cons line lines ih =>
    rw [ended_cons, String.append_assoc, splitText_append_line, ih, List.flatMap_cons, List.append_assoc]

/-- **The lines of a section of imports.** -/
theorem splitText_importSection {heading : String} (hh : '\n' ∉ heading.toList) (imports : List String)
    (back : String) : splitText '\n' (importSection heading imports ++ back) =
      importLines heading imports ++ splitText '\n' back := by
  unfold importSection importLines
  split
  · simp
  · have hheading : splitText '\n' ("// " ++ heading) = ["// " ++ heading] :=
      splitText_of_not_mem (by simpa using hh)
    have hblank : splitText '\n' ("\n" ++ back) = [""] ++ splitText '\n' back :=
      splitText_append_line "" back
    rw [String.append_assoc, splitText_ended, hblank, List.flatMap_cons, hheading, List.flatMap_map]
    simp

/-- **The lines of blocks**, with a blank line between each two. -/
theorem splitText_joinBlocks {blocks : List String} (hne : blocks ≠ []) :
    splitText '\n' (joinBlocks blocks) =
      List.intercalate [""] (blocks.map fun block => splitText '\n' (trimLineEnds block)) ++ [""] := by
  unfold joinBlocks
  rw [splitText_append_lineEnd]
  congr 1
  induction blocks with
  | nil => exact absurd rfl hne
  | cons block blocks ih =>
    cases blocks with
    | nil => simp [List.intercalate_singleton]
    | cons next others =>
      have hrest := ih (List.cons_ne_nil _ _)
      have htext : trimLineEnds block ++ "\n\n" = trimLineEnds block ++ "\n" ++ "" ++ "\n" := by
        rw [String.append_empty, String.append_assoc]
        rfl
      simp only [List.map_cons] at hrest ⊢
      rw [String.intercalate_cons_cons, htext, splitText_append_line, hrest, splitText_append_line,
        List.intercalate_cons_cons]
      rfl

/-! ## Blocks of plans -/

inductive IsBlock (context : BuilderContext) : Planned → String → Prop
  | builder {shape : Shape} {choice : Bool} {function : BuilderFunction}
    (h : context.build shape choice = .ok function) :
    IsBlock context (.builder shape choice) function.source
  | unsupported (name : String) : IsBlock context (.unsupported name) (marker name)

/-- **There is one block for each entry of a plan**, in its order, but none for the choice form. -/
theorem blocksOf_forall₂ {context : BuilderContext} {plan : List Planned} {blocks : List String}
    (h : blocksOf context plan = .ok blocks) :
    List.Forall₂ (IsBlock context) (plan.filter fun planned => planned ≠ .choiceModifier) blocks := by
  induction plan generalizing blocks with
  | nil =>
    cases h
    exact .nil
  | cons planned rest ih =>
    cases planned with
    | builder shape choice =>
      obtain ⟨function, hf, h⟩ := bind_eq_ok_iff.1 h
      obtain ⟨others, ho, h⟩ := bind_eq_ok_iff.1 h
      cases h
      exact .cons (.builder hf) (ih ho)
    | choiceModifier => exact ih h
    | unsupported name =>
      obtain ⟨others, ho, h⟩ := bind_eq_ok_iff.1 h
      cases h
      exact .cons (.unsupported name) (ih ho)

/-- A plan without blocks has no builder functions. -/
theorem functionsOf_of_no_blocks {context : BuilderContext} {plan : List Planned}
    (h : blocksOf context plan = .ok []) : functionsOf context plan = .ok [] := by
  have hnone := blocksOf_forall₂ h
  rw [List.forall₂_nil_right_iff, List.filter_eq_nil_iff] at hnone
  induction plan with
  | nil => rfl
  | cons planned rest ih =>
    have hp : planned = .choiceModifier := by simpa using hnone planned (List.mem_cons_self ..)
    subst hp
    exact ih h fun other hm => hnone other (List.mem_cons_of_mem _ hm)

end Artifact

namespace Plan

/-- **A plan has one entry for each variant.** -/
theorem eq_of_ofRequest {request : Request} {plan : List Planned} (h : ofRequest request = .ok plan) :
    plan = request.variants.values.map (entryOf request.hasChoice) := by
  refine eq_map_of_mapM_ok h fun variant planned hv => ?_
  cases variant with
  | builder shape =>
    rw [entry] at hv
    split at hv
    · cases hv
    · exact (Except.ok.inj hv).symm
  | choice => exact (Except.ok.inj hv).symm
  | unsupported name => exact (Except.ok.inj hv).symm

theorem entryOf_injective (choice : Bool) : Function.Injective (entryOf choice) := by
  intro a b h
  cases a <;> cases b <;> simp_all [entryOf]

end Plan

/-! ## The lines of an artifact -/

namespace Artifact

/-- Which lines stand for an entry of a plan. -/
inductive HasLines (context : BuilderContext) : Planned → List String → Prop
  | builder {shape : Shape} {choice : Bool} {function : BuilderFunction}
    (h : context.build shape choice = .ok function) :
    HasLines context (.builder shape choice) (splitText '\n' (trimLineEnds function.source))
  | unsupported (name : String) :
    HasLines context (.unsupported name) (splitText '\n' ("// Unsupported converter type: " ++ name))

/-- A marker keeps a name that does not end in white space. -/
theorem trimLineEnds_marker {name : String} {front : List Char} {c : Char}
    (hname : name.toList = front ++ [c]) (hc : isBlankChar c = false) :
    trimLineEnds (marker name) = "// Unsupported converter type: " ++ name := by
  have hend : c ≠ '\n' := by
    rintro rfl
    exact absurd hc (by decide)
  have hlist : (marker name).toList =
      ("// Unsupported converter type: ".toList ++ front) ++ [c] ++ ['\n'] := by
    rw [marker_eq, markerLead, String.toList_append, String.toList_append, hname]
    simp only [List.append_assoc]
    rfl
  rw [trimLineEnds, hlist, ← String.toList_inj, String.toList_ofList, String.toList_append, hname]
  generalize "// Unsupported converter type: ".toList = lead
  simp [hend]

theorem HasLines.of_isBlock {context : BuilderContext} {planned : Planned} {block : String}
    (h : IsBlock context planned block)
    (hs : ∀ name, planned = .unsupported name →
      ∃ front c, name.toList = front ++ [c] ∧ isBlankChar c = false) :
    HasLines context planned (splitText '\n' (trimLineEnds block)) := by
  cases h with
  | builder h => exact .builder h
  | unsupported name =>
    obtain ⟨front, c, hname, hc⟩ := hs name rfl
    rw [trimLineEnds_marker hname hc]
    exact .unsupported name

/-- **The lines of an artifact**: those of its preamble, of its extra imports and of its blocks. -/
theorem lines_of_ofPlan {request : Request} {profile : Profile} {plan : List Planned}
    {artifact : Artifact} (h : ofPlan request profile plan = .ok (some artifact))
    (hs : ∀ name, .unsupported name ∈ plan →
      ∃ front c, name.toList = front ++ [c] ∧ isBlankChar c = false) :
    ∃ front sections,
      splitText '\n' (preamble { request with extraImports := [] } profile) = front ++ [""] ∧
      splitText '\n' artifact.text = front ++ importLines "Extra imports" request.extraImports ++
        List.intercalate [""] sections ++ [""] ∧
      List.Forall₂ (HasLines (contextOf request profile))
        (plan.filter fun planned => planned ≠ .choiceModifier) sections := by
  obtain ⟨⟨names, blocks⟩, hemit, h⟩ := bind_eq_ok_iff.1 h
  obtain ⟨functions, hf, rfl, hb⟩ := emit_eq_ok_iff.1 hemit
  have hne : functions ≠ [] := by
    rintro rfl
    rw [List.map_nil, List.isEmpty_nil, if_pos rfl] at h
    cases h
  have hblocks : blocks ≠ [] := by
    rintro rfl
    exact hne (Except.ok.inj (hf.symm.trans (functionsOf_of_no_blocks hb)))
  have htext : artifact.text = preamble request profile ++ joinBlocks blocks := by
    rw [if_neg (by simpa using hne)] at h
    rw [← Option.some.inj (Except.ok.inj h)]
  obtain ⟨front, hfront, hpreamble⟩ := exists_preamble request profile
  refine ⟨splitText '\n' front, blocks.map fun block => splitText '\n' (trimLineEnds block), ?_, ?_, ?_⟩
  · rw [hfront, splitText_append_lineEnd]
  · rw [htext, hpreamble, String.append_assoc, splitText_append_line, splitText_importSection (by decide),
      splitText_joinBlocks hblocks, List.append_assoc, List.append_assoc]
  · rw [List.forall₂_map_right_iff]
    have hsolid : ∀ planned ∈ plan.filter fun planned => planned ≠ .choiceModifier,
        ∀ name, planned = .unsupported name →
          ∃ front c, name.toList = front ++ [c] ∧ isBlankChar c = false :=
      fun planned hm name hname => hs name (hname ▸ (List.mem_filter.1 hm).1)
    exact ((List.forall₂_and_left ..).2 ⟨hsolid, blocksOf_forall₂ hb⟩).imp
      fun _ _ hboth => .of_isBlock hboth.2 hboth.1

/-- Imports have one line each exactly if there is no line end in them. -/
theorem importLines_eq_iff {heading : String} {imports : List String} (hne : imports ≠ []) :
    importLines heading imports =
        ("// " ++ heading) :: imports.map (fun path => "import " ++ path) ++ [""] ↔
      ∀ path ∈ imports, '\n' ∉ path.toList := by
  have himport : ∀ path : String, '\n' ∉ ("import " ++ path).toList ↔ '\n' ∉ path.toList := fun path => by
    rw [String.toList_append, List.mem_append, not_or]
    exact and_iff_right (by decide)
  rw [importLines, if_neg (by simpa using hne)]
  simp only [List.cons_append, List.cons.injEq, true_and, List.append_cancel_right_eq]
  constructor
  · intro h path hm
    have hline : "import " ++ path ∈ imports.flatMap fun path => splitText '\n' ("import " ++ path) :=
      h ▸ List.mem_map.2 ⟨path, hm, rfl⟩
    obtain ⟨other, -, ho⟩ := List.mem_flatMap.1 hline
    exact (himport path).1 (not_mem_of_mem_splitText ho)
  · intro h
    rw [← List.flatMap_pure_eq_map]
    exact List.flatMap_congr fun path hm => splitText_of_not_mem ((himport path).2 (h path hm))

/-- A marker is one line exactly if there is no line end in the name. -/
theorem HasLines.eq_marker_iff {context : BuilderContext} {name : String} {lines : List String}
    (h : HasLines context (.unsupported name) lines) :
    lines = ["// Unsupported converter type: " ++ name] ↔ '\n' ∉ name.toList := by
  cases h
  rw [splitText_eq_singleton_iff, String.toList_append, List.mem_append, not_or]
  exact and_iff_right (by decide)

end Artifact

/-- **The lines of the artifact of a converter.**  Behind the lines of the preamble, which hang neither on the
variants nor on the extra imports, stand those of the extra imports under their heading and then those of the
entries of the plan.  Each unsupported name has one entry, which is one line exactly if there is no line end
in the name; and the extra imports have one line each exactly if there is no line end in them. -/
theorem artifact_lines {resolver : Resolver} {annotationName : String} {converter : Converter}
    {request : Request} {profile : Profile} {plan : List Planned} {artifact : Artifact}
    (hr : Request.ofConverter resolver annotationName converter = .ok request)
    (hp : Plan.ofRequest request = .ok plan)
    (ha : Artifact.ofPlan request profile plan = .ok (some artifact)) :
    (∃ front sections,
      splitText '\n' (Artifact.preamble { request with extraImports := [] } profile) = front ++ [""] ∧
      splitText '\n' artifact.text = front ++
        Artifact.importLines "Extra imports" request.extraImports ++
        List.intercalate [""] sections ++ [""] ∧
      List.Forall₂ (Artifact.HasLines (Artifact.contextOf request profile))
        (plan.filter fun planned => planned ≠ .choiceModifier) sections) ∧
    (∀ name, .unsupported name ∈ request.variants.values → plan.count (.unsupported name) = 1 ∧
      ∀ lines, Artifact.HasLines (Artifact.contextOf request profile) (.unsupported name) lines →
        (lines = ["// Unsupported converter type: " ++ name] ↔ '\n' ∉ name.toList)) ∧
    (request.extraImports ≠ [] →
      (Artifact.importLines "Extra imports" request.extraImports =
          "// Extra imports" :: request.extraImports.map (fun path => "import " ++ path) ++ [""] ↔
        ∀ path ∈ request.extraImports, '\n' ∉ path.toList)) := by
  obtain ⟨_, _, hreflects⟩ := (((Request.settles_ofConverter _ _ _).ok_iff request).1 hr).reflects
  obtain ⟨values, -, hasked, -⟩ := hreflects.types
  have hplan := Plan.eq_of_ofRequest hp
  have hmem : ∀ name, .unsupported name ∈ plan ↔ .unsupported name ∈ request.variants.values := fun name => by
    rw [hplan]
    exact List.mem_map_of_injective (Plan.entryOf_injective _) (a := .unsupported name)
  refine ⟨Artifact.lines_of_ofPlan ha fun name hn => (hasked.solid ((hmem name).1 hn)).2.2,
    fun name hn => ⟨?_, fun lines hl => hl.eq_marker_iff⟩, Artifact.importLines_eq_iff⟩
  have hvariants : request.variants.values.Nodup := hasked.ascending.imp fun {a b} hlt heq => by
    rw [heq] at hlt
    exact absurd hlt (String.lt_irrefl _)
  have hnodup : plan.Nodup := hplan ▸ List.Nodup.map (Plan.entryOf_injective _) hvariants
  exact List.count_eq_one_of_mem hnodup ((hmem name).2 hn)

/-- A request for single values and for something that is not supported. -/
def amountBeside (name : String) : Request :=
  ⟨"amount", .resolved "org.shop.Amount", VariantSet.ofVariants [.unsupported name, .builder .single],
    ["org.shop.Unit"], false, default⟩

def asksBeside (name : String) : Resolver :=
  Request.answering (some (Request.amountIn ["SINGLE", name])) (some (.resolved "org.shop.Amount"))

theorem exists_artifact_beside (name : String) :
    ∃ artifact, Artifact.ofPlan (amountBeside name) Configuration.default.profile
      [.unsupported name, .builder .single false] = .ok (some artifact) := by
  have hfunctions : Artifact.synthesize (amountBeside name) Configuration.default.profile
      [.unsupported name, .builder .single false] = .ok (_ :: []) := rfl
  obtain ⟨artifact, _, h, -, -, -⟩ := Artifact.ofPlan_of_functions hfunctions (List.cons_ne_nil _ _)
  exact ⟨artifact, h⟩

/-- Beside single values, the marker of a map and the import have one line each. -/
theorem artifact_lines_map :
    ∃ artifact, Request.ofConverter (asksBeside "MAP") "Builders" default = .ok (amountBeside "MAP") ∧
      Artifact.ofPlan (amountBeside "MAP") Configuration.default.profile
        [.unsupported "MAP", .builder .single false] = .ok (some artifact) ∧
      ∃ front function, splitText '\n' artifact.text =
        front ++ ["// Extra imports", "import org.shop.Unit", ""] ++
          ["// Unsupported converter type: MAP", ""] ++ function ++ [""] := by
  have hrequest : Request.ofConverter (asksBeside "MAP") "Builders" default = .ok (amountBeside "MAP") := by
    with_unfolding_all rfl
  have hplan : Plan.ofRequest (amountBeside "MAP") = .ok [.unsupported "MAP", .builder .single false] := by
    with_unfolding_all rfl
  obtain ⟨artifact, hartifact⟩ := exists_artifact_beside "MAP"
  obtain ⟨⟨front, sections, -, hlines, hsections⟩, hmarker, himports⟩ :=
    artifact_lines hrequest hplan hartifact
  have himport := (himports (List.cons_ne_nil _ _)).2 (by decide)
  obtain ⟨marked, others, hmarked, hothers, rfl⟩ := List.forall₂_cons_left_iff.1 hsections
  obtain ⟨function, _, -, hnil, rfl⟩ := List.forall₂_cons_left_iff.1 hothers
  cases hnil
  have hmap : Variant.unsupported "MAP" ∈ (amountBeside "MAP").variants.values := by decide +kernel
  rw [himport, ((hmarker "MAP" hmap).2 marked hmarked).2 (by decide)] at hlines
  refine ⟨artifact, hrequest, hartifact, front, function, ?_⟩
  rw [hlines]
  simp [List.intercalate_cons_cons, List.intercalate_singleton, amountBeside]

/-- A line end in a name puts the rest of the name on a line of its own. -/
theorem artifact_lines_broken :
    ∃ artifact, Request.ofConverter (asksBeside "MAP\nval amount = 1") "Builders" default =
        .ok (amountBeside "MAP\nval amount = 1") ∧
      Plan.ofRequest (amountBeside "MAP\nval amount = 1") =
        .ok [.unsupported "MAP\nval amount = 1", .builder .single false] ∧
      Artifact.ofPlan (amountBeside "MAP\nval amount = 1") Configuration.default.profile
        [.unsupported "MAP\nval amount = 1", .builder .single false] = .ok (some artifact) ∧
      .unsupported "MAP\nval amount = 1" ∈ (amountBeside "MAP\nval amount = 1").variants.values ∧
      "// Unsupported converter type: MAP\nval amount = 1" ∉ splitText '\n' artifact.text ∧
      "val amount = 1" ∈ splitText '\n' artifact.text := by
  have hrequest : Request.ofConverter (asksBeside "MAP\nval amount = 1") "Builders" default =
      .ok (amountBeside "MAP\nval amount = 1") := by
    with_unfolding_all rfl
  have hplan : Plan.ofRequest (amountBeside "MAP\nval amount = 1") =
      .ok [.unsupported "MAP\nval amount = 1", .builder .single false] := by
    with_unfolding_all rfl
  obtain ⟨artifact, hartifact⟩ := exists_artifact_beside "MAP\nval amount = 1"
  have hend : ∀ name, .unsupported name ∈ [Planned.unsupported "MAP\nval amount = 1", .builder .single false] →
      ∃ front c, name.toList = front ++ [c] ∧ isBlankChar c = false := by
    intro name hm
    obtain rfl : name = "MAP\nval amount = 1" := by simpa using hm
    exact ⟨"MAP\nval amount = ".toList, '1', by decide, by decide⟩
  obtain ⟨front, sections, -, hlines, hsections⟩ := Artifact.lines_of_ofPlan hartifact hend
  obtain ⟨marked, others, hmarked, hothers, rfl⟩ := List.forall₂_cons_left_iff.1 hsections
  refine ⟨artifact, hrequest, hplan, hartifact, by decide +kernel, fun hline => ?_, ?_⟩
  · exact not_mem_of_mem_splitText hline (by decide)
  · cases hmarked
    obtain ⟨function, _, -, _, rfl⟩ := List.forall₂_cons_left_iff.1 hothers
    have hline : "val amount = 1" ∈
        splitText '\n' ("// Unsupported converter type: " ++ "MAP\nval amount = 1") := by decide +kernel
    rw [hlines, List.intercalate_cons_cons]
    simp only [List.mem_append, hline, true_or, or_true]

end ConverterBuilders
