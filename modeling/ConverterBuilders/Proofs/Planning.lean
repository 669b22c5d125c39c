import ConverterBuilders.Proofs.SourceLines

/-!
# What is planned and generated for a request

The variants of a request ascend by their names, and the plan has an entry for each of them in this order.  Of
the plan only the shapes count for the builder functions, and whether the choice form is asked for; lists in
choice form are refused as a whole, when the plan is made.  The names of the builder functions are told apart
by their lengths.

Main statements:

* `Shape.builderName_injective`: builder functions of different shapes have different names;
* `Plan.ofRequest_eq_error_iff`: which requests have no plan;
* `Artifact.functionsOf_eq_ok_iff`: the builder functions of a plan;
* `VariantSet.filterMap_shape?`: the order of the shapes that are asked for;
* `ofConverter_planned`: what is planned and generated for the request of a converter;
* `functions_distinct`: no two builder functions of an artifact share a name.
-/

namespace ConverterBuilders

open Text

/-! ## Names of builder functions -/

namespace Text

theorem length_titleFirst (s : String) : (titleFirst s).length = s.length := by
  rw [titleFirst, String.length_ofList, ← String.length_toList]
  cases s.toList with
  | nil => rfl
  | cons c rest =>
    obtain ⟨title, h⟩ := titleFirstChars_tail c rest
    rw [h, List.length_cons, List.length_cons]

/-- The lower-case form of a first character may be two characters. -/
theorem length_lowerFirst (s : String) :
    s.length ≤ (lowerFirst s).length ∧ (lowerFirst s).length ≤ s.length + 1 := by
  rw [lowerFirst, String.length_ofList, ← String.length_toList]
  cases s.toList with
  | nil => simp [lowerFirstChars]
  | cons c rest =>
    rw [lowerFirstChars_tail, List.length_append, lowerCase]
    split <;> simp <;> omega

end Text

namespace Shape

def plainName (displayName : String) : Shape → String
  | .single => lowerFirst displayName
  | .list => lowerFirst displayName ++ "List"
  | .optional => "optional" ++ titleFirst displayName
  | .defaulting => "defaulting" ++ titleFirst displayName

/-- The name of a builder function in its plain form or in its choice form. -/
def builderName (displayName : String) (choice : Bool) (shape : Shape) : String :=
  BuilderContext.formName (shape.plainName displayName) choice

/-- By how many characters a name is longer than the display name, but for one that lower case may add. -/
def added : Shape → Nat
  | .single => 0
  | .list => 4
  | .optional => 8
  | .defaulting => 10

theorem length_plainName (displayName : String) (shape : Shape) :
    displayName.length + shape.added ≤ (shape.plainName displayName).length ∧
      (shape.plainName displayName).length ≤ displayName.length + shape.added + 1 := by
  have hlower := length_lowerFirst displayName
  have htitle := length_titleFirst displayName
  have hlist : "List".length = 4 := rfl
  have hoptional : "optional".length = 8 := rfl
  have hdefaulting : "defaulting".length = 10 := rfl
  cases shape <;> simp only [plainName, added, String.length_append] <;> omega

theorem eq_of_added {shape other : Shape} (h : shape.added ≤ other.added + 1)
    (ho : other.added ≤ shape.added + 1) : shape = other := by
  cases shape <;> cases other <;> simp [added] at h ho ⊢

/-- **Builder functions of different shapes have different names**, for every display name.  What stands
around the display name differs by more than the character that lower case may add. -/
theorem builderName_injective (displayName : String) (choice : Bool) :
    Function.Injective (builderName displayName choice) := by
  intro shape other h
  have hplain : (shape.plainName displayName).length = (other.plainName displayName).length := by
    have hlength := congrArg String.length h
    cases choice <;> simpa [builderName, BuilderContext.formName] using hlength
  have hshape := length_plainName displayName shape
  have hother := length_plainName displayName other
  apply eq_of_added <;> omega

end Shape

/-- Whether a builder function is the one of a shape, in choice form or not.  The choice form takes the values
to choose from. -/
structure IsBuilder (context : BuilderContext) (choice : Bool) (shape : Shape)
    (function : BuilderFunction) : Prop where
  built : context.build shape choice = .ok function
  name : function.name = shape.builderName context.displayName choice
  choices : (function.parameter? "choices").isSome = choice

theorem isBuilder_of_build {context : BuilderContext} {choice : Bool} {shape : Shape}
    {function : BuilderFunction} (h : context.build shape choice = .ok function) :
    IsBuilder context choice shape function := by
  cases shape <;> cases choice <;> cases h <;> exact ⟨rfl, rfl, rfl⟩

theorem names_of_isBuilder {context : BuilderContext} {choice : Bool} {shapes : List Shape}
    {functions : List BuilderFunction} (h : List.Forall₂ (IsBuilder context choice) shapes functions) :
    functions.map BuilderFunction.name = shapes.map (Shape.builderName context.displayName choice) := by
  induction h with
  | nil => rfl
  | cons hbuilder _ ih => rw [List.map_cons, List.map_cons, hbuilder.name, ih]

/-! ## The shapes that are asked for -/

def Variant.shape? : Variant → Option Shape
  | .builder shape => some shape
  | _ => none

theorem Variant.shape?_eq_some_iff {variant : Variant} {shape : Shape} :
    variant.shape? = some shape ↔ variant = .builder shape := by
  cases variant <;> simp [shape?]

namespace VariantSet

/-- The shapes in a set of variants, in the order of their names. -/
def shapes (variants : VariantSet) : List Shape :=
  [.defaulting, .list, .optional, .single].filter fun shape => .builder shape ∈ variants.values

theorem mem_shapes {variants : VariantSet} {shape : Shape} :
    shape ∈ variants.shapes ↔ .builder shape ∈ variants.values := by
  cases shape <;> simp [shapes]

theorem shapes_nodup (variants : VariantSet) : variants.shapes.Nodup :=
  List.Nodup.filter _ (by decide)

/-- **The shapes stand in the order of their names**, whatever names stand between them. -/
theorem filterMap_shape? {variants : VariantSet}
    (h : variants.values.Pairwise fun a b => bytes a.name < bytes b.name) :
    variants.values.filterMap Variant.shape? = variants.shapes := by
  refine OrderedMap.eq_of_ascending Shape.name ?_ ?_ fun shape => ?_
  · refine h.filterMap _ fun a b hab shape hs other ho => ?_
    rw [Variant.shape?_eq_some_iff.1 hs, Variant.shape?_eq_some_iff.1 ho, bytes_lt_bytes_iff] at hab
    exact compareOfLessAndEq_eq_lt.2 hab
  · have hall : [Shape.defaulting, .list, .optional, .single].Pairwise fun a b =>
        compare a.name b.name = .lt := by decide +kernel
    exact hall.filter _
  · simp [List.mem_filterMap, Variant.shape?_eq_some_iff, mem_shapes]

end VariantSet

/-! ## Plans -/

namespace Plan

theorem entry_eq_error_iff {choice : Bool} {variant : Variant} {fault : RequestError} :
    entry choice variant = .error fault ↔
      fault = listChoiceConflict ∧ variant = .builder .list ∧ choice = true := by
  cases variant with
  | builder shape =>
    rw [entry]
    split
    · rename_i hlist
      simp [hlist, eq_comm]
    · rename_i hlist
      simpa using fun _ => hlist
  | choice => simp [entry]
  | unsupported name => simp [entry]

/-- **Only lists in choice form are refused.** -/
theorem ofRequest_eq_error_iff {request : Request} {fault : RequestError} :
    ofRequest request = .error fault ↔ fault = listChoiceConflict ∧
      .builder .list ∈ request.variants.values ∧ request.hasChoice = true := by
  constructor
  · intro h
    obtain ⟨variant, hm, hv⟩ := exists_of_mapM_error h
    obtain ⟨hfault, rfl, hchoice⟩ := entry_eq_error_iff.1 hv
    exact ⟨hfault, hm, hchoice⟩
  · rintro ⟨rfl, hm, hchoice⟩
    cases h : ofRequest request with
    | error fault =>
      obtain ⟨variant, -, hv⟩ := exists_of_mapM_error h
      rw [(entry_eq_error_iff.1 hv).1]
    | ok plan =>
      obtain ⟨planned, hp⟩ := exists_of_mapM_ok h hm
      rw [entry_eq_error_iff.2 ⟨rfl, rfl, hchoice⟩] at hp
      cases hp

end Plan

/-! ## The builder functions of a plan -/

/-- The shape that an entry of a plan is for, and whether in choice form. -/
def Planned.built? : Planned → Option (Shape × Bool)
  | .builder shape choice => some (shape, choice)
  | _ => none

namespace Artifact

/-- **The builder functions of a plan are those of its shapes**, in its order. -/
theorem functionsOf_eq_ok_iff {context : BuilderContext} {plan : List Planned}
    {functions : List BuilderFunction} :
    functionsOf context plan = .ok functions ↔
      List.Forall₂ (fun built function => context.build built.1 built.2 = .ok function)
        (plan.filterMap Planned.built?) functions := by
  induction plan generalizing functions with
  | nil => simp [functionsOf, eq_comm]
  | cons planned rest ih =>
    cases planned with
    | builder shape choice =>
      rw [functionsOf, bind_eq_ok_iff, List.filterMap_cons_some (by rfl), List.forall₂_cons_left_iff]
      constructor
      · rintro ⟨function, hf, h⟩
        obtain ⟨others, ho, h⟩ := bind_eq_ok_iff.1 h
        cases h
        exact ⟨function, others, hf, ih.1 ho, rfl⟩
      · rintro ⟨function, others, hf, ho, rfl⟩
        exact ⟨function, hf, bind_eq_ok_iff.2 ⟨others, ih.2 ho, rfl⟩⟩
    | choiceModifier => exact ih
    | unsupported name => exact ih

/-- A plan without lists in choice form has builder functions, one for each of its shapes. -/
theorem exists_functionsOf {plan : List Planned} (h : .builder .list true ∉ plan)
    (context : BuilderContext) :
    ∃ functions, functionsOf context plan = .ok functions ∧
      functions.length = (plan.filterMap Planned.built?).length := by
  cases hf : functionsOf context plan with
  | error fault => exact absurd (functionsOf_eq_error_iff.1 hf).2 h
  | ok functions => exact ⟨functions, rfl, (functionsOf_eq_ok_iff.1 hf).length_eq.symm⟩

end Artifact

/-- Of the plan for some variants, the shapes in it count. -/
theorem Plan.filterMap_built? (choice : Bool) (variants : List Variant) :
    (variants.map (Plan.entryOf choice)).filterMap Planned.built? =
      (variants.filterMap Variant.shape?).map fun shape => (shape, choice) := by
  rw [List.filterMap_map, List.map_filterMap]
  refine List.filterMap_congr fun variant _ => ?_
  cases variant <;> rfl

/-! ## Requests of converters -/

/-- Some element asks for the choice form exactly if it is in the set. -/
theorem VariantSet.AskedBy.choice_mem_iff {variants : VariantSet} {values : List AnnotationValue}
    (h : variants.AskedBy values) :
    .choice ∈ variants.values ↔ ∃ value ∈ values, value.Names "CHOICE" := by
  have hchoice : Variant.ofName "CHOICE" = .choice := by decide +kernel
  rw [h.mem_iff]
  constructor
  · rintro ⟨value, hm, name, hname, hvariant⟩
    have hsame : name = "CHOICE" := by rw [← Variant.name_ofName name, ← hvariant, Variant.name]
    exact ⟨value, hm, hsame ▸ hname⟩
  · rintro ⟨value, hm, hname⟩
    exact ⟨value, hm, "CHOICE", hname, hchoice.symm⟩

/-- **The choice form counts exactly if it is among the variants.** -/
theorem Request.Reflects.hasChoice_iff {request : Request} {arguments : AnnotationArguments}
    {type? : Option TypeReference} {converter : Converter}
    (h : request.Reflects arguments type? converter) :
    request.hasChoice = true ↔ .choice ∈ request.variants.values := by
  obtain ⟨values, -, hasked, hchoice⟩ := h.types
  rw [hchoice, hasked.choice_mem_iff]

namespace Artifact

/-- **A plan that is made has builder functions**, one for each shape that is asked for. -/
theorem exists_synthesize {request : Request} {plan : List Planned} (profile : Profile)
    (hascending : request.variants.values.Pairwise fun a b => bytes a.name < bytes b.name)
    (hp : Plan.ofRequest request = .ok plan) :
    ∃ functions, synthesize request profile plan = .ok functions ∧
      List.Forall₂ (IsBuilder (contextOf request profile) request.hasChoice)
        request.variants.shapes functions := by
  have hplan := Plan.eq_of_ofRequest hp
  have hno : .builder .list true ∉ plan := by
    intro hm
    rw [hplan] at hm
    obtain ⟨variant, hv, hentry⟩ := List.mem_map.1 hm
    have hvariant : variant = .builder .list ∧ request.hasChoice = true := by
      cases variant <;> simp_all [Plan.entryOf]
    have herror := Plan.ofRequest_eq_error_iff.2 ⟨rfl, hvariant.1 ▸ hv, hvariant.2⟩
    rw [hp] at herror
    cases herror
  obtain ⟨functions, hf, -⟩ := exists_functionsOf hno (contextOf request profile)
  refine ⟨functions, hf, ?_⟩
  have hbuilt := functionsOf_eq_ok_iff.1 hf
  rw [hplan, Plan.filterMap_built?, VariantSet.filterMap_shape? hascending,
    List.forall₂_map_left_iff] at hbuilt
  exact hbuilt.imp fun _ _ h => isBuilder_of_build h

/-- What the builder functions of a plan tell of its artifact. -/
theorem exists_ofPlan {request : Request} {profile : Profile} {plan : List Planned}
    {functions : List BuilderFunction} (h : synthesize request profile plan = .ok functions) :
    ∃ artifact?, ofPlan request profile plan = .ok artifact? ∧ (artifact? = none ↔ functions = []) ∧
      ∀ artifact, artifact? = some artifact → artifact.functions = functions.map BuilderFunction.name := by
  by_cases hne : functions = []
  · subst hne
    exact ⟨none, ofPlan_of_no_functions request profile h, by simp, nofun⟩
  · obtain ⟨artifact, _, ha, -, hholds, -⟩ := ofPlan_of_functions h hne
    refine ⟨some artifact, ha, by simp [hne], ?_⟩
    rintro _ ⟨⟩
    exact hholds.functions

end Artifact

/-- **What is planned and generated for the request of a converter.**  There is no plan exactly if lists and
the choice form are asked for together.  Else the plan has an entry for each variant in the order of their
names; it has a builder function for each shape that is asked for, in the choice form exactly if that is; and
there is no artifact exactly if no shape is asked for, else one with the names of these functions. -/
theorem ofConverter_planned {resolver : Resolver} {annotationName : String} {converter : Converter}
    {request : Request} (profile : Profile)
    (hr : Request.ofConverter resolver annotationName converter = .ok request) :
    (∀ fault, Plan.ofRequest request = .error fault ↔
      fault = .incompatibleVariants "LIST" "CHOICE" "there are no list-based choice converters" ∧
        .builder .list ∈ request.variants.values ∧ .choice ∈ request.variants.values) ∧
    ∀ plan, Plan.ofRequest request = .ok plan →
      plan = request.variants.values.map
        (Plan.entryOf (decide (.choice ∈ request.variants.values))) ∧
      request.variants.values.Pairwise (fun a b => bytes a.name < bytes b.name) ∧
      ∃ functions artifact?,
        Artifact.synthesize request profile plan = .ok functions ∧
        Artifact.ofPlan request profile plan = .ok artifact? ∧
        List.Forall₂ (IsBuilder (Artifact.contextOf request profile)
          (decide (.choice ∈ request.variants.values))) request.variants.shapes functions ∧
        (artifact? = none ↔ ∀ shape, .builder shape ∉ request.variants.values) ∧
        ∀ artifact, artifact? = some artifact →
          artifact.functions = functions.map BuilderFunction.name := by
  obtain ⟨_, _, hreflects⟩ := (((Request.settles_ofConverter _ _ _).ok_iff request).1 hr).reflects
  have hchoice : request.hasChoice = decide (.choice ∈ request.variants.values) := by
    rw [Bool.eq_iff_iff, decide_eq_true_iff]
    exact hreflects.hasChoice_iff
  refine ⟨fun fault => ?_, fun plan hp => ⟨?_, hreflects.ascending, ?_⟩⟩
  · rw [Plan.ofRequest_eq_error_iff, hreflects.hasChoice_iff]
    rfl
  · rw [← hchoice]
    exact Plan.eq_of_ofRequest hp
  · obtain ⟨functions, hf, hbuilders⟩ := Artifact.exists_synthesize profile hreflects.ascending hp
    obtain ⟨artifact?, ha, hnone, hnames⟩ := Artifact.exists_ofPlan hf
    refine ⟨functions, artifact?, hf, ha, hchoice ▸ hbuilders, ?_, hnames⟩
    rw [hnone, ← List.length_eq_zero_iff, ← hbuilders.length_eq, List.length_eq_zero_iff,
      List.eq_nil_iff_forall_not_mem]
    simp only [VariantSet.mem_shapes]

/-- What the request for amounts under a display name is made from. -/
def asksFor (displayName : String) (types : List String) : Resolver :=
  Request.answering
    (some (OrderedMap.ofList [("name", .text displayName), ("types", .list (types.map .text))]))
    (some (.resolved "org.shop.Amount"))

def askedFor (displayName : String) (variants : List Variant) : Request :=
  ⟨displayName, .resolved "org.shop.Amount", VariantSet.ofVariants variants, [],
    (VariantSet.ofVariants variants).hasChoice, default⟩

/-- Single and optional amounts to choose from, and a name that is not supported. -/
def choosingAmounts : Request :=
  askedFor "amount" [.builder .single, .unsupported "PAIR", .builder .optional, .choice]

/-- The functions of a plan are in choice form, whatever stands between them; and lists beside the choice form
are refused. -/
theorem ofConverter_planned_choosingAmounts :
    (∃ artifact, Request.ofConverter (asksFor "amount" ["SINGLE", "PAIR", "OPTIONAL", "CHOICE"])
        "Builders" default = .ok choosingAmounts ∧
      Plan.ofRequest choosingAmounts = .ok [.choiceModifier, .builder .optional true,
        .unsupported "PAIR", .builder .single true] ∧
      Artifact.ofPlan choosingAmounts Configuration.default.profile [.choiceModifier,
        .builder .optional true, .unsupported "PAIR", .builder .single true] = .ok (some artifact) ∧
      artifact.functions = ["optionalAmountChoice", "amountChoice"]) ∧
    Plan.ofRequest (askedFor "amount" [.choice, .builder .list]) = .error listChoiceConflict := by
  constructor
  · have hrequest : Request.ofConverter (asksFor "amount" ["SINGLE", "PAIR", "OPTIONAL", "CHOICE"])
        "Builders" default = .ok choosingAmounts := by
      with_unfolding_all rfl
    have hplan : Plan.ofRequest choosingAmounts = .ok [.choiceModifier, .builder .optional true,
        .unsupported "PAIR", .builder .single true] := by
      with_unfolding_all rfl
    obtain ⟨-, hplanned⟩ := ofConverter_planned Configuration.default.profile hrequest
    obtain ⟨-, -, functions, artifact?, -, hartifact, hbuilders, hnone, hnames⟩ := hplanned _ hplan
    have hsingle : Variant.builder .single ∈ choosingAmounts.variants.values := by decide +kernel
    obtain ⟨artifact, rfl⟩ := Option.ne_none_iff_exists'.1 fun hn => hnone.1 hn .single hsingle
    refine ⟨artifact, hrequest, hplan, hartifact, ?_⟩
    rw [hnames artifact rfl, names_of_isBuilder hbuilders]
    decide +kernel
  · have hrequest : Request.ofConverter (asksFor "amount" ["CHOICE", "LIST"]) "Builders" default =
        .ok (askedFor "amount" [.choice, .builder .list]) := by
      with_unfolding_all rfl
    obtain ⟨hfaults, -⟩ := ofConverter_planned Configuration.default.profile hrequest
    exact (hfaults _).2 ⟨rfl, by decide +kernel, by decide +kernel⟩

/-- **No two builder functions of an artifact share a name.**  The names are those of the shapes that are
asked for, and in the plain form as in the choice form the four names of a display name are different. -/
theorem functions_distinct {resolver : Resolver} {annotationName : String} {converter : Converter}
    {request : Request} {profile : Profile} {plan : List Planned} {artifact : Artifact}
    (hr : Request.ofConverter resolver annotationName converter = .ok request)
    (hp : Plan.ofRequest request = .ok plan)
    (ha : Artifact.ofPlan request profile plan = .ok (some artifact)) :
    artifact.functions.Nodup ∧
    artifact.functions =
      request.variants.shapes.map (Shape.builderName request.name request.hasChoice) ∧
    ∀ choice, ([lowerFirst request.name, lowerFirst request.name ++ "List",
      "optional" ++ titleFirst request.name, "defaulting" ++ titleFirst request.name].map fun name =>
        BuilderContext.formName name choice).Nodup := by
  obtain ⟨_, _, hreflects⟩ := (((Request.settles_ofConverter _ _ _).ok_iff request).1 hr).reflects
  obtain ⟨functions, hf, hbuilders⟩ := Artifact.exists_synthesize profile hreflects.ascending hp
  obtain ⟨artifact?, hsome, -, hnames⟩ := Artifact.exists_ofPlan hf
  have hfunctions : artifact.functions =
      request.variants.shapes.map (Shape.builderName request.name request.hasChoice) := by
    rw [hnames artifact (Except.ok.inj (hsome.symm.trans ha)), names_of_isBuilder hbuilders]
    rfl
  refine ⟨?_, hfunctions, fun choice => ?_⟩
  · rw [hfunctions]
    exact request.variants.shapes_nodup.map (Shape.builderName_injective ..)
  · have hshapes : [Shape.single, .list, .optional, .defaulting].Nodup := by decide
    have hfour := hshapes.map (Shape.builderName_injective request.name choice)
    exact hfour

/-- Amounts in all shapes under a name whose first character has two in lower case and is in title case. -/
def dottedAmounts : Request :=
  askedFor "\u0130d" [.builder .single, .builder .optional, .builder .defaulting, .builder .list]

/-- Four builder functions under such a name have four names. -/
theorem functions_distinct_dottedAmounts :
    ∃ artifact, Request.ofConverter (asksFor "\u0130d" ["SINGLE", "OPTIONAL", "DEFAULTING", "LIST"])
        "Builders" default = .ok dottedAmounts ∧
      Plan.ofRequest dottedAmounts = .ok [.builder .defaulting false, .builder .list false,
        .builder .optional false, .builder .single false] ∧
      Artifact.ofPlan dottedAmounts Configuration.default.profile [.builder .defaulting false,
        .builder .list false, .builder .optional false, .builder .single false] = .ok (some artifact) ∧
      artifact.functions = ["defaulting\u0130d", "i\u0307dList", "optional\u0130d", "i\u0307d"] ∧
      artifact.functions.Nodup := by
  have hrequest : Request.ofConverter (asksFor "\u0130d" ["SINGLE", "OPTIONAL", "DEFAULTING", "LIST"])
      "Builders" default = .ok dottedAmounts := by
    with_unfolding_all rfl
  have hplan : Plan.ofRequest dottedAmounts = .ok [.builder .defaulting false, .builder .list false,
      .builder .optional false, .builder .single false] := by
    with_unfolding_all rfl
  have hfunctions : Artifact.synthesize dottedAmounts Configuration.default.profile
      [.builder .defaulting false, .builder .list false, .builder .optional false,
        .builder .single false] = .ok (_ :: _ :: _ :: _ :: []) := rfl
  obtain ⟨artifact, _, hartifact, -⟩ := Artifact.ofPlan_of_functions hfunctions (List.cons_ne_nil _ _)
  obtain ⟨hnodup, hnames, -⟩ := functions_distinct hrequest hplan hartifact
  refine ⟨artifact, hrequest, hplan, hartifact, ?_, hnodup⟩
  rw [hnames]
  decide +kernel

end ConverterBuilders
