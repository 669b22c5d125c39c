import ConverterBuilders.Proofs.Collision
import ConverterBuilders.Proofs.ScanOrder
import ConverterBuilders.Proofs.Spelling

/-!
# Indexes that ask for the same

Of a declaration, only the request of a converter reads its annotations, and only the set of variants
reads the argument `types`.  So indexes that differ in nothing but in values of `types` that ask for the
same are not told apart, neither by a scan nor by what is generated.

Main statements:

* `ofConverter_congr`: arguments that ask for the same make the same request;
* `get?_rel`, `annotated_eq`, `resolve_eq`, `arguments_rel`: what such indexes answer;
* `AskAlike.withTypes`: other values of `types` in one declaration after the other;
* `process_of_askAlike`: the report is the same.
-/

namespace ConverterBuilders

/-! ## Declarations that ask for the same -/

/-- Whether arguments differ in nothing but in how `types` asks for the same. -/
structure AnnotationArguments.AskAlike (left right : AnnotationArguments) : Prop where
  types : Option.Rel AnnotationValue.AskAlike (left.get? "types") (right.get? "types")
  others : ∀ argument, argument ≠ "types" → left.get? argument = right.get? argument

theorem AnnotationArguments.askAlike_refl (arguments : AnnotationArguments) :
    AnnotationArguments.AskAlike arguments arguments := by
  refine ⟨?_, fun _ _ => rfl⟩
  cases arguments.get? "types" with
  | none => exact .none
  | some value => exact .some (.refl value)

/-- Arguments ask for the same with values of `types` that do. -/
theorem AnnotationArguments.AskAlike.insert {left right : AnnotationArguments}
    (h : AnnotationArguments.AskAlike left right) {value other : AnnotationValue}
    (hv : value.AskAlike other) :
    AnnotationArguments.AskAlike (left.insert "types" value) (right.insert "types" other) := by
  refine ⟨?_, fun argument hne => ?_⟩
  · rw [OrderedMap.get?_insert_self, OrderedMap.get?_insert_self]
    exact .some hv
  · have hcompare : compare argument "types" ≠ .eq := fun he =>
      hne (Std.LawfulEqOrd.eq_of_compare he)
    rw [OrderedMap.get?_insert_of_ne _ _ hcompare, OrderedMap.get?_insert_of_ne _ _ hcompare,
      h.others argument hne]

/-- Whether annotations have one name and arguments that ask for the same. -/
structure AnnotationUse.AskAlike (left right : AnnotationUse) : Prop where
  qualifiedName : left.qualifiedName = right.qualifiedName
  arguments : AnnotationArguments.AskAlike left.arguments right.arguments

namespace AnnotationUse

variable {left right : List AnnotationUse} (h : List.Forall₂ AskAlike left right)
include h

theorem any_congr (name : String) :
    (left.any fun entry => entry.qualifiedName = name) =
      right.any fun entry => entry.qualifiedName = name := by
  induction h with
  | nil => rfl
  | cons hentry _ ih => rw [List.any_cons, List.any_cons, ih, hentry.qualifiedName]

theorem find?_rel (name : String) :
    Option.Rel AskAlike (left.find? fun entry => entry.qualifiedName = name)
      (right.find? fun entry => entry.qualifiedName = name) := by
  induction h with
  | nil => exact .none
  | cons hentry _ ih =>
    rw [List.find?_cons, List.find?_cons, hentry.qualifiedName]
    split
    · exact .some hentry
    · exact ih

end AnnotationUse

/-- Whether declarations differ in nothing but in annotations that ask for the same. -/
inductive Declaration.AskAlike (declaration : Declaration) : Declaration → Prop
  | mk {annotations : List AnnotationUse}
    (h : List.Forall₂ AnnotationUse.AskAlike declaration.annotations annotations) :
    AskAlike declaration { declaration with annotations := annotations }

namespace Declaration.AskAlike

variable {left right : Declaration} (h : left.AskAlike right)
include h

theorem annotations : List.Forall₂ AnnotationUse.AskAlike left.annotations right.annotations := by
  cases h with
  | mk h => exact h

theorem isAnnotatedWith_eq (name : String) :
    left.isAnnotatedWith name = right.isAnnotatedWith name :=
  AnnotationUse.any_congr h.annotations name

theorem symbol_eq :
    (⟨left.qualifiedName, left.kind⟩ : Symbol) = ⟨right.qualifiedName, right.kind⟩ := by
  cases h with
  | mk => rfl

/-- A converter is read off a declaration without its annotations. -/
theorem converterOf_eq : SymbolIndex.converterOf left = SymbolIndex.converterOf right := by
  cases h with
  | mk => rfl

end Declaration.AskAlike

/-- A declaration with another value of `types` in its annotation of some name. -/
def Declaration.withTypes (declaration : Declaration) (annotationName : String)
    (value : AnnotationValue) : Declaration :=
  { declaration with
    annotations := declaration.annotations.map fun entry =>
      if entry.qualifiedName = annotationName then
        { entry with arguments := entry.arguments.insert "types" value }
      else entry }

theorem Declaration.askAlike_refl (declaration : Declaration) : declaration.AskAlike declaration :=
  .mk (List.forall₂_same.2 fun entry _ => ⟨rfl, entry.arguments.askAlike_refl⟩)

theorem Declaration.AskAlike.withTypes {left right : Declaration} (h : left.AskAlike right)
    (annotationName : String) {value other : AnnotationValue} (hv : value.AskAlike other) :
    (left.withTypes annotationName value).AskAlike (right.withTypes annotationName other) := by
  cases h with
  | mk h =>
    refine .mk (List.forall₂_map_left_iff.2 (List.forall₂_map_right_iff.2 ?_))
    refine h.imp fun entry use hentry => ?_
    rw [hentry.qualifiedName]
    split
    · exact ⟨rfl, hentry.arguments.insert hv⟩
    · exact hentry

/-- **Arguments that ask for the same make the same request.** -/
theorem Request.ofConverter_congr {left right : Resolver} {annotationName : String} {converter : Converter}
    (harguments : Option.Rel AnnotationArguments.AskAlike (left.arguments converter annotationName)
      (right.arguments converter annotationName))
    (hvalue : left.valueType converter = right.valueType converter) :
    ofConverter left annotationName converter = ofConverter right annotationName converter := by
  unfold ofConverter
  generalize left.arguments converter annotationName = arguments? at harguments
  generalize right.arguments converter annotationName = others? at harguments
  cases harguments with
  | none => rfl
  | @some arguments others h =>
    have hname : readName arguments = readName others := by
      rw [readName, readName, required, required, h.others "name" (by decide)]
    have himports : readImports arguments = readImports others := by
      rw [readImports, readImports, h.others "imports" (by decide)]
    simp only [hname, readVariants_congr h.types, himports, readValueType, hvalue]

/-! ## Indexes that ask for the same -/

theorem rel_bind {α β γ δ : Type} {related : α → β → Prop} {after : γ → δ → Prop} {a : Option α}
    {b : Option β} (h : Option.Rel related a b) {f : α → Option γ} {g : β → Option δ}
    (hfg : ∀ {x y}, related x y → Option.Rel after (f x) (g y)) :
    Option.Rel after (a.bind f) (b.bind g) := by
  cases h with
  | none => exact .none
  | some h => exact hfg h

namespace SymbolIndex

/-- Whether indexes have the same names, with declarations under them that ask for the same. -/
def AskAlike (left right : SymbolIndex) : Prop :=
  List.Forall₂ (fun entry other => entry.1 = other.1 ∧ entry.2.AskAlike other.2)
    left.declarations.entries right.declarations.entries

namespace AskAlike

variable {left right : SymbolIndex} (h : left.AskAlike right)
include h

theorem get?_rel (name : String) :
    Option.Rel Declaration.AskAlike (left.get? name) (right.get? name) :=
  OrderedMap.lookup_rel h name

theorem annotated_eq (annotationName : String) :
    left.annotated annotationName = right.annotated annotationName := by
  have hvalues : List.Forall₂ Declaration.AskAlike left.declarations.values
      right.declarations.values :=
    List.forall₂_map_left_iff.2 (List.forall₂_map_right_iff.2 (h.imp fun _ _ he => he.2))
  have hkept : List.Forall₂ Declaration.AskAlike
      (left.declarations.values.filter fun declaration => declaration.isAnnotatedWith annotationName)
      (right.declarations.values.filter fun declaration =>
        declaration.isAnnotatedWith annotationName) := by
    exact List.rel_filter (fun _ _ hd => by simp only [hd.isAnnotatedWith_eq]) hvalues
  rw [annotated, annotated, ← List.forall₂_eq_eq_eq, List.forall₂_map_left_iff,
    List.forall₂_map_right_iff]
  exact hkept.imp fun _ _ hd => hd.symbol_eq

theorem resolve_eq (symbol : Symbol) :
    left.resolver.resolve symbol = right.resolver.resolve symbol := by
  show (left.get? symbol.qualifiedName).bind converterOf =
    (right.get? symbol.qualifiedName).bind converterOf
  have hfound := h.get?_rel symbol.qualifiedName
  generalize left.get? symbol.qualifiedName = declaration? at hfound ⊢
  generalize right.get? symbol.qualifiedName = other? at hfound ⊢
  cases hfound with
  | none => rfl
  | some hd => exact hd.converterOf_eq

theorem arguments_rel (converter : Converter) (annotationName : String) :
    Option.Rel AnnotationArguments.AskAlike (left.resolver.arguments converter annotationName)
      (right.resolver.arguments converter annotationName) := by
  refine rel_bind (h.get?_rel converter.qualifiedName) fun hd => ?_
  exact rel_bind (AnnotationUse.find?_rel hd.annotations annotationName) fun he => .some he.arguments

theorem scan_eq (configuration : Configuration) :
    Report.scan left.resolver configuration = Report.scan right.resolver configuration := by
  have hresolve : left.resolver.resolve = right.resolver.resolve := funext h.resolve_eq
  have hannotated : left.resolver.annotated configuration.annotationName =
      right.resolver.annotated configuration.annotationName := h.annotated_eq _
  simp only [Report.scan, Scan.of, Scan.ofSymbols, hresolve, hannotated]

end AskAlike

theorem askAlike_refl (index : SymbolIndex) : index.AskAlike index :=
  List.forall₂_same.2 fun entry _ => ⟨rfl, entry.2.askAlike_refl⟩

/-- An index with another value of `types` in an annotation of one of its declarations. -/
def withTypes (index : SymbolIndex) (qualifiedName annotationName : String)
    (value : AnnotationValue) : SymbolIndex :=
  match index.get? qualifiedName with
  | some declaration =>
    ⟨index.declarations.insert qualifiedName (declaration.withTypes annotationName value)⟩
  | none => index

/-- **Indexes ask for the same with values of `types` that do**, in whichever annotation they stand. -/
theorem AskAlike.withTypes {left right : SymbolIndex} (h : left.AskAlike right)
    (qualifiedName annotationName : String) {value other : AnnotationValue}
    (hv : value.AskAlike other) :
    (left.withTypes qualifiedName annotationName value).AskAlike
      (right.withTypes qualifiedName annotationName other) := by
  have hfound := h.get?_rel qualifiedName
  unfold SymbolIndex.withTypes
  generalize left.get? qualifiedName = declaration? at hfound ⊢
  generalize right.get? qualifiedName = other? at hfound ⊢
  cases hfound with
  | none => exact h
  | some hd => exact OrderedMap.insertEntry_rel h qualifiedName (hd.withTypes annotationName hv)

end SymbolIndex

/-! ## A shop with other requests -/

namespace SymbolIndex

/-- The shop with other values of `types` for its two converters. -/
def shopAsking (money price : List AnnotationValue) : SymbolIndex :=
  (shop.withTypes "org.shop.Money" Configuration.default.annotationName (.list money)).withTypes
    "Price" Configuration.default.annotationName (.list price)

theorem askAlike_shopAsking {money money' price price' : List AnnotationValue}
    (hmoney : AnnotationValue.AskAlike (.list money) (.list money'))
    (hprice : AnnotationValue.AskAlike (.list price) (.list price')) :
    (shopAsking money price).AskAlike (shopAsking money' price') :=
  (shop.askAlike_refl.withTypes _ _ hmoney).withTypes _ _ hprice

/-- What comes out for a shop in which one list of variants is refused. -/
theorem process_shopAsking :
    ∃ report, Report.process (shopAsking
        [.text "SINGLE", .text ("ConverterType" ++ "." ++ "LIST")]
        [.text "SINGLE", .boolean true]).resolver .default = .ok report ∧
      report.artifacts.map Artifact.functions = [["amountList", "amount"]] ∧
      report.failures = [⟨"Price", .invalidArgument "types" Request.typesExpected⟩] := by
  have hvalid : (Report.scan (shopAsking
      [.text "SINGLE", .text ("ConverterType" ++ "." ++ "LIST")]
      [.text "SINGLE", .boolean true]).resolver .default).valid = shopConverters :=
    Scan.valid_of_ascending (by decide +kernel) (by with_unfolding_all rfl) (by decide +kernel)
  exact ⟨_, Report.process_of_valid hvalid (by decide +kernel), by decide +kernel⟩

end SymbolIndex

/-! ## Reports -/

/-- **What is generated hangs on the set of variants that are asked for.**  Let two indexes differ in
nothing but in values of `types`, which have the same elements in any order and with any repetitions or
with other spellings of the same variants.  Then generating gives the same result for both: the same
artifacts and the same faults, also if some elements are refused, or the same collision. -/
theorem process_of_askAlike {left right : SymbolIndex} (h : left.AskAlike right)
    (configuration : Configuration) :
    Report.process left.resolver configuration = Report.process right.resolver configuration := by
  refine Report.process_congr (h.scan_eq configuration) fun converter _ => ?_
  rw [Report.generate, Report.generate, Request.ofConverter_congr (h.arguments_rel converter _) rfl]

/-- Other orders, repetitions and spellings change nothing, neither what is generated for one converter
nor why another is refused. -/
theorem process_of_askAlike_shop :
    ∃ report,
      Report.process (SymbolIndex.shopAsking
        [.text "SINGLE", .text ("ConverterType" ++ "." ++ "LIST")]
        [.text "SINGLE", .boolean true]).resolver .default = .ok report ∧
      Report.process (SymbolIndex.shopAsking
        [.text ("ConverterType" ++ "." ++ "LIST"), .text "SINGLE", .text "SINGLE"]
        [.boolean true, .text "SINGLE", .boolean true]).resolver .default = .ok report ∧
      Report.process (SymbolIndex.shopAsking
        [.text (" " ++ "SINGLE" ++ "\t"), .text ("converters.Type" ++ "." ++ "LIST")]
        [.text ("ConverterType" ++ "." ++ "SINGLE"), .boolean true]).resolver .default = .ok report ∧
      report.artifacts.map Artifact.functions = [["amountList", "amount"]] ∧
      report.failures = [⟨"Price", .invalidArgument "types" Request.typesExpected⟩] := by
  obtain ⟨report, hprocess, hartifacts, hfailures⟩ := SymbolIndex.process_shopAsking
  have hmoney : AnnotationValue.AskAlike
      (.list [.text "SINGLE", .text ("ConverterType" ++ "." ++ "LIST")])
      (.list [.text ("ConverterType" ++ "." ++ "LIST"), .text "SINGLE", .text "SINGLE"]) :=
    AnnotationValue.askAlike_of_same_elements (by simp [or_comm])
  have hprice : AnnotationValue.AskAlike (.list [.text "SINGLE", .boolean true])
      (.list [.boolean true, .text "SINGLE", .boolean true]) :=
    AnnotationValue.askAlike_of_same_elements (by simp [or_comm])
  have hspeltMoney : AnnotationValue.AskAlike
      (.list [.text "SINGLE", .text ("ConverterType" ++ "." ++ "LIST")])
      (.list [.text (" " ++ "SINGLE" ++ "\t"), .text ("converters.Type" ++ "." ++ "LIST")]) :=
    AnnotationValue.askAlike_of_spelling
      (.cons (.blanks (by decide) (by decide) "SINGLE") (.cons (.qualified _ _ (by decide)) .nil))
  have hspeltPrice : AnnotationValue.AskAlike (.list [.text "SINGLE", .boolean true])
      (.list [.text ("ConverterType" ++ "." ++ "SINGLE"), .boolean true]) :=
    AnnotationValue.askAlike_of_spelling
      (.cons (.bare _ (by decide) (by decide)) (.cons (.refl _) .nil))
  have horder := process_of_askAlike (SymbolIndex.askAlike_shopAsking hmoney hprice) .default
  have hspelling :=
    process_of_askAlike (SymbolIndex.askAlike_shopAsking hspeltMoney hspeltPrice) .default
  exact ⟨report, hprocess, horder.symm.trans hprocess, hspelling.symm.trans hprocess, hartifacts,
    hfailures⟩

end ConverterBuilders
