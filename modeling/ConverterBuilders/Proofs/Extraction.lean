import ConverterBuilders.Proofs.ByteOrder
import ConverterBuilders.Proofs.NamedVariants
import ConverterBuilders.Proofs.Running

/-!
# Which annotations make a request

The arguments of an annotation make a request if each of them is well formed and the type of the values is
resolved, and else the first of them that is not tells the fault.  Each reader gives exactly the values that
fit and refuses with exactly the faults there are, and readers one after the other do so for the first fault.

Main statements:

* `Settles.bind`: two readers one after the other;
* `settles_readName`, `settles_readVariants`, `settles_readImports`, `settles_readValueType`: the readers;
* `settles_ofConverter`: all of them in their order;
* `exists_isAskedFor_iff`, `IsAskedFor.reflects`: when there is a request, and what it looks like;
* `ofConverter_settled`: all of this of the request that an annotation makes.
-/

namespace ConverterBuilders

open Text

/-! ## Readers -/

/-- Whether a reader gives exactly the values that fit and refuses with exactly the faults there are. -/
structure Settles {ε α : Type} (result : Except ε α) (fits : α → Prop) (faulty : ε → Prop) : Prop where
  ok_iff : ∀ a, result = .ok a ↔ fits a
  error_iff : ∀ e, result = .error e ↔ faulty e

namespace Settles

variable {ε α β : Type} {result : Except ε α} {fits : α → Prop} {faulty : ε → Prop}

theorem of_ok {a : α} (h : result = .ok a) (hfits : fits a) (hone : ∀ b, fits b → b = a)
    (hno : ∀ e, ¬ faulty e) : Settles result fits faulty where
  ok_iff b := by
    rw [h, Except.ok.injEq]
    exact ⟨fun he => he ▸ hfits, fun hb => (hone b hb).symm⟩
  error_iff e := by
    rw [h]
    exact iff_of_false nofun (hno e)

theorem of_error {e : ε} (h : result = .error e) (hfaulty : faulty e)
    (hone : ∀ other, faulty other → other = e) (hno : ∀ a, ¬ fits a) : Settles result fits faulty where
  ok_iff a := by
    rw [h]
    exact iff_of_false nofun (hno a)
  error_iff other := by
    rw [h, Except.error.injEq]
    exact ⟨fun he => he ▸ hfaulty, fun ho => (hone other ho).symm⟩

/-- A reader that never refuses. -/
theorem ok (a : α) : Settles (.ok a : Except ε α) (fun b => b = a) fun _ => False :=
  .of_ok rfl rfl (fun _ h => h) fun _ h => h

theorem congr {fits' : α → Prop} {faulty' : ε → Prop} (h : Settles result fits faulty)
    (hfits : ∀ a, fits a ↔ fits' a) (hfaulty : ∀ e, faulty e ↔ faulty' e) :
    Settles result fits' faulty' where
  ok_iff a := (h.ok_iff a).trans (hfits a)
  error_iff e := (h.error_iff e).trans (hfaulty e)

/-- **The fault of the first reader comes before that of the second.** -/
theorem bind {next : α → Except ε β} {fits' : α → β → Prop} {faulty' : α → ε → Prop}
    (h : Settles result fits faulty) (hn : ∀ a, Settles (next a) (fits' a) (faulty' a)) :
    Settles (result >>= next) (fun b => ∃ a, fits a ∧ fits' a b)
      fun e => faulty e ∨ ∃ a, fits a ∧ faulty' a e where
  ok_iff b := by
    rw [bind_eq_ok_iff]
    exact exists_congr fun a => and_congr (h.ok_iff a) ((hn a).ok_iff b)
  error_iff e := by
    rw [bind_eq_error_iff]
    exact or_congr (h.error_iff e)
      (exists_congr fun a => and_congr (h.ok_iff a) ((hn a).error_iff e))

/-- **A list is read if each of its elements is**, and one that gives nothing is the fault. -/
theorem mapM {read : α → Except ε β} {gives : α → β → Prop} {fault : ε}
    (h : ∀ a, Settles (read a) (gives a) fun e => e = fault ∧ ¬ ∃ b, gives a b) (as : List α) :
    Settles (as.mapM read) (List.Forall₂ gives as)
      fun e => e = fault ∧ ∃ a ∈ as, ¬ ∃ b, gives a b := by
  induction as with
  | nil => exact .of_ok rfl .nil (fun | _, .nil => rfl) (by simp)
  | cons a rest ih =>
    rw [List.mapM_cons]
    cases ha : read a with
    | error e =>
      obtain ⟨rfl, hnone⟩ := ((h a).error_iff e).1 ha
      refine .of_error rfl ⟨rfl, a, List.mem_cons_self .., hnone⟩ (fun _ he => he.1) ?_
      rintro bs (_ | ⟨hb, _⟩)
      exact hnone ⟨_, hb⟩
    | ok b =>
      have hb := ((h a).ok_iff b).1 ha
      cases hr : rest.mapM read with
      | error e =>
        obtain ⟨rfl, bad, hm, hnone⟩ := (ih.error_iff e).1 hr
        refine .of_error rfl ⟨rfl, bad, List.mem_cons_of_mem _ hm, hnone⟩ (fun _ he => he.1) ?_
        rintro bs (_ | ⟨_, hrest⟩)
        have hok := (ih.ok_iff _).2 hrest
        rw [hr] at hok
        cases hok
      | ok bs =>
        refine .of_ok rfl (.cons hb ((ih.ok_iff bs).1 hr)) ?_ ?_
        · rintro other (_ | ⟨ho, hrest⟩)
          have hfirst := ((h a).ok_iff _).2 ho
          have hothers := (ih.ok_iff _).2 hrest
          rw [ha] at hfirst
          rw [hr] at hothers
          rw [← Except.ok.inj hfirst, ← Except.ok.inj hothers]
        · rintro e ⟨rfl, bad, hm, hnone⟩
          rcases List.mem_cons.1 hm with rfl | hm
          · exact hnone ⟨b, hb⟩
          · have herror := (ih.error_iff e).2 ⟨rfl, bad, hm, hnone⟩
            rw [hr] at herror
            cases herror

end Settles

theorem exists_forall₂_iff {α β : Type} {related : α → β → Prop} {as : List α} :
    (∃ bs, List.Forall₂ related as bs) ↔ ∀ a ∈ as, ∃ b, related a b := by
  induction as with
  | nil => exact iff_of_true ⟨[], .nil⟩ (by simp)
  | cons a rest ih =>
    rw [List.forall_mem_cons, ← ih]
    simp only [List.forall₂_cons_left_iff]
    constructor
    · rintro ⟨_, b, bs, hb, hrest, -⟩
      exact ⟨⟨b, hb⟩, bs, hrest⟩
    · rintro ⟨⟨b, hb⟩, bs, hrest⟩
      exact ⟨_, b, bs, hb, hrest, rfl⟩

/-! ## What arguments give -/

/-- Whether the argument `name` gives a display name: its trimmed text, which is not blank. -/
inductive GivesName : Option AnnotationValue → String → Prop
  | text {text : String} (hb : isBlank text = false) : GivesName (some (.text text)) (trim text)

/-- What is wrong with the argument `name`. -/
inductive NameFault : Option AnnotationValue → RequestError → Prop
  | missing : NameFault none (.missingArgument "name")
  | noText {value : AnnotationValue} (hv : value.text? = none) :
    NameFault (some value) (.invalidArgument "name" "a string")
  | blank {text : String} (hb : isBlank text = true) : NameFault (some (.text text)) .emptyName

/-- Whether the argument `types` asks for a set of variants: it is a list, not an empty one, and each of its
elements names a variant. -/
inductive AsksFor : Option AnnotationValue → VariantSet → Prop
  | list {values : List AnnotationValue} {variants : VariantSet} (hne : values ≠ [])
    (hnames : ∀ value ∈ values, ∃ name, value.Names name) (h : variants.AskedBy values) :
    AsksFor (some (.list values)) variants

/-- What is wrong with the argument `types`. -/
inductive TypesFault : Option AnnotationValue → RequestError → Prop
  | missing : TypesFault none (.missingArgument "types")
  | noList {value : AnnotationValue} (hv : value.list? = none) :
    TypesFault (some value) (.invalidArgument "types" "a list of converter type names")
  | element {values : List AnnotationValue} {value : AnnotationValue} (hm : value ∈ values)
    (hv : ¬ ∃ name, value.Names name) :
    TypesFault (some (.list values)) (.invalidArgument "types" "a list of converter type names")
  | noVariants : TypesFault (some (.list [])) .noVariants

/-- Whether an element of `imports` gives a path: its trimmed text, which is not blank. -/
inductive GivesImport : AnnotationValue → String → Prop
  | text {text : String} (hb : isBlank text = false) : GivesImport (.text text) (trim text)

/-- Whether the argument `imports` gives paths, one for each of its elements; it may be left out. -/
inductive GivesImports : Option AnnotationValue → List String → Prop
  | absent : GivesImports none []
  | list {values : List AnnotationValue} {paths : List String}
    (h : List.Forall₂ GivesImport values paths) : GivesImports (some (.list values)) paths

/-- What is wrong with the argument `imports`. -/
inductive ImportsFault : Option AnnotationValue → RequestError → Prop
  | noList {value : AnnotationValue} (hv : value.list? = none) :
    ImportsFault (some value) (.invalidArgument "imports" "a list of import paths")
  | element {values : List AnnotationValue} {value : AnnotationValue} (hm : value ∈ values)
    (hv : ¬ ∃ path, GivesImport value path) :
    ImportsFault (some (.list values)) (.invalidArgument "imports" "a list of import paths")

/-- Whether a type of values is known, and by its qualified name. -/
inductive IsValueType : Option TypeReference → TypeReference → Prop
  | known {type : TypeReference} {qualifiedName : String} (hq : type.qualifiedName? = some qualifiedName) :
    IsValueType (some type) type

inductive ValueTypeFault : Option TypeReference → RequestError → Prop
  | noSupertype : ValueTypeFault none .noSupertype
  | unresolved {type : TypeReference} (hq : type.qualifiedName? = none) :
    ValueTypeFault (some type) (.unresolvedValueType type.name)

theorem GivesName.exists_text {value? : Option AnnotationValue} {name : String}
    (h : GivesName value? name) : ∃ text, value? = some (.text text) ∧ name = trim text ∧ name ≠ "" := by
  cases h with
  | @text text hb =>
    refine ⟨text, rfl, rfl, fun hempty => ?_⟩
    have hnil : trimChars text.toList = [] := by
      rwa [trim, String.ofList_eq_empty_iff] at hempty
    rw [isBlank, trimChars_eq_nil_iff.1 hnil] at hb
    cases hb

theorem AsksFor.exists_values {value? : Option AnnotationValue} {variants : VariantSet}
    (h : AsksFor value? variants) :
    ∃ values, value? = some (.list values) ∧ variants.AskedBy values ∧ variants.values ≠ [] := by
  cases h with
  | @list values _ hne hnames hasked =>
    obtain ⟨value, hm⟩ := List.exists_mem_of_ne_nil values hne
    obtain ⟨name, hname⟩ := hnames value hm
    exact ⟨values, rfl, hasked, List.ne_nil_of_mem ((hasked.mem_iff _).2 ⟨value, hm, name, hname, rfl⟩)⟩

namespace Request

variable {resolver : Resolver} {annotationName : String} {converter : Converter}

/-! ## The readers -/

theorem settles_readName (arguments : AnnotationArguments) :
    Settles (readName arguments) (GivesName (arguments.get? "name"))
      (NameFault (arguments.get? "name")) := by
  unfold readName required
  generalize arguments.get? "name" = value?
  cases value? with
  | none => exact .of_error rfl .missing (fun | _, .missing => rfl) nofun
  | some value =>
    cases ht : value.text? with
    | none =>
      refine .of_error (by simp only [bind, Except.bind, ht]; rfl) (.noText ht) ?_ ?_
      · rintro fault (_ | _ | _)
        · rfl
        · cases ht
      · rintro name ⟨⟩
        cases ht
    | some text =>
      obtain rfl := AnnotationValue.eq_text ht
      cases hb : isBlank text with
      | true =>
        refine .of_error (by simp only [bind, Except.bind, ht, hb]; rfl) (.blank hb) ?_ ?_
        · rintro fault (_ | hnone | _)
          · cases hnone
          · rfl
        · rintro name ⟨hnot⟩
          simp [hb] at hnot
      | false =>
        refine .of_ok (by simp only [bind, Except.bind, ht, hb]; rfl) (.text hb) ?_ ?_
        · rintro name ⟨⟩
          rfl
        · rintro fault (_ | hnone | hblank)
          · cases hnone
          · simp [hb] at hblank

theorem settles_readVariants (arguments : AnnotationArguments) :
    Settles (readVariants arguments) (AsksFor (arguments.get? "types"))
      (TypesFault (arguments.get? "types")) := by
  unfold readVariants required
  generalize arguments.get? "types" = value?
  cases value? with
  | none => exact .of_error rfl .missing (fun | _, .missing => rfl) nofun
  | some value =>
    cases hl : value.list? with
    | none =>
      refine .of_error (by simp only [bind, Except.bind, hl]; rfl) (.noList hl) ?_ ?_
      · rintro fault (_ | _ | _ | _)
        · rfl
        · rfl
        · cases hl
      · rintro variants ⟨⟩
        cases hl
    | some values =>
      obtain rfl := AnnotationValue.eq_list hl
      rcases mapM_readVariant_cases values with ⟨hr, value, hm, hbad⟩ | ⟨variants, hr, hread, hgood⟩
      · have hno := readVariant_eq_error_iff.1 hbad
        refine .of_error (by simp only [bind, Except.bind, hl, hr]; rfl) (.element hm hno) ?_ ?_
        · rintro fault (_ | _ | _ | _)
          · rfl
          · rfl
          · cases hm
        · rintro variants ⟨_, hnames, _⟩
          exact hno (hnames value hm)
      · have hnames : ∀ value ∈ values, ∃ name, value.Names name := fun value hm =>
          not_not.1 fun hno => hgood ⟨value, hm, readVariant_eq_error_iff.2 hno⟩
        have hasked := VariantSet.askedBy_ofVariants hread
        cases values with
        | nil =>
          have hempty : variants = [] := List.eq_nil_iff_forall_not_mem.2 fun variant hm => by
            simpa using (hread variant).1 hm
          refine .of_error (by simp only [bind, Except.bind, hl, hr, hempty]; rfl) .noVariants ?_ ?_
          · rintro fault (_ | hnone | hm | _)
            · cases hnone
            · cases hm
            · rfl
          · rintro variants ⟨hne, _, _⟩
            exact hne rfl
        | cons first rest =>
          have hempty : variants.isEmpty = false := by
            obtain ⟨name, hname⟩ := hnames first (List.mem_cons_self ..)
            rw [List.isEmpty_eq_false_iff]
            exact List.ne_nil_of_mem ((hread _).2 ⟨first, List.mem_cons_self ..,
              readVariant_eq_ok_iff.2 ⟨name, hname, rfl⟩⟩)
          refine .of_ok (by simp only [bind, Except.bind, hl, hr, hempty]; rfl)
            (.list (List.cons_ne_nil _ _) hnames hasked) ?_ ?_
          · rintro other ⟨_, _, hother⟩
            exact hother.eq hasked
          · rintro fault (_ | hnone | ⟨hm, hno⟩ | _)
            · cases hnone
            · exact hno (hnames _ hm)

theorem settles_readImport (value : AnnotationValue) :
    Settles (readImport value) (GivesImport value)
      fun fault => fault = .invalidArgument "imports" importsExpected ∧ ¬ ∃ path, GivesImport value path := by
  unfold readImport
  cases ht : value.text? with
  | none =>
    have hno : ¬ ∃ path, GivesImport value path := by
      rintro ⟨path, ⟨⟩⟩
      cases ht
    exact .of_error rfl ⟨rfl, hno⟩ (fun _ he => he.1) fun path hp => hno ⟨path, hp⟩
  | some text =>
    obtain rfl := AnnotationValue.eq_text ht
    cases hb : isBlank text with
    | true =>
      have hno : ¬ ∃ path, GivesImport (.text text) path := by
        rintro ⟨path, ⟨hnot⟩⟩
        simp [hb] at hnot
      exact .of_error (by simp only [hb]; rfl) ⟨rfl, hno⟩ (fun _ he => he.1) fun path hp => hno ⟨path, hp⟩
    | false =>
      refine .of_ok (by simp only [hb]; rfl) (.text hb) ?_ fun fault hf => hf.2 ⟨_, .text hb⟩
      rintro path ⟨⟩
      rfl

theorem settles_readImports (arguments : AnnotationArguments) :
    Settles (readImports arguments) (GivesImports (arguments.get? "imports"))
      (ImportsFault (arguments.get? "imports")) := by
  unfold readImports
  generalize arguments.get? "imports" = value?
  cases value? with
  | none => exact .of_ok rfl .absent (fun | _, .absent => rfl) nofun
  | some value =>
    cases hl : value.list? with
    | none =>
      refine .of_error (by simp only [hl]; rfl) (.noList hl) ?_ ?_
      · rintro fault (_ | _)
        · rfl
        · rfl
      · rintro paths ⟨⟩
        cases hl
    | some values =>
      obtain rfl := AnnotationValue.eq_list hl
      have hread := Settles.mapM settles_readImport values
      simp only [hl]
      constructor
      · intro paths
        rw [hread.ok_iff]
        constructor
        · exact .list
        · rintro (_ | h)
          exact h
      · intro fault
        rw [hread.error_iff]
        constructor
        · rintro ⟨rfl, value, hm, hno⟩
          exact .element hm hno
        · rintro (hnone | ⟨hm, hno⟩)
          · cases hnone
          · exact ⟨rfl, _, hm, hno⟩

theorem settles_readValueType (resolver : Resolver) (converter : Converter) :
    Settles (readValueType resolver converter) (IsValueType (resolver.valueType converter))
      (ValueTypeFault (resolver.valueType converter)) := by
  unfold readValueType
  generalize resolver.valueType converter = type?
  cases type? with
  | none => exact .of_error rfl .noSupertype (fun | _, .noSupertype => rfl) nofun
  | some type =>
    cases hq : type.qualifiedName? with
    | none =>
      refine .of_error (by simp only [TypeReference.isResolved, hq]; rfl) (.unresolved hq) ?_ ?_
      · rintro fault (_ | _)
        rfl
      · rintro found ⟨hknown⟩
        rw [hq] at hknown
        cases hknown
    | some qualifiedName =>
      refine .of_ok (by simp only [TypeReference.isResolved, hq]; rfl) (.known hq) ?_ ?_
      · rintro found ⟨_⟩
        rfl
      · rintro fault (_ | hnone)
        rw [hq] at hnone
        cases hnone

/-! ## The readers in their order -/

/-- The first thing that is wrong with an annotation: what is read before it is as it must be. -/
inductive FirstFault (resolver : Resolver) (annotationName : String) (converter : Converter) :
    RequestError → Prop
  | notAnnotated (ha : resolver.arguments converter annotationName = none) :
    FirstFault resolver annotationName converter (.notAnnotated annotationName)
  | name {arguments : AnnotationArguments} {fault : RequestError}
    (ha : resolver.arguments converter annotationName = some arguments)
    (hf : NameFault (arguments.get? "name") fault) : FirstFault resolver annotationName converter fault
  | types {arguments : AnnotationArguments} {name : String} {fault : RequestError}
    (ha : resolver.arguments converter annotationName = some arguments)
    (hn : GivesName (arguments.get? "name") name)
    (hf : TypesFault (arguments.get? "types") fault) : FirstFault resolver annotationName converter fault
  | imports {arguments : AnnotationArguments} {name : String} {variants : VariantSet} {fault : RequestError}
    (ha : resolver.arguments converter annotationName = some arguments)
    (hn : GivesName (arguments.get? "name") name) (hv : AsksFor (arguments.get? "types") variants)
    (hf : ImportsFault (arguments.get? "imports") fault) : FirstFault resolver annotationName converter fault
  | valueType {arguments : AnnotationArguments} {name : String} {variants : VariantSet}
    {paths : List String} {fault : RequestError}
    (ha : resolver.arguments converter annotationName = some arguments)
    (hn : GivesName (arguments.get? "name") name) (hv : AsksFor (arguments.get? "types") variants)
    (hi : GivesImports (arguments.get? "imports") paths)
    (hf : ValueTypeFault (resolver.valueType converter) fault) :
    FirstFault resolver annotationName converter fault

/-- Whether a request is what arguments ask for. -/
inductive IsAskedFor (resolver : Resolver) (annotationName : String) (converter : Converter) : Request → Prop
  | mk {arguments : AnnotationArguments} {name : String} {variants : VariantSet} {paths : List String}
    {type : TypeReference} (ha : resolver.arguments converter annotationName = some arguments)
    (hn : GivesName (arguments.get? "name") name) (hv : AsksFor (arguments.get? "types") variants)
    (hi : GivesImports (arguments.get? "imports") paths)
    (ht : IsValueType (resolver.valueType converter) type) :
    IsAskedFor resolver annotationName converter
      ⟨name, type, variants, paths, variants.hasChoice, converter⟩

theorem settles_ofConverter (resolver : Resolver) (annotationName : String) (converter : Converter) :
    Settles (ofConverter resolver annotationName converter)
      (IsAskedFor resolver annotationName converter)
      (FirstFault resolver annotationName converter) := by
  unfold ofConverter
  cases ha : resolver.arguments converter annotationName with
  | none =>
    refine .of_error rfl (.notAnnotated ha) ?_ ?_
    · rintro fault (_ | ⟨hsome, _⟩ | ⟨hsome, _, _⟩ | ⟨hsome, _, _, _⟩ | ⟨hsome, _, _, _, _⟩)
      · rfl
      all_goals
        rw [ha] at hsome
        cases hsome
    · rintro request ⟨hsome, _, _, _, _⟩
      rw [ha] at hsome
      cases hsome
  | some arguments =>
    have hall := (settles_readName arguments).bind fun name =>
      (settles_readVariants arguments).bind fun variants =>
        (settles_readImports arguments).bind fun paths =>
          (settles_readValueType resolver converter).bind fun type =>
            Settles.ok (⟨name, type, variants, paths, variants.hasChoice, converter⟩ : Request)
    refine hall.congr (fun request => ?_) fun fault => ?_
    · constructor
      · rintro ⟨name, hn, variants, hv, paths, hi, type, ht, rfl⟩
        exact ⟨ha, hn, hv, hi, ht⟩
      · rintro ⟨hsome, hn, hv, hi, ht⟩
        obtain rfl := Option.some.inj (ha.symm.trans hsome)
        exact ⟨_, hn, _, hv, _, hi, _, ht, rfl⟩
    · constructor
      · rintro (hf | ⟨name, hn, hf | ⟨variants, hv, hf | ⟨paths, hi, hf | ⟨_, _, ⟨⟩⟩⟩⟩⟩)
        · exact .name ha hf
        · exact .types ha hn hf
        · exact .imports ha hn hv hf
        · exact .valueType ha hn hv hi hf
      · rintro (hnone | ⟨hsome, hf⟩ | ⟨hsome, hn, hf⟩ | ⟨hsome, hn, hv, hf⟩ | ⟨hsome, hn, hv, hi, hf⟩)
        · rw [ha] at hnone
          cases hnone
        all_goals obtain rfl := Option.some.inj (ha.symm.trans hsome)
        · exact .inl hf
        · exact .inr ⟨_, hn, .inl hf⟩
        · exact .inr ⟨_, hn, .inr ⟨_, hv, .inl hf⟩⟩
        · exact .inr ⟨_, hn, .inr ⟨_, hv, .inr ⟨_, hi, .inl hf⟩⟩⟩

/-! ## Well-formed annotations -/

section Existence

variable {value? : Option AnnotationValue} {type? : Option TypeReference}

theorem exists_givesName_iff :
    (∃ name, GivesName value? name) ↔ ∃ text, value? = some (.text text) ∧ isBlank text = false := by
  constructor
  · rintro ⟨_, @⟨text, hb⟩⟩
    exact ⟨text, rfl, hb⟩
  · rintro ⟨text, rfl, hb⟩
    exact ⟨_, .text hb⟩

theorem exists_asksFor_iff :
    (∃ variants, AsksFor value? variants) ↔ ∃ values, value? = some (.list values) ∧ values ≠ [] ∧
      ∀ value ∈ values, ∃ name, value.Names name := by
  constructor
  · rintro ⟨_, ⟨hne, hnames, _⟩⟩
    exact ⟨_, rfl, hne, hnames⟩
  · rintro ⟨values, rfl, hne, hnames⟩
    rcases mapM_readVariant_cases values with ⟨-, value, hm, hbad⟩ | ⟨variants, -, hread, -⟩
    · exact absurd (hnames value hm) (readVariant_eq_error_iff.1 hbad)
    · exact ⟨_, .list hne hnames (VariantSet.askedBy_ofVariants hread)⟩

theorem exists_givesImport_iff {value : AnnotationValue} :
    (∃ path, GivesImport value path) ↔ ∃ text, value = .text text ∧ isBlank text = false := by
  constructor
  · rintro ⟨_, @⟨text, hb⟩⟩
    exact ⟨text, rfl, hb⟩
  · rintro ⟨text, rfl, hb⟩
    exact ⟨_, .text hb⟩

theorem exists_givesImports_iff :
    (∃ paths, GivesImports value? paths) ↔ ∀ value, value? = some value →
      ∃ values, value = .list values ∧ ∀ value ∈ values, ∃ text, value = .text text ∧ isBlank text = false := by
  simp only [← exists_givesImport_iff, ← exists_forall₂_iff]
  constructor
  · rintro ⟨paths, _ | @⟨values, _, h⟩⟩ value hv
    · cases hv
    · exact ⟨values, (Option.some.inj hv).symm, paths, h⟩
  · intro h
    cases value? with
    | none => exact ⟨[], .absent⟩
    | some value =>
      obtain ⟨values, rfl, paths, hall⟩ := h value rfl
      exact ⟨paths, .list hall⟩

theorem exists_isValueType_iff :
    (∃ type, IsValueType type? type) ↔
      ∃ type qualifiedName, type? = some type ∧ type.qualifiedName? = some qualifiedName := by
  constructor
  · rintro ⟨type, ⟨hq⟩⟩
    exact ⟨type, _, rfl, hq⟩
  · rintro ⟨type, qualifiedName, rfl, hq⟩
    exact ⟨type, .known hq⟩

end Existence

/-- Whether the arguments of an annotation and the type of the values are as a request needs them. -/
structure WellFormed (arguments : AnnotationArguments) (type? : Option TypeReference) : Prop where
  name : ∃ text, arguments.get? "name" = some (.text text) ∧ isBlank text = false
  types : ∃ values, arguments.get? "types" = some (.list values) ∧ values ≠ [] ∧
    ∀ value ∈ values, ∃ name, value.Names name
  imports : ∀ value, arguments.get? "imports" = some value → ∃ values, value = .list values ∧
    ∀ value ∈ values, ∃ text, value = .text text ∧ isBlank text = false
  valueType : ∃ type qualifiedName, type? = some type ∧ type.qualifiedName? = some qualifiedName

theorem exists_isAskedFor_iff :
    (∃ request, IsAskedFor resolver annotationName converter request) ↔
      ∃ arguments, resolver.arguments converter annotationName = some arguments ∧
        WellFormed arguments (resolver.valueType converter) := by
  constructor
  · rintro ⟨_, ⟨ha, hn, hv, hi, ht⟩⟩
    exact ⟨_, ha, exists_givesName_iff.1 ⟨_, hn⟩, exists_asksFor_iff.1 ⟨_, hv⟩,
      exists_givesImports_iff.1 ⟨_, hi⟩, exists_isValueType_iff.1 ⟨_, ht⟩⟩
  · rintro ⟨arguments, ha, hname, htypes, himports, htype⟩
    obtain ⟨name, hn⟩ := exists_givesName_iff.2 hname
    obtain ⟨variants, hv⟩ := exists_asksFor_iff.2 htypes
    obtain ⟨paths, hi⟩ := exists_givesImports_iff.2 himports
    obtain ⟨type, ht⟩ := exists_isValueType_iff.2 htype
    exact ⟨_, ha, hn, hv, hi, ht⟩

/-! ## What a request looks like -/

/-- What holds of a request that is made from arguments and the type of the values. -/
structure Reflects (request : Request) (arguments : AnnotationArguments) (type? : Option TypeReference)
    (converter : Converter) : Prop where
  name : ∃ text, arguments.get? "name" = some (.text text) ∧ request.name = trim text
  name_ne : request.name ≠ ""
  types : ∃ values, arguments.get? "types" = some (.list values) ∧ request.variants.AskedBy values ∧
    (request.hasChoice = true ↔ ∃ value ∈ values, value.Names "CHOICE")
  variants_ne : request.variants.values ≠ []
  ascending : request.variants.values.Pairwise fun a b => bytes a.name < bytes b.name
  solid : ∀ variant ∈ request.variants.values, '.' ∉ variant.name.toList ∧ isBlank variant.name = false
  /-- No other variant bears the name of a supported one. -/
  supported : ∀ variant ∈ request.variants.values, ∀ known ∈ Variant.supported,
    variant.name = known.name → variant = known
  imports : GivesImports (arguments.get? "imports") request.extraImports
  valueType : type? = some request.valueType ∧ request.valueType.qualifiedName?.isSome = true
  source : request.source = converter

theorem IsAskedFor.reflects {request : Request}
    (h : IsAskedFor resolver annotationName converter request) :
    ∃ arguments, resolver.arguments converter annotationName = some arguments ∧
      request.Reflects arguments (resolver.valueType converter) converter := by
  obtain ⟨ha, hn, hv, hi, ht⟩ := h
  obtain ⟨text, hname, htrim, hsome⟩ := hn.exists_text
  obtain ⟨values, htypes, hasked, hne⟩ := hv.exists_values
  refine ⟨_, ha, ⟨text, hname, htrim⟩, hsome, ⟨values, htypes, hasked, hasked.hasChoice_iff⟩, hne,
    hasked.ascending.imp bytes_lt_bytes_iff.2,
    fun variant hm => ⟨(hasked.solid hm).1, (hasked.solid hm).2.1⟩,
    fun variant hm known hk hname => hasked.eq_supported hm hk hname, hi, ?_, rfl⟩
  generalize resolver.valueType converter = type? at ht
  cases ht with
  | known hq => exact ⟨rfl, by rw [hq]; rfl⟩

/-- **A request is made from a well-formed annotation, else the first fault is told**, and what a request
looks like. -/
theorem ofConverter_settled (resolver : Resolver) (annotationName : String) (converter : Converter) :
    ((∃ request, ofConverter resolver annotationName converter = .ok request) ↔
      ∃ arguments, resolver.arguments converter annotationName = some arguments ∧
        WellFormed arguments (resolver.valueType converter)) ∧
    (∀ fault, ofConverter resolver annotationName converter = .error fault ↔
      FirstFault resolver annotationName converter fault) ∧
    ∀ request, ofConverter resolver annotationName converter = .ok request →
      ∃ arguments, resolver.arguments converter annotationName = some arguments ∧
        request.Reflects arguments (resolver.valueType converter) converter := by
  have h := settles_ofConverter resolver annotationName converter
  refine ⟨?_, h.error_iff, fun request hr => ((h.ok_iff request).1 hr).reflects⟩
  simp only [h.ok_iff]
  exact exists_isAskedFor_iff

def answering (arguments? : Option AnnotationArguments) (type? : Option TypeReference) : Resolver :=
  ⟨fun _ => [], fun _ => none, fun _ _ => arguments?, fun _ => type?⟩

/-- The arguments under which amounts are asked for in some variants. -/
def amountIn (types : List String) : AnnotationArguments :=
  OrderedMap.ofList [("name", .text " amount "), ("types", .list (types.map .text)),
    ("imports", .list [.text " org.shop.Unit "])]

/-- Amounts may be asked for with qualifiers and white space; without a name behind the last point they
are refused, before the missing type of the values is. -/
theorem ofConverter_settled_amount :
    (∃ request, ofConverter (answering (some (amountIn [" Variant.SINGLE ", "CHOICE", "Variant.Map"]))
        (some ⟨"Amount", some "org.shop.Amount", []⟩)) "Builders" default = .ok request ∧
      request.name = "amount" ∧
      request.variants.values = [.choice, .unsupported "Map", .builder .single] ∧
      request.variants.values.Pairwise (fun a b => bytes a.name < bytes b.name)) ∧
    FirstFault (answering (some (amountIn ["SINGLE", " Variant. "])) none) "Builders" default
      (.invalidArgument "types" "a list of converter type names") := by
  constructor
  · obtain ⟨-, -, hreflects⟩ := ofConverter_settled
      (answering (some (amountIn [" Variant.SINGLE ", "CHOICE", "Variant.Map"]))
        (some ⟨"Amount", some "org.shop.Amount", []⟩)) "Builders" default
    obtain ⟨_, _, hr⟩ := hreflects _ (by with_unfolding_all rfl)
    exact ⟨_, by with_unfolding_all rfl, by with_unfolding_all rfl, by with_unfolding_all rfl, hr.ascending⟩
  · obtain ⟨-, hfaults, -⟩ := ofConverter_settled
      (answering (some (amountIn ["SINGLE", " Variant. "])) none) "Builders" default
    exact (hfaults _).1 (by with_unfolding_all rfl)

end Request

end ConverterBuilders
