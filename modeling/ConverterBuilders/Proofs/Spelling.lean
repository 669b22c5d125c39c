import ConverterBuilders.Proofs.MapEntries
import ConverterBuilders.Request

/-!
# Spellings of the requested variants

The argument `types` is a list, but what it asks for is a set of variants.  The order and the repetitions
of its elements do not count, and neither does how an element spells its variant, also where some element
asks for nothing and the list is refused.

Main statements:

* `parse_of_blanks`, `parse_qualified`, `parse_bare`: white space around a variant and its qualifier do
  not count;
* `askAlike_of_same_elements`, `askAlike_of_spelling`: when two lists ask for the same;
* `mapM_readVariant_cases`: what elements are read as;
* `readVariants_congr`: lists that ask for the same are read alike.
-/

namespace ConverterBuilders

open Text

/-! ## Spellings of a variant -/

namespace Variant

/-- **White space around a variant does not count.** -/
theorem parse_of_blanks {front back : String} (hf : isBlank front = true) (hb : isBlank back = true)
    (raw : String) : parse (front ++ raw ++ back) = parse raw := by
  have htrim : trim (front ++ raw ++ back) = trim raw := by
    rw [trim, String.toList_append, String.toList_append, trimChars_append_of_all hf hb, trim]
  rw [parse, htrim, parse]

/-- **What stands in front of the last point does not count.** -/
theorem parse_qualified (qualifier : String) {name : String} (h : '.' ∉ name.toList) :
    parse (qualifier ++ "." ++ name) = ofName (String.ofList (trimEndChars name.toList)) := by
  have hpoint : isBlankChar '.' = false := by decide
  have hend : '.' ∉ trimEndChars name.toList := fun hm =>
    h (List.mem_reverse.1 ((List.dropWhile_sublist _).mem (List.mem_reverse.1 hm)))
  have hchars : ∃ front, trimChars (qualifier ++ "." ++ name).toList =
      front ++ '.' :: trimEndChars name.toList := by
    have happ : (qualifier ++ "." ++ name).toList = qualifier.toList ++ '.' :: name.toList := by
      simp
    rw [happ, trimChars, List.dropWhile_append]
    split
    · rw [List.dropWhile_cons_of_neg (by simp [hpoint])]
      exact ⟨[], trimEndChars_append_cons hpoint [] _⟩
    · exact ⟨_, trimEndChars_append_cons hpoint _ _⟩
  obtain ⟨front, hfront⟩ := hchars
  rw [parse, trim, hfront, afterLastText, String.toList_ofList, afterLast_append front hend]

/-- A name in front of which nothing stands asks for the same as with a qualifier. -/
theorem parse_bare (qualifier : String) {name : String} (h : '.' ∉ name.toList)
    (ht : trim name = name) : parse name = parse (qualifier ++ "." ++ name) := by
  have hchars : trimChars name.toList = name.toList := by
    have htext := congrArg String.toList ht
    rwa [trim, String.toList_ofList] at htext
  have hend : trimEndChars name.toList = name.toList := by
    rw [← hchars, trimChars, trimEndChars_trimEndChars]
  rw [parse_qualified qualifier h, hend, parse, ht, afterLastText, afterLast_of_not_mem h]

theorem ofName_name_parse (raw : String) : ofName (parse raw).name = parse raw := by
  rw [name_parse, parse]

end Variant

namespace VariantSet

/-- Among variants that are determined by their names, none has the key of another. -/
theorem eq_of_key {variants : List Variant}
    (hnames : ∀ variant ∈ variants, Variant.ofName variant.name = variant) :
    ∀ a ∈ variants.map (fun variant => (variant.name, variant)),
      ∀ b ∈ variants.map (fun variant => (variant.name, variant)), b.1 = a.1 → b = a := by
  intro a ha b hb hkey
  obtain ⟨variant, hv, rfl⟩ := List.mem_map.1 ha
  obtain ⟨other, ho, rfl⟩ := List.mem_map.1 hb
  have hname : other.name = variant.name := hkey
  rw [← hnames variant hv, ← hnames other ho, hname]

/-- The same variants make the same set in any order and with any repetitions. -/
theorem ofVariants_congr {left right : List Variant}
    (hnames : ∀ variant ∈ left, Variant.ofName variant.name = variant)
    (h : ∀ variant, variant ∈ left ↔ variant ∈ right) : ofVariants left = ofVariants right := by
  refine OrderedMap.ofList_congr (eq_of_key hnames) fun entry => ?_
  simp only [List.mem_map, h]

end VariantSet

/-! ## Values that ask for the same -/

namespace AnnotationValue

/-- Whether two elements of `types` are equal or spell the same variant. -/
inductive SpeltAlike : AnnotationValue → AnnotationValue → Prop
  | refl (value : AnnotationValue) : SpeltAlike value value
  | text {left right : String} (h : Variant.parse left = Variant.parse right) :
    SpeltAlike (.text left) (.text right)

namespace SpeltAlike

/-- White space around a text may be added. -/
theorem blanks {front back : String} (hf : isBlank front = true) (hb : isBlank back = true)
    (raw : String) : SpeltAlike (.text raw) (.text (front ++ raw ++ back)) :=
  .text (Variant.parse_of_blanks hf hb raw).symm

/-- One qualifier may be put for another. -/
theorem qualified (qualifier other : String) {name : String} (h : '.' ∉ name.toList) :
    SpeltAlike (.text (qualifier ++ "." ++ name)) (.text (other ++ "." ++ name)) :=
  .text ((Variant.parse_qualified qualifier h).trans (Variant.parse_qualified other h).symm)

/-- A qualifier may be added. -/
theorem bare (qualifier : String) {name : String} (h : '.' ∉ name.toList) (ht : trim name = name) :
    SpeltAlike (.text name) (.text (qualifier ++ "." ++ name)) :=
  .text (Variant.parse_bare qualifier h ht)

end SpeltAlike

/-- Whether two values of `types` are equal, or lists in which each element of one is spelt like one of
the other. -/
inductive AskAlike : AnnotationValue → AnnotationValue → Prop
  | refl (value : AnnotationValue) : AskAlike value value
  | list {left right : List AnnotationValue}
    (hleft : ∀ value ∈ left, ∃ other ∈ right, SpeltAlike value other)
    (hright : ∀ other ∈ right, ∃ value ∈ left, SpeltAlike value other) :
    AskAlike (.list left) (.list right)

/-- Lists with the same elements ask for the same. -/
theorem askAlike_of_same_elements {left right : List AnnotationValue}
    (h : ∀ value, value ∈ left ↔ value ∈ right) : AskAlike (.list left) (.list right) :=
  .list (fun value hv => ⟨value, (h value).1 hv, .refl value⟩)
    fun value hv => ⟨value, (h value).2 hv, .refl value⟩

/-- Lists whose elements are spelt alike one by one ask for the same. -/
theorem askAlike_of_spelling {left right : List AnnotationValue}
    (h : List.Forall₂ SpeltAlike left right) : AskAlike (.list left) (.list right) := by
  have hboth : (∀ value ∈ left, ∃ other ∈ right, SpeltAlike value other) ∧
      ∀ other ∈ right, ∃ value ∈ left, SpeltAlike value other := by
    induction h with
    | nil => simp
    | cons hspelt _ ih =>
      refine ⟨?_, ?_⟩
      · intro value hv
        rcases List.mem_cons.1 hv with rfl | hv
        · exact ⟨_, List.mem_cons_self .., hspelt⟩
        · obtain ⟨other, ho, halike⟩ := ih.1 value hv
          exact ⟨other, List.mem_cons_of_mem _ ho, halike⟩
      · intro other ho
        rcases List.mem_cons.1 ho with rfl | ho
        · exact ⟨_, List.mem_cons_self .., hspelt⟩
        · obtain ⟨value, hv, halike⟩ := ih.2 other ho
          exact ⟨value, List.mem_cons_of_mem _ hv, halike⟩
  exact .list hboth.1 hboth.2

end AnnotationValue

namespace Request

/-! ## Reading the variants -/

theorem readVariant_congr {left right : AnnotationValue} (h : left.SpeltAlike right) :
    readVariant left = readVariant right := by
  cases h with
  | refl => rfl
  | text h => simp only [readVariant, AnnotationValue.text?, h]

/-- An element that is refused is refused as all such elements are. -/
theorem readVariant_error {value : AnnotationValue} {fault : RequestError}
    (h : readVariant value = .error fault) : fault = .invalidArgument "types" typesExpected := by
  unfold readVariant at h
  split at h
  · exact (Except.error.inj h).symm
  · split at h
    · exact (Except.error.inj h).symm
    · cases h

/-- An element is read as the variant of its name. -/
theorem ofName_of_readVariant {value : AnnotationValue} {variant : Variant}
    (h : readVariant value = .ok variant) : Variant.ofName variant.name = variant := by
  unfold readVariant at h
  split at h
  · cases h
  · split at h
    · cases h
    · rw [← Except.ok.inj h]
      exact Variant.ofName_name_parse _

/-- Lists that ask for the same have elements that are read alike. -/
theorem exists_readVariant_iff {left right : List AnnotationValue}
    (hleft : ∀ value ∈ left, ∃ other ∈ right, value.SpeltAlike other)
    (hright : ∀ other ∈ right, ∃ value ∈ left, value.SpeltAlike other)
    (result : Except RequestError Variant) :
    (∃ value ∈ left, readVariant value = result) ↔ ∃ other ∈ right, readVariant other = result := by
  constructor
  · rintro ⟨value, hv, hr⟩
    obtain ⟨other, ho, hspelt⟩ := hleft value hv
    exact ⟨other, ho, (readVariant_congr hspelt).symm.trans hr⟩
  · rintro ⟨other, ho, hr⟩
    obtain ⟨value, hv, hspelt⟩ := hright other ho
    exact ⟨value, hv, (readVariant_congr hspelt).trans hr⟩

/-- **Elements are refused if one of them is, and else they are read as their variants.** -/
theorem mapM_readVariant_cases (values : List AnnotationValue) :
    (values.mapM readVariant = .error (.invalidArgument "types" typesExpected) ∧
      ∃ value ∈ values, readVariant value = .error (.invalidArgument "types" typesExpected)) ∨
    ∃ variants, values.mapM readVariant = .ok variants ∧
      (∀ variant, variant ∈ variants ↔ ∃ value ∈ values, readVariant value = .ok variant) ∧
      ¬ ∃ value ∈ values, readVariant value = .error (.invalidArgument "types" typesExpected) := by
  induction values with
  | nil => exact .inr ⟨[], rfl, by simp, by simp⟩
  | cons value rest ih =>
    rw [List.mapM_cons]
    cases hv : readVariant value with
    | error fault =>
      have hfault := readVariant_error hv
      subst hfault
      exact .inl ⟨rfl, value, List.mem_cons_self .., hv⟩
    | ok variant =>
      rcases ih with ⟨hrest, other, ho, hbad⟩ | ⟨variants, hrest, hread, hgood⟩
      · rw [hrest]
        exact .inl ⟨rfl, other, List.mem_cons_of_mem _ ho, hbad⟩
      · rw [hrest]
        refine .inr ⟨variant :: variants, rfl, fun found => ?_, ?_⟩
        · simp [hv, hread, eq_comm]
        · simpa [hv] using hgood

/-- **Arguments whose `types` ask for the same are read as the same set of variants**, or refused for the
same fault. -/
theorem readVariants_congr {left right : AnnotationArguments}
    (h : Option.Rel AnnotationValue.AskAlike (left.get? "types") (right.get? "types")) :
    readVariants left = readVariants right := by
  unfold readVariants required
  generalize left.get? "types" = value? at h
  generalize right.get? "types" = other? at h
  cases h with
  | none => rfl
  | some h =>
    cases h with
    | refl => rfl
    | @list values others hleft hright =>
      have hiff := exists_readVariant_iff hleft hright
      simp only [AnnotationValue.list?, bind, Except.bind]
      rcases mapM_readVariant_cases values with ⟨hv, hbad⟩ | ⟨variants, hv, hread, hgood⟩ <;>
        rcases mapM_readVariant_cases others with ⟨ho, hbad'⟩ | ⟨found, ho, hread', hgood'⟩
      · rw [hv, ho]
      · exact absurd ((hiff _).1 hbad) hgood'
      · exact absurd ((hiff _).2 hbad') hgood
      · have hsame : ∀ variant, variant ∈ variants ↔ variant ∈ found := fun variant => by
          rw [hread, hread', hiff]
        have hempty : variants.isEmpty = found.isEmpty := by
          rw [Bool.eq_iff_iff, List.isEmpty_iff, List.isEmpty_iff, List.eq_nil_iff_forall_not_mem,
            List.eq_nil_iff_forall_not_mem]
          simp only [hsame]
        have hset : VariantSet.ofVariants variants = VariantSet.ofVariants found := by
          refine VariantSet.ofVariants_congr (fun variant hm => ?_) hsame
          obtain ⟨_, _, hr⟩ := (hread variant).1 hm
          exact ofName_of_readVariant hr
        simp only [hv, ho, hempty, hset]

end Request

end ConverterBuilders
