import ConverterBuilders.Proofs.Spelling

/-!
# The names of requested variants

An element of `types` asks for a variant by its trimmed text, or by what stands behind the last point of
that text.  The variants that are asked for make a set in which each stands under its own name, and no
name is taken for another: what bears the name of a supported variant is that variant.

Main statements:

* `names_text_iff`: the variant of a text has the name by which the text asks for it;
* `readVariant_eq_ok_iff`, `readVariant_eq_error_iff`: which elements are read, and as what;
* `askedBy_ofVariants`: the set of the variants that elements ask for;
* `AskedBy.ascending`, `AskedBy.solid`, `AskedBy.eq_supported`, `AskedBy.hasChoice_iff`: what such a set
  looks like.
-/

namespace ConverterBuilders

open Text

namespace Text

/-- A text with a separator ends in the last one and what stands after it. -/
theorem exists_append_afterLast {sep : Char} {cs : List Char} (h : sep ∈ cs) :
    ∃ front, cs = front ++ sep :: afterLast sep cs := by
  have hsplit := List.takeWhile_append_dropWhile (p := (· ≠ sep)) (l := cs.reverse)
  cases hd : cs.reverse.dropWhile (· ≠ sep) with
  | nil =>
    rw [hd, List.append_nil] at hsplit
    have hnot := not_mem_takeWhile_ne sep cs.reverse
    rw [hsplit, List.mem_reverse] at hnot
    exact absurd h hnot
  | cons c rest =>
    have hhead := List.head?_dropWhile_not (· ≠ sep) cs.reverse
    rw [hd] at hhead
    have hc : c = sep := by simpa using hhead
    subst hc
    refine ⟨rest.reverse, ?_⟩
    rw [hd] at hsplit
    have hreverse := congrArg List.reverse hsplit
    rw [List.reverse_reverse, List.reverse_append, List.reverse_cons, List.append_assoc,
      List.singleton_append] at hreverse
    exact hreverse.symm

/-- The last character of a trimmed text is not white space. -/
theorem isBlankChar_of_trimChars {cs front : List Char} {c : Char}
    (h : trimChars cs = front ++ [c]) : isBlankChar c = false := by
  have hreverse := congrArg List.reverse h
  rw [trimChars, trimEndChars, List.reverse_reverse, List.reverse_append, List.reverse_singleton,
    List.singleton_append] at hreverse
  have hhead := List.head?_dropWhile_not isBlankChar (cs.dropWhile isBlankChar).reverse
  simpa [hreverse] using hhead

end Text

namespace AnnotationValue

/-- Whether an element of `types` asks for a variant by a name, which stands alone or behind a qualifier and
a point. -/
inductive Names : AnnotationValue → String → Prop
  | bare {raw name : String} (htext : trim raw = name) (hpoint : '.' ∉ name.toList) (hname : name ≠ "") :
    Names (.text raw) name
  | qualified {raw qualifier name : String} (htext : trim raw = qualifier ++ "." ++ name)
    (hpoint : '.' ∉ name.toList) (hname : name ≠ "") : Names (.text raw) name

/-- **A text asks for the variant that it is parsed as**, if that has a name. -/
theorem names_text_iff {raw name : String} :
    Names (.text raw) name ↔ name = (Variant.parse raw).name ∧ name ≠ "" := by
  rw [Variant.name_parse, afterLastText]
  constructor
  · intro h
    cases h with
    | bare htext hpoint hname =>
      rw [htext, afterLast_of_not_mem hpoint, String.ofList_toList]
      exact ⟨rfl, hname⟩
    | @qualified _ qualifier _ htext hpoint hname =>
      have hlist : (trim raw).toList = qualifier.toList ++ '.' :: name.toList := by simp [htext]
      rw [hlist, afterLast_append _ hpoint, String.ofList_toList]
      exact ⟨rfl, hname⟩
  · rintro ⟨rfl, hname⟩
    by_cases hp : '.' ∈ (trim raw).toList
    · obtain ⟨front, hfront⟩ := exists_append_afterLast hp
      have htext : trim raw =
          String.ofList front ++ "." ++ String.ofList (afterLast '.' (trim raw).toList) := by
        rw [← String.toList_inj]
        simpa using hfront
      refine .qualified htext ?_ hname
      · rw [String.toList_ofList]
        exact not_mem_afterLast _ _
    · refine .bare ?_ ?_ hname
      · rw [afterLast_of_not_mem hp, String.ofList_toList]
      · rw [String.toList_ofList]
        exact not_mem_afterLast _ _

theorem Names.exists_text {value : AnnotationValue} {name : String} (h : value.Names name) :
    ∃ raw, value = .text raw := by
  cases h with
  | bare => exact ⟨_, rfl⟩
  | qualified => exact ⟨_, rfl⟩

theorem eq_text {value : AnnotationValue} {text : String} (h : value.text? = some text) :
    value = .text text := by
  cases value with
  | text found => rw [Option.some.inj h]
  | boolean _ => cases h
  | integer _ => cases h
  | list _ => cases h

theorem eq_list {value : AnnotationValue} {items : List AnnotationValue} (h : value.list? = some items) :
    value = .list items := by
  cases value with
  | list found => rw [Option.some.inj h]
  | boolean _ => cases h
  | integer _ => cases h
  | text _ => cases h

/-- A name that is asked for has no point and does not end in white space. -/
theorem Names.exists_last {value : AnnotationValue} {name : String} (h : value.Names name) :
    '.' ∉ name.toList ∧ ∃ front c, name.toList = front ++ [c] ∧ isBlankChar c = false := by
  have hlast : ∀ (raw : String) (front : List Char), (trim raw).toList = front ++ name.toList →
      name ≠ "" → ∃ front c, name.toList = front ++ [c] ∧ isBlankChar c = false := by
    intro raw front htext hname
    obtain ⟨rest, c, hc⟩ := (List.eq_nil_or_concat name.toList).resolve_left fun he =>
      hname (String.toList_eq_nil_iff.1 he)
    rw [List.concat_eq_append] at hc
    rw [trim, String.toList_ofList, hc, ← List.append_assoc] at htext
    exact ⟨rest, c, hc, isBlankChar_of_trimChars htext⟩
  cases h with
  | @bare raw _ htext hpoint hname => exact ⟨hpoint, hlast raw [] (by simp [htext]) hname⟩
  | @qualified raw qualifier _ htext hpoint hname =>
    exact ⟨hpoint, hlast raw (qualifier.toList ++ ['.']) (by simp [htext]) hname⟩

theorem Names.isBlank_eq {value : AnnotationValue} {name : String} (h : value.Names name) :
    isBlank name = false := by
  obtain ⟨-, front, c, hname, hc⟩ := h.exists_last
  simp [isBlank, hname, hc]

end AnnotationValue

namespace Request

/-! ## Reading one element -/

theorem readVariant_eq_ok_iff {value : AnnotationValue} {variant : Variant} :
    readVariant value = .ok variant ↔ ∃ name, value.Names name ∧ variant = Variant.ofName name := by
  constructor
  · intro h
    unfold readVariant at h
    split at h
    · cases h
    · rename_i raw hraw
      split at h
      · cases h
      · rename_i hname
        rw [String.isEmpty_iff] at hname
        rw [AnnotationValue.eq_text hraw, ← Except.ok.inj h]
        exact ⟨_, AnnotationValue.names_text_iff.2 ⟨rfl, hname⟩, (Variant.ofName_name_parse raw).symm⟩
  · rintro ⟨name, hname, rfl⟩
    obtain ⟨raw, rfl⟩ := hname.exists_text
    obtain ⟨hparse, hne⟩ := AnnotationValue.names_text_iff.1 hname
    rw [hparse] at hne ⊢
    rw [Variant.ofName_name_parse, readVariant]
    exact if_neg (by rwa [String.isEmpty_iff])

theorem readVariant_eq_error_iff {value : AnnotationValue} :
    readVariant value = .error (.invalidArgument "types" typesExpected) ↔
      ¬ ∃ name, value.Names name := by
  cases hv : readVariant value with
  | error fault =>
    have hnone : ¬ ∃ name, value.Names name := by
      rintro ⟨name, hname⟩
      have hok := readVariant_eq_ok_iff.2 ⟨name, hname, rfl⟩
      rw [hv] at hok
      cases hok
    rw [readVariant_error hv]
    exact iff_of_true rfl hnone
  | ok variant =>
    obtain ⟨name, hname, -⟩ := readVariant_eq_ok_iff.1 hv
    exact iff_of_false nofun (not_not_intro ⟨name, hname⟩)

end Request

/-! ## Sets of variants -/

namespace VariantSet

/-- Whether a set holds exactly the variants that elements ask for, each under its own name. -/
structure AskedBy (variants : VariantSet) (values : List AnnotationValue) : Prop where
  named : ∀ entry ∈ variants.entries, entry.1 = entry.2.name
  mem_iff : ∀ variant, variant ∈ variants.values ↔
    ∃ value ∈ values, ∃ name, value.Names name ∧ variant = Variant.ofName name

variable {variants other : VariantSet} {values : List AnnotationValue}

theorem mem_values {variant : Variant} :
    variant ∈ variants.values ↔ ∃ entry ∈ variants.entries, entry.2 = variant :=
  List.mem_map

/-- The set of variants that are determined by their names. -/
theorem mem_ofVariants {variants : List Variant}
    (hnames : ∀ variant ∈ variants, Variant.ofName variant.name = variant) {entry : String × Variant} :
    entry ∈ (ofVariants variants).entries ↔ entry.1 = entry.2.name ∧ entry.2 ∈ variants := by
  rw [ofVariants, OrderedMap.mem_ofList_iff (eq_of_key hnames), List.mem_map]
  constructor
  · rintro ⟨variant, hv, rfl⟩
    exact ⟨rfl, hv⟩
  · rintro ⟨hname, hv⟩
    exact ⟨entry.2, hv, Prod.ext hname.symm rfl⟩

/-- **The variants that elements are read as make the set that these ask for.** -/
theorem askedBy_ofVariants {variants : List Variant}
    (h : ∀ variant, variant ∈ variants ↔ ∃ value ∈ values, Request.readVariant value = .ok variant) :
    (ofVariants variants).AskedBy values := by
  have hnames : ∀ variant ∈ variants, Variant.ofName variant.name = variant := by
    intro variant hm
    obtain ⟨value, -, hv⟩ := (h variant).1 hm
    exact Request.ofName_of_readVariant hv
  refine ⟨fun entry he => ((mem_ofVariants hnames).1 he).1, fun variant => ?_⟩
  simp only [← Request.readVariant_eq_ok_iff, ← h, mem_values, mem_ofVariants hnames]
  constructor
  · rintro ⟨entry, ⟨-, hm⟩, rfl⟩
    exact hm
  · intro hm
    exact ⟨(variant.name, variant), ⟨rfl, hm⟩, rfl⟩

namespace AskedBy

/-- Elements ask for one set. -/
theorem eq (h : variants.AskedBy values) (ho : other.AskedBy values) : variants = other := by
  have hentry : ∀ {set : VariantSet}, set.AskedBy values → ∀ entry : String × Variant,
      entry ∈ set.entries ↔ entry.1 = entry.2.name ∧ entry.2 ∈ set.values := by
    intro set hs entry
    constructor
    · intro he
      exact ⟨hs.named entry he, mem_values.2 ⟨entry, he, rfl⟩⟩
    · rintro ⟨hname, hm⟩
      obtain ⟨found, hf, hvariant⟩ := mem_values.1 hm
      have hsame : found = entry := Prod.ext (by rw [hs.named found hf, hname, hvariant]) hvariant
      exact hsame ▸ hf
  refine OrderedMap.eq_of_entries
    (OrderedMap.eq_of_ascending Prod.fst variants.ascending other.ascending fun entry => ?_)
  rw [hentry h, hentry ho, h.mem_iff, ho.mem_iff]

/-- **The names of the variants ascend strictly.** -/
theorem ascending (h : variants.AskedBy values) :
    variants.values.Pairwise fun a b => a.name < b.name := by
  rw [OrderedMap.values, List.pairwise_map]
  refine (List.Pairwise.and_mem.1 variants.ascending).imp fun {a b} hab => ?_
  rw [← h.named a hab.1, ← h.named b hab.2.1]
  exact compareOfLessAndEq_eq_lt.1 hab.2.2

/-- A variant is what bears its name, and some element asks for it by this name. -/
theorem exists_names (h : variants.AskedBy values) {variant : Variant} (hv : variant ∈ variants.values) :
    Variant.ofName variant.name = variant ∧ ∃ value ∈ values, value.Names variant.name := by
  obtain ⟨value, hm, name, hname, rfl⟩ := (h.mem_iff variant).1 hv
  rw [Variant.name_ofName]
  exact ⟨rfl, value, hm, hname⟩

/-- **No name holds a point, is blank or ends in white space.** -/
theorem solid (h : variants.AskedBy values) {variant : Variant} (hv : variant ∈ variants.values) :
    '.' ∉ variant.name.toList ∧ isBlank variant.name = false ∧
      ∃ front c, variant.name.toList = front ++ [c] ∧ isBlankChar c = false := by
  obtain ⟨-, value, -, hname⟩ := h.exists_names hv
  exact ⟨hname.exists_last.1, hname.isBlank_eq, hname.exists_last.2⟩

/-- **What bears the name of a supported variant is that variant.** -/
theorem eq_supported (h : variants.AskedBy values) {variant supported : Variant}
    (hv : variant ∈ variants.values) (hs : supported ∈ Variant.supported)
    (hname : variant.name = supported.name) : variant = supported := by
  have hown : ∀ known ∈ Variant.supported, Variant.ofName known.name = known := by decide +kernel
  rw [← (h.exists_names hv).1, hname, hown supported hs]

/-- **The choice form is asked for if some element names it.** -/
theorem hasChoice_iff (h : variants.AskedBy values) :
    variants.hasChoice = true ↔ ∃ value ∈ values, value.Names "CHOICE" := by
  have hchoice : Variant.ofName "CHOICE" = .choice := by decide +kernel
  rw [hasChoice, OrderedMap.contains, Option.isSome_iff_exists]
  constructor
  · rintro ⟨variant, hget⟩
    have hentry := (OrderedMap.get?_eq_some_iff _).1 hget
    obtain ⟨-, value, hm, hname⟩ := h.exists_names (mem_values.2 ⟨_, hentry, rfl⟩)
    rw [← h.named _ hentry] at hname
    exact ⟨value, hm, hname⟩
  · rintro ⟨value, hm, hname⟩
    obtain ⟨entry, he, hvariant⟩ :=
      mem_values.1 ((h.mem_iff .choice).2 ⟨value, hm, "CHOICE", hname, hchoice.symm⟩)
    have hkey := h.named entry he
    rw [hvariant] at hkey
    exact ⟨entry.2, (OrderedMap.get?_eq_some_iff _).2 (hkey ▸ he)⟩

end AskedBy

end VariantSet

end ConverterBuilders
