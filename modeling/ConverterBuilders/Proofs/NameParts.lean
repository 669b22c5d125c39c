import ConverterBuilders.Declaration
import ConverterBuilders.Proofs.Pieces

/-!
# The parts of names

What a qualified name is can be said without a reader: it is a row of identifiers with points between
them.  A name in a package begins with the identifiers of the package, and behind them stand those of the
declarations around it and its own.

Main statements:

* `isIdentifier_iff`, `isValid_iff_dotted`: the tests of the reader against what they test for;
* `split_intercalate`: joined pieces are cut apart again;
* `composed_of_isInside`: the parts of a name inside a package.
-/

namespace ConverterBuilders

namespace Text

variable {sep : Char}

theorem split_append_cons_of_not_mem {front : List Char} (h : sep ∉ front) (back : List Char) :
    split sep (front ++ sep :: back) = front :: split sep back := by
  rw [split_append, split_of_not_mem h, List.singleton_append]

/-- **Joined pieces are cut apart again**, if none of them holds the separator. -/
theorem split_intercalate {pieces : List (List Char)} (hne : pieces ≠ [])
    (h : ∀ piece ∈ pieces, sep ∉ piece) : split sep (List.intercalate [sep] pieces) = pieces := by
  induction pieces with
  | nil => exact absurd rfl hne
  | cons piece pieces ih =>
    have hpiece : sep ∉ piece := h piece (List.mem_cons_self ..)
    cases pieces with
    | nil =>
      rw [List.intercalate_singleton]
      exact split_of_not_mem hpiece
    | cons next others =>
      have hothers := ih (List.cons_ne_nil _ _) fun other ho => h other (List.mem_cons_of_mem _ ho)
      rw [List.intercalate_cons_cons, List.append_assoc, List.singleton_append,
        split_append_cons_of_not_mem hpiece, hothers]

theorem intercalate_append {front back : List (List Char)} (hf : front ≠ []) (hb : back ≠ []) :
    List.intercalate [sep] (front ++ back) =
      List.intercalate [sep] front ++ sep :: List.intercalate [sep] back := by
  obtain ⟨first, others, rfl⟩ := List.exists_cons_of_ne_nil hb
  induction front with
  | nil => exact absurd rfl hf
  | cons piece pieces ih =>
    cases pieces with
    | nil => simp [List.intercalate_cons_cons, List.intercalate_singleton]
    | cons next rest =>
      have hrest := ih (List.cons_ne_nil _ _)
      simp only [List.cons_append] at hrest ⊢
      rw [List.intercalate_cons_cons, hrest, List.intercalate_cons_cons]
      simp

/-- What stands after the last separator of joined pieces is the last of them. -/
theorem afterLast_intercalate {last : List Char} (h : sep ∉ last) (front : List (List Char)) :
    afterLast sep (List.intercalate [sep] (front ++ [last])) = last := by
  cases front with
  | nil =>
    rw [List.nil_append, List.intercalate_singleton]
    exact afterLast_of_not_mem h
  | cons piece pieces =>
    rw [intercalate_append (List.cons_ne_nil _ _) (List.cons_ne_nil _ _), List.intercalate_singleton]
    exact afterLast_append _ h

end Text

namespace QualifiedName

open Text

/-! ## Identifiers and rows of them -/

def IsLetter (c : Char) : Prop := 'A' ≤ c ∧ c ≤ 'Z' ∨ 'a' ≤ c ∧ c ≤ 'z' ∨ c = '_'

def IsDigit (c : Char) : Prop := '0' ≤ c ∧ c ≤ '9'

/-- A letter or underscore with letters, underscores and digits behind it. -/
structure Identifier (cs : List Char) : Prop where
  first : ∃ c, cs.head? = some c ∧ IsLetter c
  parts : ∀ c ∈ cs, IsLetter c ∨ IsDigit c

def joined (names : List (List Char)) : String := String.ofList (List.intercalate ['.'] names)

def Dotted (s : String) : Prop :=
  ∃ names, names ≠ [] ∧ (∀ name ∈ names, Identifier name) ∧ s = joined names

theorem isStart_iff {c : Char} : isStart c = true ↔ IsLetter c := by
  unfold isStart Char.isAlpha Char.isUpper Char.isLower
  simp only [Bool.or_eq_true, Bool.and_eq_true, decide_eq_true_eq, ge_iff_le, IsLetter, Char.le_def]
  constructor
  · rintro ((h | h) | h)
    · exact .inl h
    · exact .inr (.inl h)
    · exact .inr (.inr h)
  · rintro (h | h | h)
    · exact .inl (.inl h)
    · exact .inl (.inr h)
    · exact .inr h

theorem isPart_iff {c : Char} : isPart c = true ↔ IsLetter c ∨ IsDigit c := by
  rw [← isStart_iff]
  simp only [isPart, isStart, Char.isAlphanum, Char.isDigit, Bool.or_eq_true, Bool.and_eq_true,
    decide_eq_true_eq, IsDigit, Char.le_def]
  exact or_right_comm

/-- **An identifier passes the test for one, and nothing else does.** -/
theorem isIdentifier_iff {cs : List Char} : isIdentifier cs = true ↔ Identifier cs := by
  cases cs with
  | nil =>
    constructor
    · intro h
      cases h
    · rintro ⟨⟨c, hc, _⟩, _⟩
      cases hc
  | cons c rest =>
    simp only [isIdentifier, Bool.and_eq_true, List.all_eq_true, isStart_iff, isPart_iff]
    constructor
    · rintro ⟨hc, hrest⟩
      refine ⟨⟨c, rfl, hc⟩, fun d hd => ?_⟩
      rcases List.mem_cons.1 hd with rfl | hd
      · exact .inl hc
      · exact hrest d hd
    · rintro ⟨⟨d, hd, hletter⟩, hparts⟩
      cases hd
      exact ⟨hletter, fun d hd => hparts d (List.mem_cons_of_mem _ hd)⟩

theorem Identifier.no_point {cs : List Char} (h : Identifier cs) : '.' ∉ cs :=
  (not_mem_of_isIdentifier (isIdentifier_iff.2 h)).1

theorem joined_ne_empty {names : List (List Char)} (hne : names ≠ [])
    (h : ∀ name ∈ names, Identifier name) : joined names ≠ "" := by
  intro he
  have hnil : List.intercalate ['.'] names = [] := by
    have hlist := congrArg String.toList he
    simpa [joined] using hlist
  have hsplit := split_intercalate hne fun name hn => (h name hn).no_point
  rw [hnil] at hsplit
  obtain ⟨⟨c, hc, _⟩, _⟩ := h [] (by rw [← hsplit]; exact List.mem_cons_self ..)
  cases hc

/-- **A row of identifiers passes the test for a name, and nothing else does.** -/
theorem isValid_iff_dotted {s : String} : isValid s = true ↔ Dotted s := by
  rw [isValid_iff]
  constructor
  · intro h
    refine ⟨split '.' s.toList, split_ne_nil _ _, fun name hn => isIdentifier_iff.1 (h name hn), ?_⟩
    rw [joined, intercalate_split, String.ofList_toList]
  · rintro ⟨names, hne, hnames, rfl⟩
    rw [joined, String.toList_ofList, split_intercalate hne fun name hn => (hnames name hn).no_point]
    exact fun name hn => isIdentifier_iff.2 (hnames name hn)

end QualifiedName

/-! ## Names in packages -/

namespace Declaration

open Text QualifiedName

/-- Whether the name of a declaration begins with its package and a point; the package without a name
holds every declaration. -/
def InPackage (declaration : Declaration) : Prop :=
  declaration.package = "" ∨
    ∃ rest, declaration.qualifiedName = declaration.package ++ "." ++ rest

/-- How the names of a declaration are put together: the package, the declarations around it, and its own
simple name, all of identifiers. -/
structure Composed (declaration : Declaration) : Prop where
  name : Dotted declaration.qualifiedName
  package : declaration.package = "" ∨ Dotted declaration.package ∧
    ∃ rest, rest ≠ "" ∧ declaration.qualifiedName = declaration.package ++ "." ++ rest
  parts : ∃ packageNames outerNames simple,
    (∀ name ∈ packageNames ++ outerNames ++ [simple], Identifier name) ∧
    declaration.package = joined packageNames ∧
    declaration.qualifiedName = joined (packageNames ++ outerNames ++ [simple]) ∧
    declaration.simpleName = String.ofList simple

theorem isInside_iff_inPackage {declaration : Declaration} :
    isInside declaration.package declaration.qualifiedName = true ↔ declaration.InPackage := by
  simp only [isInside, startsWith, Bool.or_eq_true, String.isEmpty_iff, List.isPrefixOf_iff_prefix,
    InPackage]
  refine or_congr_right ⟨?_, ?_⟩
  · rintro ⟨rest, hrest⟩
    refine ⟨String.ofList rest, ?_⟩
    rw [← String.toList_inj, ← hrest]
    simp [String.toList_append]
  · rintro ⟨rest, hrest⟩
    refine ⟨rest.toList, ?_⟩
    rw [hrest]
    simp [String.toList_append]

/-- The parts of a name behind a front of it that ends at a point. -/
theorem parts_of_append {declaration : Declaration} (packageNames : List (List Char))
    {names : List (List Char)}
    (hp : declaration.package = joined packageNames) (hne : names ≠ [])
    (hids : ∀ name ∈ packageNames ++ names, Identifier name)
    (hname : declaration.qualifiedName = joined (packageNames ++ names)) :
    ∃ packageNames outerNames simple,
      (∀ name ∈ packageNames ++ outerNames ++ [simple], Identifier name) ∧
      declaration.package = joined packageNames ∧
      declaration.qualifiedName = joined (packageNames ++ outerNames ++ [simple]) ∧
      declaration.simpleName = String.ofList simple := by
  obtain ⟨outerNames, simple, rfl⟩ := (List.eq_nil_or_concat names).resolve_left hne
  rw [List.concat_eq_append, ← List.append_assoc] at hids hname
  refine ⟨packageNames, outerNames, simple, hids, hp, hname, ?_⟩
  have hpoint : '.' ∉ simple :=
    (hids simple (List.mem_append_right _ (List.mem_singleton_self _))).no_point
  rw [simpleName, QualifiedName.simpleName, afterLastText, hname, joined, String.toList_ofList,
    afterLast_intercalate hpoint]

/-- **A valid name inside its package is made of these parts.** -/
theorem composed_of_isInside {declaration : Declaration}
    (hv : isValid declaration.qualifiedName = true)
    (hi : isInside declaration.package declaration.qualifiedName = true) : declaration.Composed := by
  have hdotted := isValid_iff_dotted.1 hv
  by_cases hempty : declaration.package = ""
  · obtain ⟨names, hne, hids, hname⟩ := id hdotted
    exact ⟨hdotted, .inl hempty, parts_of_append [] hempty hne hids hname⟩
  · obtain ⟨rest, hrest⟩ := exists_of_isInside hi hempty
    have hpieces : split '.' declaration.qualifiedName.toList =
        split '.' declaration.package.toList ++ split '.' rest := by
      rw [hrest, split_append]
    have hids : ∀ name ∈ split '.' declaration.package.toList ++ split '.' rest,
        Identifier name := by
      intro name hn
      rw [← hpieces] at hn
      exact isIdentifier_iff.1 (isValid_iff.1 hv name hn)
    have hpackage : declaration.package = joined (split '.' declaration.package.toList) := by
      rw [joined, intercalate_split, String.ofList_toList]
    have hname : declaration.qualifiedName =
        joined (split '.' declaration.package.toList ++ split '.' rest) := by
      rw [← hpieces, joined, intercalate_split, String.ofList_toList]
    have hrow : Dotted declaration.package :=
      ⟨_, split_ne_nil _ _, fun name hn => hids name (List.mem_append_left _ hn), hpackage⟩
    refine ⟨hdotted, .inr ⟨hrow, String.ofList rest, ?_, ?_⟩,
      parts_of_append _ hpackage (split_ne_nil _ _) hids hname⟩
    · have hback : joined (split '.' rest) ≠ "" :=
        joined_ne_empty (split_ne_nil _ _) fun name hn => hids name (List.mem_append_right _ hn)
      rwa [joined, intercalate_split] at hback
    · rw [← String.toList_inj, hrest]
      simp [String.toList_append]

end Declaration

end ConverterBuilders
