import ConverterBuilders.QualifiedName
import Mathlib.Data.List.Basic

/-!
# The pieces of texts and names

Cutting a text at a separator and putting two cut texts side by side go well together, and the pieces of
a qualified name are identifiers.

Main statements:

* `split_append`: the pieces of two texts with the separator between them;
* `split_append_of_not_mem`: characters in front of a text belong to its first piece;
* `afterLast_mem_split`: what stands after the last separator is a piece;
* `pieces_of_isInside`: a package around a valid name is itself one, and the last part of the name is an
  identifier.
-/

namespace ConverterBuilders

namespace Text

variable {sep : Char}

theorem split_append (front back : List Char) :
    split sep (front ++ sep :: back) = split sep front ++ split sep back := by
  induction front with
  | nil => simp [split]
  | cons c front ih =>
    by_cases hc : c = sep
    · simp [split, hc, ih]
    · obtain ⟨piece, pieces, hp, hs⟩ := split_cons_of_ne hc front
      have hp' : split sep (front ++ sep :: back) = piece :: (pieces ++ split sep back) := by
        rw [ih, hp, List.cons_append]
      rw [hs, List.cons_append, split, if_neg hc, hp']
      rfl

/-- Characters in front of a text that are no separators belong to its first piece. -/
theorem split_append_of_not_mem {front : List Char} (h : sep ∉ front) (back : List Char) :
    ∃ piece pieces, split sep back = piece :: pieces ∧
      split sep (front ++ back) = (front ++ piece) :: pieces := by
  induction front with
  | nil =>
    obtain ⟨piece, pieces, hp⟩ := List.exists_cons_of_ne_nil (split_ne_nil sep back)
    exact ⟨piece, pieces, hp, hp⟩
  | cons c front ih =>
    simp only [List.mem_cons, not_or] at h
    obtain ⟨piece, pieces, hp, hs⟩ := ih h.2
    refine ⟨piece, pieces, hp, ?_⟩
    rw [List.cons_append, split, if_neg (Ne.symm h.1), hs]
    rfl

theorem split_of_not_mem {cs : List Char} (h : sep ∉ cs) : split sep cs = [cs] := by
  obtain ⟨piece, pieces, hp, hs⟩ := split_append_of_not_mem h []
  cases hp
  simpa using hs

/-- A piece has its characters from the text. -/
theorem mem_of_mem_split {c : Char} {cs piece : List Char} (h : piece ∈ split sep cs)
    (hc : c ∈ piece) : c ∈ cs := by
  induction cs generalizing piece with
  | nil =>
    have hnil : piece = [] := by simpa [split] using h
    rw [hnil] at hc
    cases hc
  | cons d rest ih =>
    by_cases hd : d = sep
    · simp only [split, hd, ↓reduceIte, List.mem_cons] at h
      rcases h with rfl | h
      · cases hc
      · exact List.mem_cons_of_mem _ (ih h hc)
    · obtain ⟨first, others, hp, hs⟩ := split_cons_of_ne hd rest
      rw [hs] at h
      rcases List.mem_cons.mp h with rfl | h
      · rcases List.mem_cons.mp hc with rfl | hc
        · exact List.mem_cons_self ..
        · exact List.mem_cons_of_mem _ (ih (by rw [hp]; exact List.mem_cons_self ..) hc)
      · exact List.mem_cons_of_mem _ (ih (by rw [hp]; exact List.mem_cons_of_mem _ h) hc)

/-- What stands after the last separator is a piece. -/
theorem afterLast_mem_split (cs : List Char) : afterLast sep cs ∈ split sep cs := by
  by_cases h : sep ∈ cs
  · obtain ⟨back, front, hr, hnot⟩ := List.eq_append_cons_of_mem (List.mem_reverse.mpr h)
    have hcs : cs = front.reverse ++ sep :: back.reverse := by
      rw [← List.reverse_reverse cs, hr]
      simp
    have hback : sep ∉ back.reverse := by simpa using hnot
    rw [hcs, afterLast_append _ hback, split_append, split_of_not_mem hback]
    simp
  · rw [afterLast_of_not_mem h, split_of_not_mem h]
    exact List.mem_singleton_self _

end Text

namespace QualifiedName

open Text

/-! ## Identifiers -/

theorem isPart_of_isStart {c : Char} (h : isStart c = true) : isPart c = true := by
  unfold isStart at h
  unfold isPart Char.isAlphanum
  simp only [Bool.or_eq_true] at h ⊢
  rcases h with h | h
  · exact .inl (.inl h)
  · exact .inr h

theorem isPart_of_mem {cs : List Char} (h : isIdentifier cs = true) {c : Char} (hc : c ∈ cs) :
    isPart c = true := by
  cases cs with
  | nil => cases hc
  | cons first rest =>
    simp only [isIdentifier, Bool.and_eq_true, List.all_eq_true] at h
    rcases List.mem_cons.mp hc with rfl | hc
    · exact isPart_of_isStart h.1
    · exact h.2 c hc

theorem ne_nil_of_isIdentifier {cs : List Char} (h : isIdentifier cs = true) : cs ≠ [] := by
  intro hn
  rw [hn] at h
  cases h

/-- An identifier holds no point and no slash. -/
theorem not_mem_of_isIdentifier {cs : List Char} (h : isIdentifier cs = true) :
    '.' ∉ cs ∧ '/' ∉ cs := by
  constructor
  · intro hm
    exact absurd (isPart_of_mem h hm) (by decide)
  · intro hm
    exact absurd (isPart_of_mem h hm) (by decide)

/-- An identifier with characters of identifiers behind it is one. -/
theorem isIdentifier_append {front back : List Char} (hf : isIdentifier front = true)
    (hb : back.all isPart = true) : isIdentifier (front ++ back) = true := by
  cases front with
  | nil => cases hf
  | cons c rest =>
    simp only [isIdentifier, Bool.and_eq_true, List.cons_append, List.all_append] at hf ⊢
    exact ⟨hf.1, hf.2, hb⟩

/-! ## Names inside packages -/

theorem exists_of_isInside {package name : String} (h : isInside package name = true)
    (hne : package ≠ "") : ∃ rest, name.toList = package.toList ++ '.' :: rest := by
  unfold isInside startsWith at h
  simp only [Bool.or_eq_true, String.isEmpty_iff, hne, false_or, List.isPrefixOf_iff_prefix] at h
  obtain ⟨rest, hrest⟩ := h
  refine ⟨rest, ?_⟩
  rw [← hrest, String.toList_append, List.append_assoc]
  rfl

/-- **A package around a valid name has identifiers as its pieces, and so has the last part of the
name.** -/
theorem pieces_of_isInside {package name : String} (hv : isValid name = true)
    (hi : isInside package name = true) :
    (package ≠ "" → ∀ piece ∈ split '.' package.toList, isIdentifier piece = true) ∧
      isIdentifier (simpleName name).toList = true := by
  rw [isValid_iff] at hv
  constructor
  · intro hne piece hp
    obtain ⟨rest, hrest⟩ := exists_of_isInside hi hne
    apply hv
    rw [hrest, split_append]
    exact List.mem_append_left _ hp
  · have hs : (simpleName name).toList = afterLast '.' name.toList := by
      simp [simpleName, afterLastText]
    rw [hs]
    exact hv _ (afterLast_mem_split _)

end QualifiedName

end ConverterBuilders
