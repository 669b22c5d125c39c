/-!
# Cutting texts at a character and replacing parts of them

Main statements:

* `intercalate_split`: the pieces of a text, joined by the separator, are the text again;
* `not_mem_of_mem_split`: no piece holds the separator;
* `scan_eq_drop`: a scan that passes over some characters begins behind them;
* `afterLast_append`: what stands after the last separator.
-/

namespace ConverterBuilders.Text

/-- The pieces between the separators; a text without separator is one piece. -/
def split (sep : Char) : List Char → List (List Char)
  | [] => [[]]
  | c :: rest =>
    if c = sep then [] :: split sep rest
    else
      match split sep rest with
      | [] => [[c]]
      | piece :: pieces => (c :: piece) :: pieces

def splitText (sep : Char) (s : String) : List String := (split sep s.toList).map String.ofList

/-- What stands after the last separator, or the whole text without one. -/
def afterLast (sep : Char) (cs : List Char) : List Char :=
  (cs.reverse.takeWhile (· ≠ sep)).reverse

def afterLastText (sep : Char) (s : String) : String := String.ofList (afterLast sep s.toList)

/-- **A scan that passes over some characters first** begins behind them. -/
theorem scan_eq_drop {β : Type} {f : Nat → List Char → β} (hnil : ∀ skip, f skip [] = f 0 [])
    (hcons : ∀ skip c cs, f (skip + 1) (c :: cs) = f skip cs) (skip : Nat) (cs : List Char) :
    f skip cs = f 0 (cs.drop skip) := by
  induction skip generalizing cs with
  | zero => rfl
  | succ skip ih =>
    cases cs with
    | nil => exact hnil _
    | cons c cs => exact (hcons skip c cs).trans (ih cs)

/-- Put `replacement` for each occurrence of `pattern` from left to right, passing over `skip`
characters first; occurrences do not overlap. -/
def replaceFrom (pattern replacement : List Char) : Nat → List Char → List Char
  | _, [] => []
  | skip + 1, _ :: rest => replaceFrom pattern replacement skip rest
  | 0, c :: rest =>
    if pattern.isPrefixOf (c :: rest) then
      replacement ++ replaceFrom pattern replacement (pattern.length - 1) rest
    else c :: replaceFrom pattern replacement 0 rest

/-- Put `replacement` for every occurrence of the non-empty `pattern`. -/
def replaceAll (pattern replacement cs : List Char) : List Char :=
  replaceFrom pattern replacement 0 cs

/-- Whether `s` begins with `start`. -/
def startsWith (s start : String) : Bool := start.toList.isPrefixOf s.toList

/-- Whether `s` ends in `ending`. -/
def endsWith (s ending : String) : Bool := ending.toList.isSuffixOf s.toList

/-! ## Laws of splitting -/

theorem split_ne_nil (sep : Char) (cs : List Char) : split sep cs ≠ [] := by
  cases cs with
  | nil => simp [split]
  | cons c rest =>
    rw [split]
    split
    · simp
    · split <;> simp

theorem split_cons_of_ne {sep c : Char} (h : c ≠ sep) (rest : List Char) :
    ∃ piece pieces, split sep rest = piece :: pieces ∧
      split sep (c :: rest) = (c :: piece) :: pieces := by
  cases hs : split sep rest with
  | nil => exact absurd hs (split_ne_nil sep rest)
  | cons piece pieces => exact ⟨piece, pieces, rfl, by simp [split, h, hs]⟩

/-- **Joining the pieces gives the text back.** -/
theorem intercalate_split (sep : Char) (cs : List Char) :
    List.intercalate [sep] (split sep cs) = cs := by
  induction cs with
  | nil => simp [split, List.intercalate]
  | cons c rest ih =>
    by_cases h : c = sep
    · obtain ⟨piece, pieces, hp⟩ := List.exists_cons_of_ne_nil (split_ne_nil sep rest)
      rw [hp] at ih
      simp only [split, h, ↓reduceIte, hp]
      simpa [List.intercalate, List.intersperse] using ih
    · obtain ⟨piece, pieces, hp, hc⟩ := split_cons_of_ne h rest
      rw [hp] at ih
      rw [hc]
      cases pieces with
      | nil => simpa [List.intercalate] using ih
      | cons q qs => simpa [List.intercalate, List.intersperse] using ih

theorem not_mem_of_mem_split {sep : Char} {cs piece : List Char} (h : piece ∈ split sep cs) :
    sep ∉ piece := by
  induction cs generalizing piece with
  | nil => simp [split] at h; simp [h]
  | cons c rest ih =>
    by_cases hc : c = sep
    · simp only [split, hc, ↓reduceIte, List.mem_cons] at h
      rcases h with rfl | h
      · simp
      · exact ih h
    · obtain ⟨p, ps, hp, hs⟩ := split_cons_of_ne hc rest
      rw [hs] at h
      rcases List.mem_cons.mp h with rfl | h
      · have hmem : p ∈ split sep rest := by rw [hp]; exact List.mem_cons_self ..
        have := ih hmem
        simp [this, Ne.symm hc]
      · exact ih (by rw [hp]; exact List.mem_cons_of_mem _ h)

/-! ## Laws of the last piece -/

theorem takeWhile_ne_append {sep : Char} {back : List Char} (h : sep ∉ back) (rest : List Char) :
    (back ++ sep :: rest).takeWhile (· ≠ sep) = back := by
  induction back with
  | nil => simp
  | cons c back ih =>
    simp only [List.mem_cons, not_or] at h
    have hc : c ≠ sep := fun e => h.1 e.symm
    have ih := ih h.2
    simp_all

theorem takeWhile_ne_of_not_mem {sep : Char} {cs : List Char} (h : sep ∉ cs) :
    cs.takeWhile (· ≠ sep) = cs := by
  induction cs with
  | nil => rfl
  | cons c rest ih =>
    simp only [List.mem_cons, not_or] at h
    have hc : c ≠ sep := fun e => h.1 e.symm
    have ih := ih h.2
    simp_all

theorem not_mem_takeWhile_ne (sep : Char) (cs : List Char) : sep ∉ cs.takeWhile (· ≠ sep) := by
  induction cs with
  | nil => simp
  | cons c rest ih =>
    by_cases hc : c = sep
    · simp [hc]
    · simp_all [Ne.symm hc]

theorem afterLast_of_not_mem {sep : Char} {cs : List Char} (h : sep ∉ cs) :
    afterLast sep cs = cs := by
  rw [afterLast, takeWhile_ne_of_not_mem (by simpa using h), List.reverse_reverse]

theorem not_mem_afterLast (sep : Char) (cs : List Char) : sep ∉ afterLast sep cs := fun h =>
  not_mem_takeWhile_ne sep cs.reverse (List.mem_reverse.mp h)

/-- **What follows a separator and holds none is what stands after the last one.** -/
theorem afterLast_append {sep : Char} (front : List Char) {back : List Char} (h : sep ∉ back) :
    afterLast sep (front ++ sep :: back) = back := by
  rw [afterLast, List.reverse_append, List.reverse_cons, List.append_assoc, List.singleton_append,
    takeWhile_ne_append (by simpa using h), List.reverse_reverse]

end ConverterBuilders.Text
