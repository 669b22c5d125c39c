/-!
# Blank characters

White space is the Unicode property White_Space, and trimming removes it from both ends of a text.

Main statements:

* `trimChars_eq_nil_iff`: a text is blank exactly if nothing is left of it after trimming;
* `trimChars_append_of_all`: white space around a text does not count.
-/

namespace ConverterBuilders.Text

/-- The code points with the property White_Space, in ranges with both ends included. -/
def blankRanges : List (Nat × Nat) :=
  [(0x09, 0x0D), (0x20, 0x20), (0x85, 0x85), (0xA0, 0xA0), (0x1680, 0x1680), (0x2000, 0x200A),
   (0x2028, 0x2029), (0x202F, 0x202F), (0x205F, 0x205F), (0x3000, 0x3000)]

def inRanges (ranges : List (Nat × Nat)) (c : Char) : Bool :=
  ranges.any fun range => range.1 ≤ c.toNat && c.toNat ≤ range.2

def isBlankChar (c : Char) : Bool := inRanges blankRanges c

def trimEndChars (cs : List Char) : List Char := (cs.reverse.dropWhile isBlankChar).reverse

/-- The characters without the white space at either end. -/
def trimChars (cs : List Char) : List Char := trimEndChars (cs.dropWhile isBlankChar)

def trim (s : String) : String := String.ofList (trimChars s.toList)

def isBlank (s : String) : Bool := s.toList.all isBlankChar

/-! ## Laws of trimming -/

theorem all_of_dropWhile_eq_nil {cs : List Char} (h : cs.dropWhile isBlankChar = []) :
    cs.all isBlankChar = true := by
  induction cs with
  | nil => rfl
  | cons c rest ih =>
    by_cases hc : isBlankChar c
    · simp only [List.dropWhile_cons, hc, ↓reduceIte] at h
      simp [hc, ih h]
    · simp [hc] at h

theorem dropWhile_eq_nil_of_all {cs : List Char} (h : cs.all isBlankChar = true) :
    cs.dropWhile isBlankChar = [] := by
  induction cs with
  | nil => rfl
  | cons c rest ih =>
    simp only [List.all_cons, Bool.and_eq_true] at h
    simp [h.1, ih h.2]

theorem trimEndChars_eq_nil_iff {cs : List Char} :
    trimEndChars cs = [] ↔ cs.all isBlankChar = true := by
  constructor
  · intro h
    have := all_of_dropWhile_eq_nil (List.reverse_eq_nil_iff.mp h)
    simpa using this
  · intro h
    have hr : cs.reverse.all isBlankChar = true := by simpa using h
    simp [trimEndChars, dropWhile_eq_nil_of_all hr]

theorem dropWhile_all_eq_nil {cs : List Char} (h : (cs.dropWhile isBlankChar).all isBlankChar = true) :
    cs.dropWhile isBlankChar = [] := by
  induction cs with
  | nil => rfl
  | cons c rest ih =>
    by_cases hc : isBlankChar c
    · simp only [List.dropWhile_cons, hc, ↓reduceIte] at h ⊢
      exact ih h
    · simp [hc] at h

/-- **A text is blank exactly if trimming leaves nothing of it.** -/
theorem trimChars_eq_nil_iff {cs : List Char} : trimChars cs = [] ↔ cs.all isBlankChar = true := by
  rw [trimChars, trimEndChars_eq_nil_iff]
  exact ⟨fun h => all_of_dropWhile_eq_nil (dropWhile_all_eq_nil h),
    fun h => by simp [dropWhile_eq_nil_of_all h]⟩

theorem dropWhile_dropWhile (cs : List Char) :
    (cs.dropWhile isBlankChar).dropWhile isBlankChar = cs.dropWhile isBlankChar := by
  induction cs with
  | nil => rfl
  | cons c rest ih =>
    by_cases hc : isBlankChar c
    · simp [hc, ih]
    · simp [hc]

theorem trimEndChars_trimEndChars (cs : List Char) :
    trimEndChars (trimEndChars cs) = trimEndChars cs := by
  simp [trimEndChars, dropWhile_dropWhile]

/-- A character that is no white space stays when the end is trimmed, with all in front of it. -/
theorem trimEndChars_append_cons {c : Char} (h : isBlankChar c = false) (front rest : List Char) :
    trimEndChars (front ++ c :: rest) = front ++ c :: trimEndChars rest := by
  have hc : (c :: front.reverse).dropWhile isBlankChar = c :: front.reverse := by simp [h]
  rw [trimEndChars, trimEndChars, List.reverse_append, List.reverse_cons, List.append_assoc,
    List.singleton_append, List.dropWhile_append, hc]
  split
  · rename_i he
    rw [List.isEmpty_iff.1 he]
    simp
  · simp

theorem trimEndChars_append_of_all {back : List Char} (h : back.all isBlankChar = true)
    (cs : List Char) : trimEndChars (cs ++ back) = trimEndChars cs := by
  have hback : ∀ c ∈ back.reverse, isBlankChar c = true := by simpa using h
  rw [trimEndChars, List.reverse_append, List.dropWhile_append_of_pos hback, trimEndChars]

/-- **White space around a list does not count when it is trimmed.** -/
theorem trimChars_append_of_all {front back : List Char} (hf : front.all isBlankChar = true)
    (hb : back.all isBlankChar = true) (cs : List Char) :
    trimChars (front ++ cs ++ back) = trimChars cs := by
  rw [trimChars, List.append_assoc, List.dropWhile_append_of_pos (by simpa using hf),
    List.dropWhile_append, trimChars]
  split
  · rename_i he
    rw [dropWhile_eq_nil_of_all hb, List.isEmpty_iff.1 he]
  · exact trimEndChars_append_of_all hb _

end ConverterBuilders.Text
