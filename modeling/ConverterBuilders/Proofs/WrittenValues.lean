import ConverterBuilders.Proofs.WrittenTexts
import ConverterBuilders.Toml.Values

/-!
# Written values

A written value is read back from the front of what follows it: a text up to its closing quotes, a list up
to its closing bracket, and a truth value up to the end of the line.

Main statements:

* `readValue_writeText`: a written text is read as one lexeme;
* `readItems_lines`: the items of a list, one to a line;
* `spells_writeText`, `spells_writeTexts`, `spells_writeBoolean`: what written values stand for.
-/

namespace ConverterBuilders.Toml

open Text

/-- Whether a character is none of those that are skipped between lines. -/
def Solid (c : Char) : Prop := isSpace c = false ∧ c ≠ '#' ∧ c ≠ '\n' ∧ c ≠ '\r'

instance (c : Char) : Decidable (Solid c) := by
  unfold Solid
  infer_instance

theorem Solid.skipBlank_eq {c : Char} (h : Solid c) (cs : List Char) :
    skipBlank (c :: cs) = some (c :: cs) :=
  skipBlank_of_solid h.1 h.2.1 h.2.2.1 h.2.2.2

theorem Solid.of_isQuote {c : Char} (h : isQuote c = true) : Solid c := by
  have hc : c = '"' ∨ c = '\'' := by simpa [isQuote] using h
  rcases hc with rfl | rfl <;> decide

/-! ## Texts -/

theorem exists_quote_writeText (s : String) :
    ∃ quote more, (writeText s).toList = quote :: more ∧ isQuote quote = true := by
  rw [writeText, String.toList_ofList]
  cases formOf s.toList <;> exact ⟨_, _, rfl, by decide⟩

/-- A text in quotes is cut off as one lexeme. -/
theorem Quotes.ofValue_append {chars text rest : List Char} (h : Quotes chars text) (hne : chars ≠ [])
    (hrest : Unquoted rest) : Lexeme.ofValue (chars ++ rest) = (.quoted chars, rest) := by
  obtain ⟨n, hn⟩ := Nat.exists_eq_succ_of_ne_zero (mt List.length_eq_zero_iff.1 hne)
  have hlength := h.ends rest hrest
  rw [Lexeme.ofValue, Lexeme.cut, hlength, hn]
  simp only
  rw [← hn, List.take_left, List.drop_left]

/-- A text in quotes stands for the text. -/
theorem Quotes.text?_eq {chars text : List Char} (h : Quotes chars text) :
    text? chars = some (String.ofList text) := by
  have hread := h.reads [] (by simp [Unquoted])
  rw [List.append_nil] at hread
  rw [text?, hread]
  rfl

def textLexeme (s : String) : Written := .lexeme (.quoted (writeText s).toList)

theorem read_textLexeme (s : String) : (textLexeme s).read = .ok (.text s) := by
  rw [textLexeme, Written.read, valueOf, (quotes_writeText s).text?_eq]
  simp

/-- What begins with neither a bracket nor a brace is read as a lexeme. -/
theorem readValue_lexeme {c : Char} (hbracket : c ≠ '[') (hbrace : c ≠ '\x7b') (fuel depth : Nat)
    {cs rest : List Char} {lexeme : Lexeme} (hcut : Lexeme.ofValue (c :: cs) = (lexeme, rest))
    (hlexeme : lexeme ≠ .missing) :
    readValue (fuel + 1) depth (c :: cs) = some (.lexeme lexeme, rest) := by
  rw [readValue]
  · rw [hcut]
    split
    · rename_i he
      exact absurd (Prod.mk.inj he).1 hlexeme
    · rename_i he
      cases he
      rfl
  · exact fun _ he => hbracket (List.cons_eq_cons.1 he).1
  · exact fun _ he => hbrace (List.cons_eq_cons.1 he).1

/-- **A written text is read as one lexeme.** -/
theorem readValue_writeText (s : String) (fuel depth : Nat) (rest : List Char) (hrest : Unquoted rest) :
    readValue (fuel + 1) depth ((writeText s).toList ++ rest) = some (textLexeme s, rest) := by
  obtain ⟨quote, more, hchars, hquote⟩ := exists_quote_writeText s
  have hne : (writeText s).toList ≠ [] := by
    rw [hchars]
    exact List.cons_ne_nil _ _
  have hcut := (quotes_writeText s).ofValue_append hne hrest
  rw [textLexeme]
  rw [hchars, List.cons_append] at hcut ⊢
  exact readValue_lexeme (ne_of_test hquote (by decide)) (ne_of_test hquote (by decide)) fuel depth
    hcut (by simp [Lexeme.missing])

/-! ## Lists -/

section

variable {fuel depth : Nat} {cs start rest after : List Char} {item : Written}

/-- A list ends at its closing bracket. -/
theorem readItems_close (hskip : skipBlank cs = some (']' :: after)) :
    readItems (fuel + 1) depth cs = some ([], after) := by
  rw [readItems, hskip]
  rfl

/-- A list ends behind an item without a comma. -/
theorem readItems_last {c : Char} (hc : c ≠ ']') (hskip : skipBlank cs = some (c :: start))
    (hitem : readValue fuel depth (c :: start) = some (item, rest))
    (hclose : skipBlank rest = some (']' :: after)) :
    readItems (fuel + 1) depth cs = some ([item], after) := by
  rw [readItems, hskip]
  simp only [bind, Option.bind]
  split
  · rename_i he
    exact absurd (List.cons_eq_cons.1 he).1 hc
  · simp only [hitem, hclose]

/-- A list goes on behind an item and a comma. -/
theorem readItems_next {c : Char} (hc : c ≠ ']') (hskip : skipBlank cs = some (c :: start))
    (hitem : readValue fuel depth (c :: start) = some (item, rest)) {more : List Char}
    (hcomma : skipBlank rest = some (',' :: more)) {items : List Written}
    (hmore : readItems fuel depth more = some (items, after)) :
    readItems (fuel + 1) depth cs = some (item :: items, after) := by
  rw [readItems, hskip]
  simp only [bind, Option.bind]
  split
  · rename_i he
    exact absurd (List.cons_eq_cons.1 he).1 hc
  · simp only [hitem, hcomma, hmore]

end

def itemLine (s : String) : List Char := [' ', ' ', ' ', ' '] ++ (writeText s).toList ++ [',', '\n']

/-- **The items of a list, one to a line, are read up to the closing bracket.** -/
theorem readItems_lines (values : List String) {fuel : Nat} (hfuel : values.length < fuel) (depth : Nat)
    (rest : List Char) :
    readItems fuel depth ('\n' :: (values.flatMap itemLine ++ ']' :: rest)) =
      some (values.map textLexeme, rest) := by
  induction values generalizing fuel with
  | nil =>
    obtain ⟨fuel, rfl⟩ := Nat.exists_eq_succ_of_ne_zero (Nat.ne_zero_of_lt hfuel)
    have hskip : skipBlank ('\n' :: ']' :: rest) = some (']' :: rest) := rfl
    exact readItems_close hskip
  | cons value values ih =>
    obtain ⟨fuel, rfl⟩ : ∃ n, fuel = n + 2 := ⟨fuel - 2, by rw [List.length_cons] at hfuel; omega⟩
    have hmore : readItems (fuel + 1) depth ('\n' :: (values.flatMap itemLine ++ ']' :: rest)) =
        some (values.map textLexeme, rest) := ih (by rw [List.length_cons] at hfuel; omega)
    obtain ⟨quote, more, hchars, hquote⟩ := exists_quote_writeText value
    have hitem := readValue_writeText value fuel depth
      (',' :: '\n' :: (values.flatMap itemLine ++ ']' :: rest)) (by simp [Unquoted, isQuote])
    have hskip : skipBlank ('\n' :: ((value :: values).flatMap itemLine ++ ']' :: rest)) =
        some ((writeText value).toList ++ ',' :: '\n' :: (values.flatMap itemLine ++ ']' :: rest)) := by
      rw [hchars, List.cons_append, ← (Solid.of_isQuote hquote).skipBlank_eq]
      simp only [List.flatMap_cons, itemLine, hchars, List.append_assoc, List.cons_append, List.nil_append]
      rfl
    rw [hchars, List.cons_append] at hitem hskip
    have hcomma : skipBlank (',' :: '\n' :: (values.flatMap itemLine ++ ']' :: rest)) =
        some (',' :: '\n' :: (values.flatMap itemLine ++ ']' :: rest)) := rfl
    exact readItems_next (ne_of_test hquote (by decide)) hskip hitem hcomma hmore

theorem length_le_flatMap_itemLine (values : List String) :
    values.length ≤ (values.flatMap itemLine).length := by
  induction values with
  | nil => exact Nat.le_refl 0
  | cons value values ih =>
    simp only [List.flatMap_cons, itemLine, List.length_append, List.length_cons, List.length_nil] at ih ⊢
    omega

theorem toList_writeTexts_lines (first second : String) (values : List String) :
    (writeTexts (first :: second :: values)).toList =
      '[' :: '\n' :: ((first :: second :: values).flatMap itemLine ++ [']']) := by
  have hlines : ∀ values : List String,
      (String.join (values.map fun value => "    " ++ writeText value ++ ",\n")).toList =
        values.flatMap itemLine := by
    intro values
    induction values with
    | nil => rfl
    | cons value values ih =>
      rw [List.map_cons, String.join_cons, String.toList_append, ih]
      simp [itemLine]
  rw [writeTexts]
  · simp only [String.toList_append, hlines, List.append_assoc]
    rfl
  · exact List.cons_ne_nil _ _
  · exact fun _ he => absurd (List.cons_eq_cons.1 he).2 (List.cons_ne_nil _ _)

/-- The list of several texts. -/
theorem readAll_textLexeme (values : List String) :
    readAll (values.map textLexeme) = .ok (values.map Document.text) := by
  induction values with
  | nil => rfl
  | cons value values ih =>
    rw [List.map_cons, readAll, read_textLexeme, ih]
    rfl

/-! ## Values on a line -/

/-- Whether characters, up to the end of the line, are the value of an assignment. -/
structure Spells (chars : List Char) (document : Document) : Prop where
  begins : ∃ c more, chars = c :: more ∧ Solid c
  reads : ∃ written, written.read = .ok document ∧ ∀ fuel rest, chars.length ≤ fuel →
    readValue fuel nestingLimit (chars ++ '\n' :: rest) = some (written, '\n' :: rest)

/-- A lexeme up to the end of the line is a value. -/
theorem Spells.of_ofValue {c : Char} {more : List Char} {lexeme : Lexeme} {document : Document}
    (hsolid : Solid c) (hbracket : c ≠ '[') (hbrace : c ≠ '\x7b') (hlexeme : lexeme ≠ .missing)
    (hvalue : valueOf lexeme = .ok document)
    (hcut : ∀ rest, Lexeme.ofValue (c :: more ++ '\n' :: rest) = (lexeme, '\n' :: rest)) :
    Spells (c :: more) document := by
  refine ⟨⟨c, more, rfl, hsolid⟩, .lexeme lexeme, ?_, ?_⟩
  · rw [Written.read, hvalue]
  · intro fuel rest hfuel
    obtain ⟨fuel, rfl⟩ : ∃ n, fuel = n + 1 := ⟨fuel - 1, by rw [List.length_cons] at hfuel; omega⟩
    exact readValue_lexeme hbracket hbrace fuel nestingLimit (hcut rest) hlexeme

theorem spells_writeText (s : String) : Spells (writeText s).toList (.text s) := by
  obtain ⟨quote, more, hchars, hquote⟩ := exists_quote_writeText s
  have hcut : ∀ rest, Lexeme.ofValue ((writeText s).toList ++ '\n' :: rest) =
      (.quoted (writeText s).toList, '\n' :: rest) := by
    intro rest
    exact (quotes_writeText s).ofValue_append (by simp [hchars]) (by simp [Unquoted, isQuote])
  have hvalue := read_textLexeme s
  rw [textLexeme, Written.read] at hvalue
  rw [hchars] at hcut hvalue ⊢
  exact .of_ofValue (.of_isQuote hquote) (ne_of_test hquote (by decide))
    (ne_of_test hquote (by decide)) (by simp [Lexeme.missing]) hvalue hcut

theorem spells_writeBoolean (value : Bool) : Spells (writeBoolean value).toList (.boolean value) := by
  cases value with
  | false =>
    have hcut : ∀ rest, Lexeme.ofValue ('f' :: ['a', 'l', 's', 'e'] ++ '\n' :: rest) =
        (.bare ['f', 'a', 'l', 's', 'e'], '\n' :: rest) := fun _ => rfl
    exact .of_ofValue (by decide) (by decide) (by decide) (by decide) rfl hcut
  | true =>
    have hcut : ∀ rest, Lexeme.ofValue ('t' :: ['r', 'u', 'e'] ++ '\n' :: rest) =
        (.bare ['t', 'r', 'u', 'e'], '\n' :: rest) := fun _ => rfl
    exact .of_ofValue (by decide) (by decide) (by decide) (by decide) rfl hcut

/-- What stands in brackets is a list. -/
theorem Spells.of_readItems {chars : List Char} {items : List Written} {documents : List Document}
    (hread : readAll items = .ok documents)
    (h : ∀ fuel rest, chars.length ≤ fuel →
      readItems fuel (nestingLimit - 1) (chars ++ '\n' :: rest) = some (items, '\n' :: rest)) :
    Spells ('[' :: chars) (.list documents) := by
  refine ⟨⟨'[', chars, rfl, by decide⟩, .list items, ?_, ?_⟩
  · rw [Written.read, hread]
    rfl
  · intro fuel rest hfuel
    obtain ⟨fuel, rfl⟩ : ∃ n, fuel = n + 1 := ⟨fuel - 1, by rw [List.length_cons] at hfuel; omega⟩
    rw [List.length_cons] at hfuel
    rw [List.cons_append, readValue, if_neg (by decide), h fuel rest (by omega)]
    rfl

theorem spells_writeTexts (values : List String) :
    Spells (writeTexts values).toList (Document.texts values) := by
  rcases values with _ | ⟨first, _ | ⟨second, values⟩⟩
  · have hchars : (writeTexts []).toList = ['[', ']'] := rfl
    rw [hchars]
    refine Spells.of_readItems (readAll_textLexeme []) ?_
    intro fuel rest hfuel
    obtain ⟨fuel, rfl⟩ : ∃ n, fuel = n + 1 := ⟨fuel - 1, by rw [List.length_singleton] at hfuel; omega⟩
    exact readItems_close rfl
  · have hchars : (writeTexts [first]).toList = '[' :: ((writeText first).toList ++ [']']) := by
      rw [writeTexts, String.toList_append, String.toList_append]
      rfl
    rw [hchars]
    refine Spells.of_readItems (readAll_textLexeme [first]) ?_
    intro fuel rest hfuel
    obtain ⟨quote, more, hchars, hquote⟩ := exists_quote_writeText first
    obtain ⟨fuel, rfl⟩ : ∃ n, fuel = n + 2 := by
      refine ⟨fuel - 2, ?_⟩
      rw [hchars, List.cons_append, List.length_cons, List.length_append, List.length_singleton] at hfuel
      omega
    have hitem := readValue_writeText first fuel (nestingLimit - 1) (']' :: '\n' :: rest)
      (by simp [Unquoted, isQuote])
    rw [List.append_assoc]
    rw [hchars, List.cons_append] at hitem ⊢
    exact readItems_last (ne_of_test hquote (by decide)) ((Solid.of_isQuote hquote).skipBlank_eq _)
      hitem rfl
  · rw [toList_writeTexts_lines]
    refine Spells.of_readItems (readAll_textLexeme _) ?_
    intro fuel rest hfuel
    have hlength := length_le_flatMap_itemLine (first :: second :: values)
    simp only [List.length_cons, List.length_append, List.length_nil] at hfuel hlength
    rw [List.cons_append, List.append_assoc]
    exact readItems_lines _ (by simp only [List.length_cons]; omega) _ _

end ConverterBuilders.Toml
