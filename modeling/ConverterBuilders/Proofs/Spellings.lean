import ConverterBuilders.Text.Split
import ConverterBuilders.Toml.Printer
import ConverterBuilders.Toml.Texts

/-!
# Characters between quotes

Between double quotes a character is spelled: as itself, by a letter behind a backslash or by its number.
Between single quotes it stands for itself.  Over several lines quotes may stand in the text as well, up to
two of them in front of the closing three.  However a text is put between quotes, it is read back.

Main statements:

* `spelling_escapeChar`: each character has a spelling between double quotes;
* `basicFrom_escapeFrom`, `literal_append`: what stands between single quotation marks is read back;
* `spans_escapeFrom`, `spans_plain`: how a text goes on up to three closing quotes;
* `Spans.multilineFrom_eq`, `Spans.multilineLiteral_eq`: what does so is read back.
-/

namespace ConverterBuilders.Toml

open Text

/-- A test tells characters apart. -/
theorem ne_of_test {test : Char → Bool} {c d : Char} (hc : test c = true) (hd : test d = false) :
    c ≠ d := by
  rintro rfl
  rw [hc] at hd
  cases hd

/-! ## Spellings of characters -/

/-- The letters of short escapes and what they stand for. -/
def shortEscapes : List (Char × Char) :=
  [('b', '\x08'), ('t', '\t'), ('n', '\n'), ('f', '\x0c'), ('r', '\r'), ('\\', '\\'), ('"', '"')]

/-- How a character is written between double quotes: as itself, by a letter behind a backslash, or by its
number. -/
inductive Spelling : List Char → Char → Prop
  | plain {c : Char} (hplain : isPlain c = true) (hquote : c ≠ '"') (hbackslash : c ≠ '\\') :
    Spelling [c] c
  | short {letter c : Char} (hshort : (letter, c) ∈ shortEscapes) : Spelling ['\\', letter] c
  | number {c : Char} (hsmall : c.toNat < 0x80) :
    Spelling ['\\', 'u', '0', '0', upperHexDigit (c.toNat / 16), upperHexDigit (c.toNat % 16)] c

/-- **A character other than a double quote is spelled by its escape**, unless it is a line end that is
kept. -/
theorem spelling_escapeChar {multiline : Bool} {c : Char} (hquote : c ≠ '"')
    (hkept : multiline = true → c ≠ '\n') : Spelling (escapeChar multiline c) c := by
  unfold escapeChar
  split
  · rename_i h
    subst h
    exact .short (by decide)
  split
  · rename_i h
    subst h
    exact .short (by decide)
  split
  · rename_i h
    subst h
    cases multiline with
    | true => exact absurd rfl (hkept rfl)
    | false => exact .short (by decide)
  split
  · rename_i h
    subst h
    exact .short (by decide)
  split
  · rename_i h
    subst h
    exact .short (by decide)
  split
  · rename_i h
    subst h
    exact .short (by decide)
  split
  · rename_i hcontrol
    refine .number ?_
    simp only [isControl, Bool.or_eq_true, Bool.and_eq_true, decide_eq_true_eq] at hcontrol
    omega
  · rename_i ht hn _ _ hb hcontrol
    refine .plain ?_ hquote hb
    simp only [isControl, Bool.or_eq_true, Bool.and_eq_true, decide_eq_true_eq, not_or, not_and] at hcontrol
    simp only [isPlain, Bool.or_eq_true, Bool.and_eq_true, decide_eq_true_eq]
    have hlow : ¬ c.toNat < 0x20 := fun hlt => hcontrol.1 ⟨hlt, ht⟩ hn
    exact .inr ⟨by omega, hcontrol.2⟩

theorem numberedChar_digits {c : Char} (h : c.toNat < 0x80) :
    numberedChar ['0', '0', upperHexDigit (c.toNat / 16), upperHexDigit (c.toNat % 16)] = some c := by
  have hhigh := hexValue_upperHexDigit (c.toNat / 16) (by omega)
  have hlow := hexValue_upperHexDigit (c.toNat % 16) (by omega)
  have hzero : hexValue '0' = some 0 := by decide
  have hnumber : natOfDigits 16 ['0', '0', upperHexDigit (c.toNat / 16), upperHexDigit (c.toNat % 16)] =
      c.toNat := by
    simp only [natOfDigits, List.foldl_cons, List.foldl_nil, hhigh, hlow, hzero, Option.getD_some]
    omega
  have hvalid : c.toNat.isValidChar := c.valid
  simp [numberedChar, hhigh, hlow, hzero, hnumber, hvalid, Char.ofNat_toNat]

theorem Spelling.unit?_append {chars : List Char} {c : Char} (h : Spelling chars c) (rest : List Char) :
    unit? (chars ++ rest) = some (c, chars.length) := by
  cases h with
  | plain hplain _ hbackslash => exact unit?_plain hplain hbackslash rest
  | short hshort =>
    simp only [shortEscapes, List.mem_cons, Prod.mk.injEq, List.not_mem_nil, or_false] at hshort
    rcases hshort with ⟨rfl, rfl⟩ | ⟨rfl, rfl⟩ | ⟨rfl, rfl⟩ | ⟨rfl, rfl⟩ | ⟨rfl, rfl⟩ | ⟨rfl, rfl⟩ |
      ⟨rfl, rfl⟩ <;> rfl
  | number hsmall =>
    have htake := numberedChar_digits hsmall
    simp [unit?, escape?, numbered, htake]

/-- What a spelling begins with. -/
theorem Spelling.exists_head {chars : List Char} {c : Char} (h : Spelling chars c) :
    ∃ first rest, chars = first :: rest ∧ first ≠ '"' ∧ first ≠ '\n' ∧ first ≠ '\r' ∧
      (first = '\\' → ∃ letter more, rest = letter :: more ∧ isSpace letter = false ∧
        letter ≠ '\n' ∧ letter ≠ '\r') := by
  cases h with
  | plain hplain hquote hbackslash =>
    exact ⟨c, [], rfl, hquote, ne_of_test hplain (by decide), ne_of_test hplain (by decide),
      fun he => absurd he hbackslash⟩
  | @short letter _ hshort =>
    refine ⟨'\\', [letter], rfl, by decide, by decide, by decide, fun _ => ⟨letter, [], rfl, ?_⟩⟩
    have hall : ∀ entry ∈ shortEscapes,
        isSpace entry.1 = false ∧ entry.1 ≠ '\n' ∧ entry.1 ≠ '\r' := by decide
    exact hall _ hshort
  | number hsmall =>
    exact ⟨'\\', _, rfl, by decide, by decide, by decide, fun _ => ⟨'u', _, rfl, by decide⟩⟩

/-! ## Between double quotes -/

theorem escapeFrom_of_ne {c : Char} (hc : c ≠ '"') (multiline : Bool) (limit allowed : Nat)
    (cs : List Char) : escapeFrom multiline limit allowed (c :: cs) =
      escapeChar multiline c ++ escapeFrom multiline limit limit cs := by
  cases allowed <;> rw [escapeFrom, if_neg hc]

theorem basicFrom_eq_drop (skip : Nat) (cs : List Char) :
    basicFrom skip cs = basicFrom 0 (cs.drop skip) :=
  scan_eq_drop (fun _ => rfl) (fun _ _ _ => rfl) skip cs

theorem multilineFrom_eq_drop (skip : Nat) (folding : Bool) (cs : List Char) :
    multilineFrom skip folding cs = multilineFrom 0 folding (cs.drop skip) :=
  scan_eq_drop (f := fun skip => multilineFrom skip folding) (fun _ => rfl) (fun _ _ _ => rfl) skip cs

/-- A spelled character is read between double quotes. -/
theorem Spelling.basicFrom_append {chars : List Char} {c : Char} (h : Spelling chars c)
    (rest : List Char) :
    basicFrom 0 (chars ++ rest) = (basicFrom 0 rest).map fun r => (c :: r.1, r.2) := by
  have hunit := h.unit?_append rest
  obtain ⟨first, more, rfl, hquote, -⟩ := h.exists_head
  rw [List.cons_append] at hunit ⊢
  rw [basicFrom, if_neg hquote, hunit]
  simp only
  rw [basicFrom_eq_drop]
  simp

/-- Each character is spelled on a line, double quotes by an escape. -/
theorem exists_spelling_line (c : Char) (cs : List Char) : ∃ chars,
    escapeFrom false 0 0 (c :: cs) = chars ++ escapeFrom false 0 0 cs ∧ Spelling chars c := by
  by_cases hc : c = '"'
  · subst hc
    exact ⟨['\\', '"'], rfl, .short (by decide)⟩
  · exact ⟨escapeChar false c, escapeFrom_of_ne hc .., spelling_escapeChar hc nofun⟩

/-- **Spelled characters are read back on one line.** -/
theorem basicFrom_escapeFrom (cs rest : List Char) :
    basicFrom 0 (escapeFrom false 0 0 cs ++ '"' :: rest) = some (cs, rest) := by
  induction cs with
  | nil => rfl
  | cons c cs ih =>
    obtain ⟨chars, hchars, hs⟩ := exists_spelling_line c cs
    rw [hchars, List.append_assoc, hs.basicFrom_append, ih]
    rfl

/-! ## Runs of quotes -/

variable {quote : Char} {rest : List Char}

theorem quoteRun_of_ne {c : Char} (h : c ≠ quote) (cs : List Char) : quoteRun quote (c :: cs) = 0 := by
  simp [quoteRun, h]

theorem quoteRun_cons (quote : Char) (cs : List Char) :
    quoteRun quote (quote :: cs) = quoteRun quote cs + 1 := by
  simp [quoteRun]

theorem quoteRun_replicate (hrest : ∀ c, rest.head? = some c → c ≠ quote) (count : Nat) :
    quoteRun quote (List.replicate count quote ++ rest) = count := by
  induction count with
  | zero =>
    cases rest with
    | nil => rfl
    | cons c rest => exact quoteRun_of_ne (hrest c rfl) rest
  | succ count ih => rw [List.replicate_succ, List.cons_append, quoteRun_cons, ih]

theorem replicate_append_close (quote : Char) (count : Nat) (rest : List Char) :
    List.replicate count quote ++ quote :: quote :: quote :: rest =
      List.replicate (count + 3) quote ++ rest := by
  rw [show quote :: quote :: quote :: rest = List.replicate 3 quote ++ rest from rfl,
    ← List.append_assoc, List.replicate_append_replicate]

/-- Up to two quotes in front of the closing three belong to the text. -/
theorem closeRun_replicate (hrest : ∀ c, rest.head? = some c → c ≠ quote) {count : Nat}
    (h : count ≤ 2) :
    3 ≤ quoteRun quote (List.replicate count quote ++ quote :: quote :: quote :: rest) ∧
      closeRun quote (List.replicate count quote ++ quote :: quote :: quote :: rest) =
        (List.replicate count quote, rest) := by
  rw [closeRun, replicate_append_close, quoteRun_replicate hrest]
  have hmin : min (count + 3) 5 = count + 3 := by omega
  rw [hmin]
  simp

theorem exists_cons_of_close (quote : Char) (count : Nat) (rest : List Char) :
    ∃ cs, List.replicate count quote ++ quote :: quote :: quote :: rest = quote :: cs := by
  cases count with
  | zero => exact ⟨_, rfl⟩
  | succ count => exact ⟨_, rfl⟩

/-- Escaped quotes never stand in a run that closes the text. -/
theorem endsOrGoesOn_escapeFrom {allowed : Nat} (ha : allowed ≤ 2) (cs rest : List Char) :
    (∃ count ≤ allowed, cs = List.replicate count '"' ∧
      escapeFrom true 2 allowed cs = List.replicate count '"') ∨
        quoteRun '"' (escapeFrom true 2 allowed cs ++ rest) ≤ allowed := by
  induction cs generalizing allowed with
  | nil => exact .inl ⟨0, Nat.zero_le _, rfl, rfl⟩
  | cons c cs ih =>
    by_cases hc : c = '"'
    · subst hc
      cases allowed with
      | zero =>
        refine .inr (Nat.le_of_eq ?_)
        exact quoteRun_of_ne (by decide) _
      | succ allowed =>
        have hcons : escapeFrom true 2 (allowed + 1) ('"' :: cs) =
            '"' :: escapeFrom true 2 allowed cs := rfl
        rw [hcons]
        rcases @ih allowed (by omega) with ⟨count, hcount, hcs, hescape⟩ | hrun
        · refine .inl ⟨count + 1, by omega, ?_, ?_⟩
          · rw [hcs]
            rfl
          · rw [hescape]
            rfl
        · refine .inr ?_
          rw [List.cons_append, quoteRun_cons]
          omega
    · refine .inr ?_
      rw [escapeFrom_of_ne hc]
      have hhead : ∃ first more, escapeChar true c = first :: more ∧ first ≠ '"' := by
        by_cases hn : c = '\n'
        · subst hn
          exact ⟨'\n', [], rfl, by decide⟩
        · obtain ⟨first, more, hchars, hquote, -⟩ := (spelling_escapeChar hc fun _ => hn).exists_head
          exact ⟨first, more, hchars, hquote⟩
      obtain ⟨first, more, hchars, hquote⟩ := hhead
      rw [hchars, List.cons_append, List.cons_append, quoteRun_of_ne hquote]
      exact Nat.zero_le _

/-! ## Over several lines -/

/-- How a text is written in front of three closing quotes and the rest: up to two quotes that belong to it,
spelled characters, and quotes in runs that close nothing. -/
inductive Spans (quote : Char) (spelling : List Char → Char → Prop) (rest : List Char) :
    List Char → List Char → Prop
  | close {count : Nat} (hcount : count ≤ 2) : Spans quote spelling rest (List.replicate count quote)
    (List.replicate count quote ++ quote :: quote :: quote :: rest)
  | spelled {chars cs written : List Char} {c : Char} (hchars : spelling chars c)
    (hspans : Spans quote spelling rest cs written) :
    Spans quote spelling rest (c :: cs) (chars ++ written)
  | single {cs written : List Char} (hrun : quoteRun quote (quote :: written) < 3)
    (hspans : Spans quote spelling rest cs written) :
    Spans quote spelling rest (quote :: cs) (quote :: written)

/-- How a character is written between three double quotes: spelled, or a line end as it is. -/
def KeptSpelling (chars : List Char) (c : Char) : Prop := Spelling chars c ∨ chars = ['\n'] ∧ c = '\n'

/-- How a character is written between three single quotes: as it is. -/
def PlainSpelling (chars : List Char) (c : Char) : Prop :=
  chars = [c] ∧ c ≠ '\'' ∧ (isPlain c = true ∨ c = '\n')

/-- **Escaped characters span a text** over several lines. -/
theorem spans_escapeFrom {allowed : Nat} (ha : allowed ≤ 2) (cs rest : List Char) :
    Spans '"' KeptSpelling rest cs (escapeFrom true 2 allowed cs ++ '"' :: '"' :: '"' :: rest) := by
  induction cs generalizing allowed with
  | nil => exact .close (Nat.zero_le 2)
  | cons c cs ih =>
    rcases endsOrGoesOn_escapeFrom ha (c :: cs) ('"' :: '"' :: '"' :: rest) with
      ⟨count, hcount, hcs, hescape⟩ | hrun
    · rw [hescape, hcs]
      exact .close (Nat.le_trans hcount ha)
    · by_cases hc : c = '"'
      · subst hc
        cases allowed with
        | zero =>
          have hchars : KeptSpelling ['\\', '"'] '"' := .inl (.short (by decide))
          have hspelled := Spans.spelled hchars (ih (Nat.le_refl 2))
          exact hspelled
        | succ allowed =>
          have hcons : escapeFrom true 2 (allowed + 1) ('"' :: cs) =
              '"' :: escapeFrom true 2 allowed cs := rfl
          rw [hcons, List.cons_append] at hrun ⊢
          exact .single (by omega) (@ih allowed (by omega))
      · rw [escapeFrom_of_ne hc, List.append_assoc]
        refine .spelled ?_ (ih (Nat.le_refl 2))
        by_cases hn : c = '\n'
        · subst hn
          exact .inr ⟨rfl, rfl⟩
        · exact .inl (spelling_escapeChar hc fun _ => hn)

/-- Characters without three quotes in a row either are quotes that belong to the text or do not close
it. -/
theorem endsOrGoesOn_of_hasRun {cs : List Char} (h : hasRun 3 quote cs = false) (rest : List Char) :
    (∃ count ≤ 2, cs = List.replicate count quote) ∨ quoteRun quote (cs ++ rest) < 3 := by
  rcases cs with _ | ⟨a, cs⟩
  · exact .inl ⟨0, by decide, rfl⟩
  by_cases ha : a = quote
  · subst ha
    rcases cs with _ | ⟨b, cs⟩
    · exact .inl ⟨1, by decide, rfl⟩
    by_cases hb : b = a
    · subst hb
      rcases cs with _ | ⟨c, cs⟩
      · exact .inl ⟨2, by decide, rfl⟩
      · have hc : c ≠ b := by
          rintro rfl
          simp [hasRun, List.replicate] at h
        refine .inr ?_
        simp only [List.cons_append, quoteRun_cons]
        rw [quoteRun_of_ne hc]
        decide
    · refine .inr ?_
      simp only [List.cons_append, quoteRun_cons]
      rw [quoteRun_of_ne hb]
      decide
  · refine .inr ?_
    rw [List.cons_append, quoteRun_of_ne ha]
    decide

theorem hasRun_tail {count : Nat} {c : Char} {cs : List Char} (h : hasRun count quote (c :: cs) = false) :
    hasRun count quote cs = false := by
  rw [hasRun, Bool.or_eq_false_iff] at h
  exact h.2

/-- **Characters that stand for themselves span a text** over several lines. -/
theorem spans_plain {cs : List Char} (h : ∀ c ∈ cs, isPlain c = true ∨ c = '\n')
    (hrun : hasRun 3 '\'' cs = false) (rest : List Char) :
    Spans '\'' PlainSpelling rest cs (cs ++ '\'' :: '\'' :: '\'' :: rest) := by
  induction cs with
  | nil => exact .close (Nat.zero_le 2)
  | cons c cs ih =>
    rcases endsOrGoesOn_of_hasRun hrun ('\'' :: '\'' :: '\'' :: rest) with ⟨count, hcount, hcs⟩ | hshort
    · rw [hcs]
      exact .close hcount
    · have hspans := ih (fun d hd => h d (List.mem_cons_of_mem _ hd)) (hasRun_tail hrun)
      by_cases hc : c = '\''
      · subst hc
        exact .single hshort hspans
      · have hchars : PlainSpelling [c] c := ⟨rfl, hc, h c (List.mem_cons_self ..)⟩
        have hspelled := Spans.spelled hchars hspans
        exact hspelled

theorem endsLine_of_ne {c : Char} (hs : isSpace c = false) (hn : c ≠ '\n') (hr : c ≠ '\r')
    (cs : List Char) : endsLine (c :: cs) = false := by
  have hskip : skipSpaces (c :: cs) = c :: cs := List.dropWhile_cons_of_neg (by simp [hs])
  rw [endsLine, hskip]
  split
  · rename_i he
    exact absurd (List.cons_eq_cons.1 he).1 hn
  · rename_i he
    exact absurd (List.cons_eq_cons.1 he).1 hr
  · rfl

theorem atBreak_of_ne {c : Char} (hn : c ≠ '\n') (hr : c ≠ '\r') (cs : List Char) :
    atBreak (c :: cs) = false := by
  unfold atBreak
  split
  · rename_i he
    exact absurd (List.cons_eq_cons.1 he).1 hr
  · rename_i he
    exact absurd (List.cons_eq_cons.1 he).1 hn
  · rfl

/-- A spelled character is read between three double quotes. -/
theorem Spelling.multilineFrom_append {chars : List Char} {c : Char} (h : Spelling chars c)
    (rest : List Char) :
    multilineFrom 0 false (chars ++ rest) =
      (multilineFrom 0 false rest).map fun r => (c :: r.1, r.2) := by
  have hunit := h.unit?_append rest
  obtain ⟨first, more, rfl, hquote, hn, hr, hbackslash⟩ := h.exists_head
  have hfold : ¬ (first = '\\' ∧ endsLine (more ++ rest) = true) := by
    rintro ⟨he, hends⟩
    obtain ⟨letter, others, rfl, hs, hln, hlr⟩ := hbackslash he
    rw [List.cons_append, endsLine_of_ne hs hln hlr] at hends
    cases hends
  have hplain : ¬ (first = '"' ∨ first = '\n' ∨ atBreak (first :: (more ++ rest)) = true) := by
    rw [atBreak_of_ne hn hr]
    simp [hquote, hn]
  rw [List.cons_append] at hunit ⊢
  rw [multilineFrom, if_neg (by simp), if_neg (fun h => hquote h.1), if_neg hfold, if_neg hplain, hunit]
  simp only
  rw [multilineFrom_eq_drop]
  simp

theorem multilineFrom_line (cs : List Char) : multilineFrom 0 false ('\n' :: cs) =
    (multilineFrom 0 false cs).map fun r => ('\n' :: r.1, r.2) := by
  rw [multilineFrom, if_neg (by simp), if_neg (by simp), if_neg (by simp), if_pos (by simp)]

theorem multilineFrom_quote {cs : List Char} (h : quoteRun '"' ('"' :: cs) < 3) :
    multilineFrom 0 false ('"' :: cs) =
      (multilineFrom 0 false cs).map fun r => ('"' :: r.1, r.2) := by
  rw [multilineFrom, if_neg (by simp), if_neg (by omega), if_neg (by simp), if_pos (by simp)]

/-- Quotes that belong to the text, and the closing ones. -/
theorem multilineFrom_close (hrest : ∀ c, rest.head? = some c → c ≠ '"') {count : Nat} (h : count ≤ 2) :
    multilineFrom 0 false (List.replicate count '"' ++ '"' :: '"' :: '"' :: rest) =
      some (List.replicate count '"', rest) := by
  obtain ⟨hrun, hclose⟩ := closeRun_replicate hrest h
  obtain ⟨cs, hcs⟩ := exists_cons_of_close '"' count rest
  rw [hcs] at hrun hclose ⊢
  rw [multilineFrom, if_neg (by simp), if_pos ⟨rfl, hrun⟩, hclose]

/-- **What spans a text between double quotes is read as the text.** -/
theorem Spans.multilineFrom_eq (hrest : ∀ c, rest.head? = some c → c ≠ '"') {cs written : List Char}
    (h : Spans '"' KeptSpelling rest cs written) : multilineFrom 0 false written = some (cs, rest) := by
  induction h with
  | close hcount => exact multilineFrom_close hrest hcount
  | spelled hchars _ ih =>
    rcases hchars with hspelling | ⟨rfl, rfl⟩
    · rw [hspelling.multilineFrom_append, ih]
      rfl
    · rw [List.singleton_append, multilineFrom_line, ih]
      rfl
  | single hrun _ ih =>
    rw [multilineFrom_quote hrun, ih]
    rfl

/-! ## Between single quotes -/

/-- **Plain characters are read back between single quotes.** -/
theorem literal_append {cs : List Char} (h : ∀ c ∈ cs, isPlain c = true ∧ c ≠ '\'')
    (rest : List Char) : literal (cs ++ '\'' :: rest) = some (cs, rest) := by
  have hinside : ∀ c ∈ cs, (isPlain c && c ≠ '\'') = true := by
    intro c hc
    obtain ⟨hplain, hquote⟩ := h c hc
    simp [hplain, hquote]
  rw [literal]
  simp only [List.dropWhile_append_of_pos hinside, List.takeWhile_append_of_pos hinside]
  simp

theorem multilineLiteral_close (hrest : ∀ c, rest.head? = some c → c ≠ '\'') {count : Nat}
    (h : count ≤ 2) :
    multilineLiteral (List.replicate count '\'' ++ '\'' :: '\'' :: '\'' :: rest) =
      some (List.replicate count '\'', rest) := by
  obtain ⟨hrun, hclose⟩ := closeRun_replicate hrest h
  obtain ⟨cs, hcs⟩ := exists_cons_of_close '\'' count rest
  rw [hcs] at hrun hclose ⊢
  rw [multilineLiteral, if_pos ⟨rfl, hrun⟩, hclose]

theorem multilineLiteral_cons {c : Char} {cs : List Char}
    (ho : c = '\'' → quoteRun '\'' (c :: cs) < 3) (hc : isPlain c = true ∨ c = '\n') :
    multilineLiteral (c :: cs) = (multilineLiteral cs).map fun r => (c :: r.1, r.2) := by
  have hopen : ¬ (c = '\'' ∧ 3 ≤ quoteRun '\'' (c :: cs)) := fun h => absurd h.2 (by have := ho h.1; omega)
  have hinside : isPlain c = true ∨ atBreak (c :: cs) = true := by
    rcases hc with hplain | rfl
    · exact .inl hplain
    · exact .inr rfl
  rw [multilineLiteral, if_neg hopen, if_pos hinside]

/-- **What spans a text between single quotes is read as the text.** -/
theorem Spans.multilineLiteral_eq (hrest : ∀ c, rest.head? = some c → c ≠ '\'') {cs written : List Char}
    (h : Spans '\'' PlainSpelling rest cs written) : multilineLiteral written = some (cs, rest) := by
  induction h with
  | close hcount => exact multilineLiteral_close hrest hcount
  | spelled hchars _ ih =>
    obtain ⟨rfl, hquote, hc⟩ := hchars
    rw [List.singleton_append, multilineLiteral_cons (fun he => absurd he hquote) hc, ih]
    rfl
  | single hrun _ ih =>
    rw [multilineLiteral_cons (fun _ => hrun) (.inl (by decide)), ih]
    rfl

end ConverterBuilders.Toml
