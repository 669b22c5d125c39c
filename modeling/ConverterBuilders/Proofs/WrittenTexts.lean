import ConverterBuilders.Proofs.Spellings
import ConverterBuilders.Toml.Printer
import Mathlib.Tactic.SplitIfs

/-!
# Written texts

A text is written in one of four forms, and whatever characters it holds, the form gives them back.  The
scanner cuts it off right behind its closing quotes, provided that no further quote follows.

Main statements:

* `Spans.multilineBasicLength_eq`, `Spans.multilineLiteralLength_eq`: where the scanner ends a text over
  several lines;
* `Spans.skipLineEnd_eq`: the line end behind the opening quotes is no part of the text;
* `quotes_writeText`: a written text is a text in quotes.
-/

namespace ConverterBuilders.Toml

open Text

variable {quote : Char} {rest : List Char}

/-! ## Where a written text ends -/

theorem upperHexDigit_solid : ∀ n < 16,
    upperHexDigit n ≠ '\n' ∧ upperHexDigit n ≠ '"' ∧ upperHexDigit n ≠ '\\' := by decide

theorem basicLength_cons {c : Char} (hn : c ≠ '\n') (hq : c ≠ '"') (hb : c ≠ '\\') (cs : List Char) :
    basicLength (c :: cs) = basicLength cs + 1 := by
  rw [basicLength]
  · exact hn
  · exact hq
  · exact fun _ he _ => hb he
  · exact fun _ he _ => hb he

theorem multilineBasicLength_cons {c : Char} (hq : c ≠ '"') (hb : c ≠ '\\') (cs : List Char) :
    multilineBasicLength (c :: cs) = multilineBasicLength cs + 1 := by
  rw [multilineBasicLength]
  · rw [quoteRun_of_ne hq, if_neg (by decide)]
  · exact fun _ he _ => hb he
  · exact fun _ he _ => hb he

/-- A spelled character is passed over whole by what passes over plain characters and escapes. -/
theorem Spelling.length_append {length : List Char → Nat}
    (hplain : ∀ c cs, c ≠ '\n' → c ≠ '"' → c ≠ '\\' → length (c :: cs) = length cs + 1)
    (hescape : ∀ letter cs, letter ≠ '\n' → length ('\\' :: letter :: cs) = length cs + 2)
    {chars : List Char} {c : Char} (h : Spelling chars c) (rest : List Char) :
    length (chars ++ rest) = length rest + chars.length := by
  cases h with
  | plain hc hquote hbackslash => exact hplain c rest (ne_of_test hc (by decide)) hquote hbackslash
  | @short letter _ hshort =>
    have hall : ∀ entry ∈ shortEscapes, entry.1 ≠ '\n' := by decide
    exact hescape letter rest (hall _ hshort)
  | @number c hsmall =>
    have hzero : ∀ cs, length ('0' :: cs) = length cs + 1 :=
      fun cs => hplain '0' cs (by decide) (by decide) (by decide)
    obtain ⟨hn, hq, hb⟩ := upperHexDigit_solid (c.toNat / 16) (by omega)
    obtain ⟨hn', hq', hb'⟩ := upperHexDigit_solid (c.toNat % 16) (by omega)
    simp only [List.cons_append, List.nil_append]
    rw [hescape 'u' _ (by decide), hzero, hzero, hplain _ _ hn hq hb, hplain _ _ hn' hq' hb']
    rfl

theorem basicLength_escape {letter : Char} (hn : letter ≠ '\n') (cs : List Char) :
    basicLength ('\\' :: letter :: cs) = basicLength cs + 2 := by
  by_cases hb : letter = '\\'
  · subst hb
    rfl
  · by_cases hq : letter = '"'
    · subst hq
      rfl
    · rw [basicLength, basicLength_cons hn hq hb]
      · exact fun he => absurd he (by decide)
      · exact fun he => absurd he (by decide)
      · exact fun _ _ he => hb (List.cons_eq_cons.1 he).1
      · exact fun _ _ he => hq (List.cons_eq_cons.1 he).1

theorem multilineBasicLength_escape (letter : Char) (cs : List Char) :
    multilineBasicLength ('\\' :: letter :: cs) = multilineBasicLength cs + 2 := by
  by_cases hb : letter = '\\'
  · subst hb
    rfl
  · by_cases hq : letter = '"'
    · subst hq
      rfl
    · rw [multilineBasicLength, quoteRun_of_ne (by decide), if_neg (by decide),
        multilineBasicLength_cons hq hb]
      · exact fun _ _ he => hb (List.cons_eq_cons.1 he).1
      · exact fun _ _ he => hq (List.cons_eq_cons.1 he).1

/-- A spelled character is passed over whole on a line. -/
theorem Spelling.basicLength_append {chars : List Char} {c : Char} (h : Spelling chars c)
    (rest : List Char) : basicLength (chars ++ rest) = basicLength rest + chars.length :=
  h.length_append (fun _ cs hn hq hb => basicLength_cons hn hq hb cs)
    (fun _ cs hn => basicLength_escape hn cs) rest

/-- A spelled character is passed over whole between three double quotes. -/
theorem Spelling.multilineBasicLength_append {chars : List Char} {c : Char} (h : Spelling chars c)
    (rest : List Char) :
    multilineBasicLength (chars ++ rest) = multilineBasicLength rest + chars.length :=
  h.length_append (fun _ cs _ hq hb => multilineBasicLength_cons hq hb cs)
    (fun letter cs _ => multilineBasicLength_escape letter cs) rest

theorem basicLength_escapeFrom (cs rest : List Char) :
    basicLength (escapeFrom false 0 0 cs ++ '"' :: rest) = (escapeFrom false 0 0 cs).length + 1 := by
  induction cs with
  | nil => rfl
  | cons c cs ih =>
    obtain ⟨chars, hchars, hs⟩ := exists_spelling_line c cs
    rw [hchars, List.append_assoc, hs.basicLength_append, ih, List.length_append]
    omega

/-- The scanner takes up to two quotes in front of the closing three. -/
theorem min_quoteRun_close (hrest : ∀ c, rest.head? = some c → c ≠ quote) {count : Nat} (h : count ≤ 2) :
    min (quoteRun quote (List.replicate count quote ++ quote :: quote :: quote :: rest)) 5 +
      rest.length = (List.replicate count quote ++ quote :: quote :: quote :: rest).length := by
  have hmin : min (count + 3) 5 = count + 3 := by omega
  rw [replicate_append_close, quoteRun_replicate hrest, hmin, List.length_append,
    List.length_replicate]

theorem multilineBasicLength_quote (cs : List Char) : multilineBasicLength ('"' :: cs) =
    if 3 ≤ quoteRun '"' ('"' :: cs) then min (quoteRun '"' ('"' :: cs)) 5
    else multilineBasicLength cs + 1 := by
  rw [multilineBasicLength]
  · exact fun _ he _ => absurd he (by decide)
  · exact fun _ he _ => absurd he (by decide)

/-- **The scanner takes what spans a text between double quotes.** -/
theorem Spans.multilineBasicLength_eq (hrest : ∀ c, rest.head? = some c → c ≠ '"')
    {cs written : List Char} (h : Spans '"' KeptSpelling rest cs written) :
    multilineBasicLength written + rest.length = written.length := by
  induction h with
  | @close count hcount =>
    have hmin := min_quoteRun_close hrest hcount
    have hrun := (closeRun_replicate hrest hcount).1
    obtain ⟨cs, hcs⟩ := exists_cons_of_close '"' count rest
    rw [hcs] at hmin hrun ⊢
    rw [multilineBasicLength_quote, if_pos hrun, hmin]
  | spelled hchars _ ih =>
    have happend : ∀ {chars c}, KeptSpelling chars c → ∀ rest,
        multilineBasicLength (chars ++ rest) = multilineBasicLength rest + chars.length := by
      rintro chars c (hspelling | ⟨rfl, rfl⟩) rest
      · exact hspelling.multilineBasicLength_append rest
      · exact multilineBasicLength_cons (by decide) (by decide) rest
    rw [happend hchars, List.length_append]
    omega
  | single hrun _ ih =>
    rw [multilineBasicLength_quote, if_neg (by omega), List.length_cons]
    omega

/-- **The scanner takes what spans a text between single quotes.** -/
theorem Spans.multilineLiteralLength_eq (hrest : ∀ c, rest.head? = some c → c ≠ '\'')
    {cs written : List Char} (h : Spans '\'' PlainSpelling rest cs written) :
    multilineLiteralLength written + rest.length = written.length := by
  induction h with
  | @close count hcount =>
    have hmin := min_quoteRun_close hrest hcount
    have hrun := (closeRun_replicate hrest hcount).1
    obtain ⟨cs, hcs⟩ := exists_cons_of_close '\'' count rest
    rw [hcs] at hmin hrun ⊢
    rw [multilineLiteralLength, if_pos hrun, hmin]
  | spelled hchars _ ih =>
    obtain ⟨rfl, hquote, -⟩ := hchars
    rw [List.singleton_append, multilineLiteralLength, quoteRun_of_ne hquote, if_neg (by decide),
      List.length_cons]
    omega
  | single hrun _ ih =>
    rw [multilineLiteralLength, if_neg (by omega), List.length_cons]
    omega

theorem literalLength_append {cs : List Char} (h : ∀ c ∈ cs, isPlain c = true ∧ c ≠ '\'')
    (rest : List Char) : literalLength (cs ++ '\'' :: rest) = cs.length + 1 := by
  induction cs with
  | nil => rfl
  | cons c cs ih =>
    obtain ⟨hplain, hquote⟩ := h c (List.mem_cons_self ..)
    rw [List.cons_append, literalLength, ih fun d hd => h d (List.mem_cons_of_mem _ hd)]
    · rfl
    · exact ne_of_test hplain (by decide)
    · exact hquote

/-! ## The line end behind the opening quotes -/

theorem skipLineEnd_of_ne {c : Char} (hn : c ≠ '\n') (hr : c ≠ '\r') (cs : List Char) :
    skipLineEnd (c :: cs) = c :: cs := by
  rw [skipLineEnd]
  · exact fun _ he => hn (List.cons_eq_cons.1 he).1
  · exact fun _ he => hr (List.cons_eq_cons.1 he).1

/-- The line end that stands in front of a text with line ends is no part of it, and no other begins
with one. -/
theorem Spans.skipLineEnd_eq {spelling : List Char → Char → Prop} (hq : isQuote quote = true)
    (hspelling : ∀ chars c, spelling chars c → c ≠ '\n' →
      ∃ first more, chars = first :: more ∧ first ≠ '\n' ∧ first ≠ '\r')
    {cs written : List Char} (h : Spans quote spelling rest cs written) :
    skipLineEnd ((if cs.contains '\n' then ['\n'] else []) ++ written) = written := by
  have hquote : quote ≠ '\n' ∧ quote ≠ '\r' := ⟨ne_of_test hq (by decide), ne_of_test hq (by decide)⟩
  by_cases hline : cs.contains '\n' = true
  · rw [if_pos hline]
    rfl
  · rw [if_neg hline, List.nil_append]
    cases h with
    | @close count hcount =>
      obtain ⟨cs, hcs⟩ := exists_cons_of_close quote count rest
      rw [hcs, skipLineEnd_of_ne hquote.1 hquote.2]
    | @spelled chars cs written c hchars _ =>
      have hc : c ≠ '\n' := by
        rintro rfl
        exact hline (by simp)
      obtain ⟨first, more, rfl, hn, hr⟩ := hspelling chars c hchars hc
      exact skipLineEnd_of_ne hn hr _
    | single => exact skipLineEnd_of_ne hquote.1 hquote.2 _

theorem KeptSpelling.exists_head {chars : List Char} {c : Char} (h : KeptSpelling chars c)
    (hc : c ≠ '\n') : ∃ first more, chars = first :: more ∧ first ≠ '\n' ∧ first ≠ '\r' := by
  rcases h with h | h
  · obtain ⟨first, more, hchars, -, hn, hr, -⟩ := h.exists_head
    exact ⟨first, more, hchars, hn, hr⟩
  · exact absurd h.2 hc

theorem PlainSpelling.exists_head {chars : List Char} {c : Char} (h : PlainSpelling chars c)
    (hc : c ≠ '\n') : ∃ first more, chars = first :: more ∧ first ≠ '\n' ∧ first ≠ '\r' := by
  obtain ⟨rfl, -, hplain⟩ := h
  exact ⟨c, [], rfl, hc, ne_of_test (hplain.resolve_right hc) (by decide)⟩

/-! ## Written texts -/

def Unquoted (rest : List Char) : Prop := ∀ c, rest.head? = some c → isQuote c = false

theorem Unquoted.ne (h : Unquoted rest) (hq : isQuote quote = true) :
    ∀ c, rest.head? = some c → c ≠ quote := by
  rintro c hc rfl
  rw [h c hc] at hq
  cases hq

/-- Whether characters are a text in quotes: it is read from them, and the scanner takes them and no
more. -/
structure Quotes (chars text : List Char) : Prop where
  reads : ∀ rest, Unquoted rest → readChars (chars ++ rest) = some (text, rest)
  ends : ∀ rest, Unquoted rest → quotedLength (chars ++ rest) = chars.length

/-- Between single quotation marks stands a text if what is read behind the opening one is the text, and
if the scanner takes what stands up to the closing one. -/
theorem quotes_of_line (hq : isQuote quote = true)
    {decode : List Char → Option (List Char × List Char)} {length : List Char → Nat}
    (hread : ∀ cs, (∀ tail, cs ≠ quote :: quote :: tail) → readChars (quote :: cs) = decode cs)
    (hlength : ∀ cs, (∀ tail, cs ≠ quote :: quote :: tail) → quotedLength (quote :: cs) = length cs + 1)
    {cs body : List Char} (hbody : body = [] ∨ ∃ c more, body = c :: more ∧ c ≠ quote)
    (hdecode : ∀ rest, decode (body ++ quote :: rest) = some (cs, rest))
    (hend : ∀ rest, length (body ++ quote :: rest) = body.length + 1) :
    Quotes ([quote] ++ body ++ [quote]) cs := by
  have hsingle : ∀ rest, Unquoted rest → ∀ tail, body ++ quote :: rest ≠ quote :: quote :: tail := by
    intro rest hrest tail he
    rcases hbody with rfl | ⟨c, more, rfl, hc⟩
    · have hhead : rest.head? = some quote := by rw [(List.cons_eq_cons.1 he).2]; rfl
      exact hrest.ne hq quote hhead rfl
    · exact hc (List.cons_eq_cons.1 he).1
  have hall : ∀ rest, [quote] ++ body ++ [quote] ++ rest = quote :: (body ++ quote :: rest) := by
    intro rest
    simp
  constructor
  · intro rest hrest
    rw [hall, hread _ (hsingle rest hrest), hdecode]
  · intro rest hrest
    rw [hall, hlength _ (hsingle rest hrest), hend]
    simp

theorem quotes_basic (cs : List Char) :
    Quotes (quotes .basic ++ content .basic cs ++ quotes .basic) cs := by
  have hread : ∀ cs, (∀ tail, cs ≠ '"' :: '"' :: tail) → readChars ('"' :: cs) = basicFrom 0 cs := by
    intro cs hcs
    rw [readChars, readLineChars]
    · exact fun tail he => hcs tail (List.cons_eq_cons.1 he).2
    · exact fun tail he => absurd (List.cons_eq_cons.1 he).1 (by decide)
  have hlength : ∀ cs, (∀ tail, cs ≠ '"' :: '"' :: tail) → quotedLength ('"' :: cs) = basicLength cs + 1 := by
    intro cs hcs
    rw [quotedLength]
    exact hcs
  have hbody : escapeFrom false 0 0 cs = [] ∨ ∃ c more, escapeFrom false 0 0 cs = c :: more ∧ c ≠ '"' := by
    cases cs with
    | nil => exact .inl rfl
    | cons c cs =>
      obtain ⟨chars, hchars, hs⟩ := exists_spelling_line c cs
      obtain ⟨first, more, rfl, hquote, -⟩ := hs.exists_head
      exact .inr ⟨first, _, hchars, hquote⟩
  exact quotes_of_line (by decide) hread hlength hbody (basicFrom_escapeFrom cs) (basicLength_escapeFrom cs)

theorem quotes_literal {cs : List Char} (h : ∀ c ∈ cs, isPlain c = true ∧ c ≠ '\'') :
    Quotes (quotes .literal ++ content .literal cs ++ quotes .literal) cs := by
  have hread : ∀ cs, (∀ tail, cs ≠ '\'' :: '\'' :: tail) → readChars ('\'' :: cs) = literal cs := by
    intro cs hcs
    rw [readChars, readLineChars]
    · exact fun tail he => absurd (List.cons_eq_cons.1 he).1 (by decide)
    · exact fun tail he => hcs tail (List.cons_eq_cons.1 he).2
  have hlength : ∀ cs, (∀ tail, cs ≠ '\'' :: '\'' :: tail) →
      quotedLength ('\'' :: cs) = literalLength cs + 1 := by
    intro cs hcs
    rw [quotedLength]
    exact hcs
  have hbody : cs = [] ∨ ∃ c more, cs = c :: more ∧ c ≠ '\'' := by
    cases cs with
    | nil => exact .inl rfl
    | cons c cs => exact .inr ⟨c, cs, rfl, (h c (List.mem_cons_self ..)).2⟩
  exact quotes_of_line (by decide) hread hlength hbody (literal_append h) (literalLength_append h)

/-- Between three quotes stands a text if what is read behind the opening ones is the text, and if the
scanner passes over no more than a line end in front of it. -/
theorem quotes_of_multiline {spelling : List Char → Char → Prop} (hq : isQuote quote = true)
    {decode : List Char → Option (List Char × List Char)} {length : List Char → Nat}
    (hread : ∀ cs, readChars (quote :: quote :: quote :: cs) = decode (skipLineEnd cs))
    (hlength : ∀ cs, quotedLength (quote :: quote :: quote :: cs) = length cs + 3)
    (hline : ∀ cs, length ('\n' :: cs) = length cs + 1)
    (hhead : ∀ chars c, spelling chars c → c ≠ '\n' →
      ∃ first more, chars = first :: more ∧ first ≠ '\n' ∧ first ≠ '\r')
    (hdecode : ∀ rest cs written, (∀ c, rest.head? = some c → c ≠ quote) →
      Spans quote spelling rest cs written → decode written = some (cs, rest))
    (hend : ∀ rest cs written, (∀ c, rest.head? = some c → c ≠ quote) →
      Spans quote spelling rest cs written → length written + rest.length = written.length)
    {cs body : List Char}
    (hspans : ∀ rest, Spans quote spelling rest cs (body ++ quote :: quote :: quote :: rest)) :
    Quotes ([quote, quote, quote] ++ ((if cs.contains '\n' then ['\n'] else []) ++ body) ++
      [quote, quote, quote]) cs := by
  have hall : ∀ rest, [quote, quote, quote] ++ ((if cs.contains '\n' then ['\n'] else []) ++ body) ++
      [quote, quote, quote] ++ rest = quote :: quote :: quote ::
        ((if cs.contains '\n' then ['\n'] else []) ++ (body ++ quote :: quote :: quote :: rest)) := by
    intro rest
    simp
  constructor
  · intro rest hrest
    rw [hall, hread, (hspans rest).skipLineEnd_eq hq hhead]
    exact hdecode rest cs _ (hrest.ne hq) (hspans rest)
  · intro rest hrest
    have hwritten := hend rest cs _ (hrest.ne hq) (hspans rest)
    have hopening : length ((if cs.contains '\n' then ['\n'] else []) ++
        (body ++ quote :: quote :: quote :: rest)) = (if cs.contains '\n' then ['\n'] else []).length +
          length (body ++ quote :: quote :: quote :: rest) := by
      split
      · rw [List.singleton_append, hline, List.length_singleton, Nat.add_comm]
      · rw [List.nil_append, List.length_nil, Nat.zero_add]
    rw [hall, hlength, hopening]
    simp only [List.length_append, List.length_cons, List.length_nil] at hwritten ⊢
    omega

theorem quotes_multilineBasic (cs : List Char) :
    Quotes (quotes .multilineBasic ++ content .multilineBasic cs ++ quotes .multilineBasic) cs := by
  have hread : ∀ cs, readChars ('"' :: '"' :: '"' :: cs) = multilineFrom 0 false (skipLineEnd cs) :=
    fun _ => rfl
  exact quotes_of_multiline (by decide) hread (fun _ => rfl)
    (multilineBasicLength_cons (by decide) (by decide)) (fun _ _ h hn => h.exists_head hn)
    (fun _ _ _ hrest h => h.multilineFrom_eq hrest)
    (fun _ _ _ hrest h => h.multilineBasicLength_eq hrest) (spans_escapeFrom (Nat.le_refl 2) cs)

theorem quotes_multilineLiteral {cs : List Char} (h : ∀ c ∈ cs, isPlain c = true ∨ c = '\n')
    (hrun : hasRun 3 '\'' cs = false) :
    Quotes (quotes .multilineLiteral ++ content .multilineLiteral cs ++ quotes .multilineLiteral) cs := by
  have hread : ∀ cs, readChars ('\'' :: '\'' :: '\'' :: cs) = multilineLiteral (skipLineEnd cs) :=
    fun _ => rfl
  have hline : ∀ cs, multilineLiteralLength ('\n' :: cs) = multilineLiteralLength cs + 1 := by
    intro cs
    rw [multilineLiteralLength, quoteRun_of_ne (by decide), if_neg (by decide)]
  exact quotes_of_multiline (by decide) hread (fun _ => rfl) hline (fun _ _ h hn => h.exists_head hn)
    (fun _ _ _ hrest h => h.multilineLiteral_eq hrest)
    (fun _ _ _ hrest h => h.multilineLiteralLength_eq hrest) (spans_plain h hrun)

/-! ## The form of a text -/

theorem isPlain_or_line {c : Char} (h : isControl c = false) : isPlain c = true ∨ c = '\n' := by
  simp only [isControl, Bool.or_eq_false_iff, Bool.and_eq_false_iff, decide_eq_false_iff_not] at h
  simp only [isPlain, Bool.or_eq_true, Bool.and_eq_true, decide_eq_true_eq]
  by_cases ht : c = '\t'
  · exact .inl (.inl ht)
  · by_cases hn : c = '\n'
    · exact .inr hn
    · exact .inl (.inr ⟨by simp_all, h.2⟩)

/-- What holds of a text between single quotes. -/
theorem of_formOf_literal {cs : List Char} (h : formOf cs = .literal) :
    ∀ c ∈ cs, isPlain c = true ∧ c ≠ '\'' := by
  have hkept : cs.any isControl = false ∧ cs.contains '\'' = false ∧ cs.contains '\n' = false := by
    simp only [formOf] at h
    split_ifs at h with _ hliteral
    simpa [and_assoc] using hliteral
  obtain ⟨hcontrol, hquote, hline⟩ := hkept
  intro c hc
  have hplain := isPlain_or_line (Bool.eq_false_iff.2 (List.any_eq_false.1 hcontrol c hc))
  refine ⟨hplain.resolve_right ?_, ?_⟩
  · rintro rfl
    simp [hc] at hline
  · rintro rfl
    simp [hc] at hquote

/-- What holds of a text between three single quotes. -/
theorem of_formOf_multilineLiteral {cs : List Char} (h : formOf cs = .multilineLiteral) :
    (∀ c ∈ cs, isPlain c = true ∨ c = '\n') ∧ hasRun 3 '\'' cs = false := by
  have hkept : cs.any isControl = false ∧ hasRun 3 '\'' cs = false := by
    simp only [formOf] at h
    split_ifs at h with _ _ _ hliteral
    simpa using hliteral
  refine ⟨fun c hc => ?_, hkept.2⟩
  exact isPlain_or_line (Bool.eq_false_iff.2 (List.any_eq_false.1 hkept.1 c hc))

/-- **A written text is a text in quotes.** -/
theorem quotes_writeText (s : String) : Quotes (writeText s).toList s.toList := by
  rw [writeText, String.toList_ofList]
  cases hform : formOf s.toList with
  | basic => exact quotes_basic s.toList
  | literal => exact quotes_literal (of_formOf_literal hform)
  | multilineBasic => exact quotes_multilineBasic s.toList
  | multilineLiteral =>
    obtain ⟨hkept, hrun⟩ := of_formOf_multilineLiteral hform
    exact quotes_multilineLiteral hkept hrun

end ConverterBuilders.Toml
