import ConverterBuilders.Proofs.WrittenValues
import ConverterBuilders.Toml.Reader
import Mathlib.Data.List.Forall2

/-!
# Written sections

A text of sections is read in two halves that meet at its lines: each written line says one header or one
assignment, and headers with their assignments, all under different names, make a table of tables.

Main statements:

* `Lines.readStatements_eq`: lines are cut into what they say;
* `fill_of_meant`, `addSections_of_meant`: what assignments and sections with new names add to fields;
* `read_writeSections`: written sections are read back.
-/

namespace ConverterBuilders.Toml

/-! ## Words -/

def IsWord (name : String) : Prop := name.toList ≠ [] ∧ name.toList.all isKeyChar = true

instance (name : String) : Decidable (IsWord name) := by
  unfold IsWord
  infer_instance

theorem isDelimiter_of_isKeyChar {c : Char} (h : isKeyChar c = true) : isDelimiter c = false := by
  refine Bool.eq_false_iff.2 fun hdelimiter => ?_
  simp only [isDelimiter, isSpace, Bool.or_eq_true, decide_eq_true_eq] at hdelimiter
  rcases hdelimiter with (((((((((((rfl | rfl) | rfl) | rfl) | rfl) | rfl) | rfl) | rfl) | rfl) | rfl) |
    rfl) | rfl) <;> exact absurd h (by decide)

theorem isQuote_of_isKeyChar {c : Char} (h : isKeyChar c = true) : isQuote c = false := by
  refine Bool.eq_false_iff.2 fun hquote => ?_
  simp only [isQuote, Bool.or_eq_true, decide_eq_true_eq] at hquote
  rcases hquote with rfl | rfl <;> exact absurd h (by decide)

theorem IsWord.not_delimiter {name : String} (h : IsWord name) :
    ∀ c ∈ name.toList, isDelimiter c = false :=
  fun c hc => isDelimiter_of_isKeyChar (List.all_eq_true.1 h.2 c hc)

theorem IsWord.not_quote {name : String} (h : IsWord name) : ∀ c ∈ name.toList, isQuote c = false :=
  fun c hc => isQuote_of_isKeyChar (List.all_eq_true.1 h.2 c hc)

/-- A key of one word leads to no table but gives its name. -/
theorem IsWord.keyOf_eq {name : String} (h : IsWord name) :
    keyOf [.bare name.toList] = .ok ([], name) := by
  have hpart := partOf_word h.1 h.2
  rw [String.ofList_toList] at hpart
  exact keyOf_single hpart

/-- A word up to a closing bracket is a key. -/
theorem readKey_bracket {word : List Char} (hne : word ≠ []) (h : ∀ c ∈ word, isDelimiter c = false)
    (hq : ∀ c ∈ word, isQuote c = false) (rest : List Char) :
    readKey (word ++ ']' :: rest) = ([.bare word], ']' :: rest) := by
  have hbracket : isDelimiter ']' = true := by decide
  have hskip : skipSpaces (']' :: rest) = ']' :: rest := rfl
  rw [readKey, readKeyFrom, ofKey_word hne h hq hbracket]
  simp only [hskip]
  rfl

/-- A word begins with one of its characters. -/
theorem IsWord.exists_cons {name : String} (h : IsWord name) :
    ∃ c more, name.toList = c :: more ∧ Solid c ∧ c ≠ '\ufeff' ∧ c ≠ '[' := by
  obtain ⟨hne, hall⟩ := h
  obtain ⟨c, more, hname⟩ := List.exists_cons_of_ne_nil hne
  have hc : isKeyChar c = true := List.all_eq_true.1 hall c (hname ▸ List.mem_cons_self ..)
  have hblank : c ≠ ' ' := ne_of_test hc (by decide)
  have htab : c ≠ '\t' := ne_of_test hc (by decide)
  have hspace : isSpace c = false := by simp [isSpace, hblank, htab]
  have hsolid : Solid c :=
    ⟨hspace, ne_of_test hc (by decide), ne_of_test hc (by decide), ne_of_test hc (by decide)⟩
  exact ⟨c, more, hname, hsolid, ne_of_test hc (by decide), ne_of_test hc (by decide)⟩

/-! ## Lines -/

structure Says (line : List Char) (statement : Statement) : Prop where
  begins : ∃ c more, line = c :: more ∧ Solid c ∧ c ≠ '\ufeff'
  reads : ∀ rest, readStatement (line ++ rest) = some (statement, rest)

/-- Lines with what they say; lines without anything on them may stand between. -/
inductive Lines : List Char → List Statement → Prop
  | nil : Lines [] []
  | blank {cs : List Char} {statements : List Statement} (h : Lines cs statements) :
      Lines ('\n' :: cs) statements
  | line {line cs : List Char} {statement : Statement} {statements : List Statement}
      (hline : Says line statement) (h : Lines cs statements) :
      Lines (line ++ cs) (statement :: statements)

theorem Lines.append {left right : List Char} {before behind : List Statement} (hl : Lines left before)
    (hr : Lines right behind) : Lines (left ++ right) (before ++ behind) := by
  induction hl with
  | nil => exact hr
  | blank _ ih => exact .blank ih
  | line hline _ ih =>
    rw [List.append_assoc]
    exact .line hline ih

theorem Lines.skipMark_eq {cs : List Char} {statements : List Statement} (h : Lines cs statements) :
    skipMark cs = cs := by
  cases h with
  | nil => rfl
  | blank => rfl
  | line hline =>
    obtain ⟨c, more, rfl, -, hmark⟩ := hline.begins
    rw [List.cons_append, skipMark]
    exact fun _ he => hmark (List.cons_eq_cons.1 he).1

/-- **Lines are cut into what they say.** -/
theorem Lines.readStatements_eq {cs : List Char} {statements : List Statement} (h : Lines cs statements)
    {fuel : Nat} (hfuel : cs.length < fuel) : readStatements fuel cs = some statements := by
  induction h generalizing fuel with
  | nil =>
    obtain ⟨fuel, rfl⟩ : ∃ n, fuel = n + 1 := ⟨fuel - 1, by omega⟩
    rfl
  | @blank cs statements _ ih =>
    have hskip : skipBlank ('\n' :: cs) = skipBlank cs := rfl
    rw [← ih (Nat.lt_of_succ_lt hfuel)]
    obtain ⟨fuel, rfl⟩ : ∃ n, fuel = n + 1 := ⟨fuel - 1, by omega⟩
    rw [readStatements, readStatements, hskip]
  | @line line cs statement statements hline _ ih =>
    obtain ⟨c, more, rfl, hsolid, -⟩ := hline.begins
    obtain ⟨fuel, rfl⟩ : ∃ n, fuel = n + 1 := ⟨fuel - 1, by omega⟩
    have hreads := hline.reads cs
    have hrest : readStatements fuel cs = some statements :=
      ih (by rw [List.length_append, List.length_cons] at hfuel; omega)
    rw [List.cons_append] at hreads ⊢
    rw [readStatements, hsolid.skipBlank_eq]
    simp only [bind, Option.bind, hreads, hrest]

theorem readHeader_of_ne {c : Char} (hbracket : c ≠ '[') (hspace : isSpace c = false)
    {cs rest after : List Char} {key : List Lexeme} (hkey : readKey (c :: cs) = (key, rest))
    (hclose : closeHeader false key rest = some after) :
    readHeader (c :: cs) = some (.header ⟨false, key⟩, after) := by
  have hskip : skipSpaces (c :: cs) = c :: cs :=
    List.dropWhile_cons_of_neg (by rw [hspace]; exact Bool.false_ne_true)
  rw [readHeader]
  · simp only [hskip, hkey, hclose, Option.map_some]
  · exact fun _ he => hbracket (List.cons_eq_cons.1 he).1

/-- A header on a line of its own. -/
theorem says_header {name : String} (h : IsWord name) :
    Says ('[' :: (name.toList ++ [']', '\n'])) (.header ⟨false, [.bare name.toList]⟩) := by
  refine ⟨⟨'[', _, rfl, by decide, by decide⟩, fun rest => ?_⟩
  obtain ⟨c, more, hname, hsolid, -, hbracket⟩ := h.exists_cons
  have hkey := readKey_bracket h.1 h.not_delimiter h.not_quote ('\n' :: rest)
  have hclose : closeHeader false [.bare name.toList] (']' :: '\n' :: rest) = some rest := rfl
  rw [List.cons_append, List.append_assoc, readStatement]
  rw [hname] at hkey hclose ⊢
  exact readHeader_of_ne hbracket hsolid.1 hkey hclose

/-- A line does not end where something is written. -/
theorem Solid.endLine_eq {c : Char} (h : Solid c) {cs more : List Char}
    (hskip : skipSpaces cs = c :: more) : endLine cs = none := by
  obtain ⟨-, hcomment, hline, hreturn⟩ := h
  have hend : atLineEnd (c :: more) = false := by
    rw [atLineEnd]
    · exact List.cons_ne_nil _ _
    · exact fun _ he => hline (List.cons_eq_cons.1 he).1
    · exact fun _ he => hreturn (List.cons_eq_cons.1 he).1
  rw [endLine, hskip]
  split
  · rename_i he
    exact absurd (List.cons_eq_cons.1 he).1 hcomment
  · rw [hend, if_neg Bool.false_ne_true]

/-- A value up to the end of the line. -/
theorem Spells.readLineValue_eq {value : List Char} {document : Document} (h : Spells value document) :
    ∃ written, written.read = .ok document ∧ ∀ rest,
      readLineValue (' ' :: (value ++ '\n' :: rest)) = some (written, rest) := by
  obtain ⟨written, hread, hvalue⟩ := h.reads
  obtain ⟨c, more, rfl, hsolid⟩ := h.begins
  refine ⟨written, hread, fun rest => ?_⟩
  have hskip : skipSpaces (' ' :: (c :: more ++ '\n' :: rest)) = c :: more ++ '\n' :: rest := by
    rw [skipSpaces, List.dropWhile_cons_of_pos (by decide), List.cons_append,
      List.dropWhile_cons_of_neg (by rw [hsolid.1]; exact Bool.false_ne_true)]
  have hend : endLine (' ' :: (c :: more ++ '\n' :: rest)) = none := hsolid.endLine_eq hskip
  have hafter : endLine ('\n' :: rest) = some rest := rfl
  rw [readLineValue, hend]
  simp only [hskip, bind, Option.bind]
  rw [hvalue _ rest (by rw [List.length_append]; omega)]
  simp only [hafter]

/-- An assignment on a line of its own. -/
theorem says_assignment {name : String} (h : IsWord name) {value : List Char} {document : Document}
    (hvalue : Spells value document) :
    ∃ written, written.read = .ok document ∧
      Says (name.toList ++ ' ' :: '=' :: ' ' :: (value ++ ['\n']))
        (.assignment ([.bare name.toList], written)) := by
  obtain ⟨written, hread, hline⟩ := hvalue.readLineValue_eq
  obtain ⟨c, more, hname, hsolid, hmark, hbracket⟩ := h.exists_cons
  refine ⟨written, hread, ⟨c, more ++ ' ' :: '=' :: ' ' :: (value ++ ['\n']), ?_, hsolid, hmark⟩,
    fun rest => ?_⟩
  · rw [hname, List.cons_append]
  · have hequals : isSpace '=' = false := by decide
    have hkey := readKey_word h.1 h.not_delimiter h.not_quote hequals (by decide)
      (' ' :: (value ++ '\n' :: rest))
    have hcs : name.toList ++ ' ' :: '=' :: ' ' :: (value ++ ['\n']) ++ rest =
        name.toList ++ ' ' :: '=' :: ' ' :: (value ++ '\n' :: rest) := by simp
    rw [hcs, readStatement]
    · rw [readAssignment, hkey]
      simp only [hline, Option.map_some]
    · rw [hname]
      exact fun _ he => hbracket (List.cons_eq_cons.1 he).1

/-! ## What assignments and sections add -/

def Means (assignment : Assignment) (field : String × Document) : Prop :=
  keyOf assignment.1 = .ok ([], field.1) ∧ assignment.2.read = .ok field.2

/-- Whether a header and its assignments give a name a table. -/
structure MeansTable (written : Header × List Assignment)
    (table : String × List (String × Document)) : Prop where
  single : written.1.several = false
  key : keyOf written.1.key = .ok ([], table.1)
  fields : List.Forall₂ Means written.2 table.2
  distinct : (table.2.map Prod.fst).Nodup

def valueField (field : String × Document) : String × Node := (field.1, .value field.2)

def tableField (table : String × List (String × Document)) : String × Node :=
  (table.1, .table .header (table.2.map valueField))

/-- A name behind others that are all different is new among them. -/
theorem ne_of_nodup {α : Type} {start : List (String × α)} {name : String} {names : List String}
    (h : (start.map Prod.fst ++ name :: names).Nodup) : ∀ field ∈ start, field.1 ≠ name := by
  rintro field hfield rfl
  exact (List.nodup_append.1 h).2.2 _ (List.mem_map_of_mem hfield) _ (List.mem_cons_self ..) rfl

/-- **Assignments of new names add their values to fields.** -/
theorem fill_of_meant {assignments : List Assignment} {fields : List (String × Document)}
    (h : List.Forall₂ Means assignments fields) (start : Fields)
    (hnames : (start.map Prod.fst ++ fields.map Prod.fst).Nodup) :
    fill assignments start = .ok (start ++ fields.map valueField) := by
  induction h generalizing start with
  | nil => rw [fill, List.map_nil, List.append_nil]
  | @cons assignment field assignments fields hmeans _ ih =>
    obtain ⟨key, value⟩ := assignment
    obtain ⟨hkey, hvalue⟩ := hmeans
    rw [List.map_cons] at hnames
    have hput := putNew_of_absent field.2 (ne_of_nodup hnames)
    have hrest := ih (start ++ [valueField field]) (by simpa [valueField] using hnames)
    rw [List.append_assoc] at hrest
    simp only [fill, hkey, hvalue, bind, Except.bind, assign_simple, hput]
    exact hrest

/-- **Sections under new names add their tables to fields.** -/
theorem addSections_of_meant {written : List (Header × List Assignment)}
    {tables : List (String × List (String × Document))} (h : List.Forall₂ MeansTable written tables)
    (start : Fields) (hnames : (start.map Prod.fst ++ tables.map Prod.fst).Nodup) :
    addSections written start = .ok (start ++ tables.map tableField) := by
  induction h generalizing start with
  | nil => rw [addSections, List.map_nil, List.append_nil]
  | @cons written table _ tables hmeans _ ih =>
    obtain ⟨⟨several, key⟩, assignments⟩ := written
    obtain ⟨rfl, hkey, hfields, hdistinct⟩ := hmeans
    rw [List.map_cons] at hnames
    have hfill := fill_of_meant hfields [] hdistinct
    have hadd : addSection false [] table.1 (fill assignments) start =
        .ok (start ++ [tableField table]) := by
      rw [addSection, if_neg Bool.false_ne_true, addTable, descend,
        update_of_absent _ (ne_of_nodup hnames)]
      simp only [hfill, List.nil_append]
      rfl
    have hrest := ih (start ++ [tableField table]) (by simpa [tableField] using hnames)
    rw [List.append_assoc] at hrest
    simp only [addSections, hkey, bind, Except.bind, hadd]
    exact hrest

theorem documentsOfFields_values (fields : List (String × Document)) :
    documentsOfFields (fields.map valueField) = fields := by
  induction fields with
  | nil => rfl
  | cons field fields ih => rw [List.map_cons, valueField, documentsOfFields, ih, Node.document]

theorem documentsOfFields_tables (tables : List (String × List (String × Document))) :
    documentsOfFields (tables.map tableField) = tables.map fun table => (table.1, .table table.2) := by
  induction tables with
  | nil => rfl
  | cons table tables ih =>
    rw [List.map_cons, tableField, documentsOfFields, ih, Node.document, documentsOfFields_values]
    rfl

/-! ## Statements in sections -/

theorem sections_assignments (assignments : List Assignment) (rest : List Statement) :
    sections (assignments.map .assignment ++ rest) =
      (assignments ++ (sections rest).1, (sections rest).2) := by
  induction assignments with
  | nil => rfl
  | cons assignment assignments ih => rw [List.map_cons, List.cons_append, sections, ih]; rfl

def statementsOf (written : Header × List Assignment) : List Statement :=
  .header written.1 :: written.2.map .assignment

theorem sections_statementsOf (written : List (Header × List Assignment)) :
    sections (written.flatMap statementsOf) = ([], written) := by
  induction written with
  | nil => rfl
  | cons first written ih =>
    rw [List.flatMap_cons, statementsOf, List.cons_append, sections, sections_assignments, ih,
      List.append_nil]

/-! ## Texts of sections -/

/-- Whether a key and the text of its value stand for a field. -/
structure StandsFor (entry : String × String) (field : String × Document) : Prop where
  name : entry.1 = field.1
  word : IsWord field.1
  value : Spells entry.2.toList field.2

/-- Whether the name of a section and its assignments stand for a table. -/
structure StandsForTable (written : String × List (String × String))
    (table : String × List (String × Document)) : Prop where
  name : written.1 = table.1
  word : IsWord table.1
  entries : List.Forall₂ StandsFor written.2 table.2
  distinct : (table.2.map Prod.fst).Nodup

theorem StandsFor.text {name : String} (hword : IsWord name) (value : String) :
    StandsFor (name, writeText value) (name, .text value) :=
  ⟨rfl, hword, spells_writeText value⟩

theorem StandsFor.boolean {name : String} (hword : IsWord name) (value : Bool) :
    StandsFor (name, writeBoolean value) (name, .boolean value) :=
  ⟨rfl, hword, spells_writeBoolean value⟩

theorem StandsFor.texts {name : String} (hword : IsWord name) (values : List String) :
    StandsFor (name, writeTexts values) (name, Document.texts values) :=
  ⟨rfl, hword, spells_writeTexts values⟩

theorem StandsForTable.of_entries {name : String} {entries : List (String × String)}
    {fields : List (String × Document)} (hword : IsWord name)
    (hdistinct : (fields.map Prod.fst).Nodup) (h : List.Forall₂ StandsFor entries fields) :
    StandsForTable (name, entries) (name, fields) :=
  ⟨rfl, hword, h, hdistinct⟩

theorem exists_assignments {entries : List (String × String)} {fields : List (String × Document)}
    (h : List.Forall₂ StandsFor entries fields) :
    ∃ assignments, List.Forall₂ Means assignments fields ∧
      Lines (String.join (entries.map fun entry => entry.1 ++ " = " ++ entry.2 ++ "\n")).toList
        (assignments.map .assignment) := by
  induction h with
  | nil => exact ⟨[], .nil, .nil⟩
  | @cons entry field entries fields hentry _ ih =>
    obtain ⟨assignments, hmeans, hlines⟩ := ih
    obtain ⟨written, hread, hsays⟩ := says_assignment hentry.word hentry.value
    refine ⟨([.bare field.1.toList], written) :: assignments, .cons ⟨hentry.word.keyOf_eq, hread⟩ hmeans,
      ?_⟩
    have hline : (entry.1 ++ " = " ++ entry.2 ++ "\n").toList =
        field.1.toList ++ ' ' :: '=' :: ' ' :: (entry.2.toList ++ ['\n']) := by
      rw [hentry.name]
      simp only [String.toList_append, List.append_assoc]
      rfl
    rw [List.map_cons, String.join_cons, String.toList_append, hline]
    exact .line hsays hlines

theorem exists_section {entries : String × List (String × String)}
    {table : String × List (String × Document)} (h : StandsForTable entries table) :
    ∃ written, MeansTable written table ∧
      Lines (writeSection entries.1 entries.2).toList (statementsOf written) := by
  obtain ⟨assignments, hmeans, hlines⟩ := exists_assignments h.entries
  refine ⟨(⟨false, [.bare table.1.toList]⟩, assignments), ⟨rfl, h.word.keyOf_eq, hmeans, h.distinct⟩, ?_⟩
  have hheader : ("[" ++ entries.1 ++ "]\n").toList = '[' :: (table.1.toList ++ [']', '\n']) := by
    rw [h.name, String.toList_append, String.toList_append, List.append_assoc]
    rfl
  rw [writeSection, String.toList_append, hheader]
  exact .line (says_header h.word) hlines

/-- The lines of sections between which lines are left free. -/
theorem exists_sections {entries : List (String × List (String × String))}
    {tables : List (String × List (String × Document))} (h : List.Forall₂ StandsForTable entries tables) :
    ∃ written, List.Forall₂ MeansTable written tables ∧
      Lines (String.intercalate "\n" (entries.map fun entry => writeSection entry.1 entry.2)).toList
        (written.flatMap statementsOf) := by
  induction h with
  | nil => exact ⟨[], .nil, .nil⟩
  | @cons entry table entries tables hentry hrest ih =>
    obtain ⟨written, hmeans, hlines⟩ := ih
    obtain ⟨first, hfirst, hsection⟩ := exists_section hentry
    refine ⟨first :: written, .cons hfirst hmeans, ?_⟩
    rw [List.flatMap_cons]
    cases hrest with
    | nil =>
      cases hmeans
      rw [List.map_cons, List.map_nil, String.intercalate_singleton, List.flatMap_nil, List.append_nil]
      exact hsection
    | cons =>
      rw [List.map_cons, List.map_cons, String.intercalate_cons_cons, String.toList_append,
        String.toList_append, List.append_assoc]
      exact hsection.append (.blank hlines)

/-- **Written sections are read back**, if the names of the sections and those in each of them are all
different words. -/
theorem read_writeSections {entries : List (String × List (String × String))}
    {tables : List (String × List (String × Document))} (h : List.Forall₂ StandsForTable entries tables)
    (hdistinct : (tables.map Prod.fst).Nodup) :
    read (String.intercalate "\n" (entries.map fun entry => writeSection entry.1 entry.2)) =
      .ok (.table (tables.map fun table => (table.1, .table table.2))) := by
  obtain ⟨written, hmeans, hlines⟩ := exists_sections h
  have hadd := addSections_of_meant hmeans [] hdistinct
  have hstatements : statements? (String.intercalate "\n"
      (entries.map fun entry => writeSection entry.1 entry.2)) = some (written.flatMap statementsOf) := by
    rw [statements?, hlines.skipMark_eq]
    exact hlines.readStatements_eq (Nat.lt_succ_self _)
  rw [read, hstatements]
  simp only [fieldsOf, sections_statementsOf, fill, bind, Except.bind, hadd, List.nil_append, Except.map,
    documentsOfFields_tables]

end ConverterBuilders.Toml
