import ConverterBuilders.Declaration
import ConverterBuilders.Proofs.ConfigurationRoundTrip
import ConverterBuilders.Proofs.MapEntries
import Mathlib.Algebra.Group.Int.Defs

/-!
# Declarations and their documents

A declaration is written to a document in which nothing is void, and it is read back from that document in
whatever order the fields of its tables come.  The documents that stand for values of annotation arguments are
truth values, integers of 64 bits, texts and lists of such documents, each for one value.

Main statements:

* `Record.exists_of_rearranged`: the order of fields with different names does not matter to a look-up;
* `TypeReference.read_of_rearranged`: a type reference is read back at every depth;
* `AnnotationValue.readArguments_of_rearranged`: so are the arguments of an annotation;
* `Declaration.read_of_rearranged`, `Declaration.filled_write`: so is a declaration, and nothing void is
  written for it;
* `AnnotationValue.exists_read_iff`: which documents stand for values;
* `declaration_of_document`: declarations and values come back from their documents.
-/

namespace ConverterBuilders

/-! ## Documents up to the order of fields -/

namespace Document

/-- Whether two documents differ at most in the order of the fields of their tables, at any depth. -/
inductive Rearranged : Document → Document → Prop
  | same (document : Document) : Rearranged document document
  | list {items others : List Document} (h : List.Forall₂ Rearranged items others) :
    Rearranged (.list items) (.list others)
  | table {fields between others : List (String × Document)}
    (hnames : fields.map Prod.fst = between.map Prod.fst)
    (hvalues : List.Forall₂ Rearranged (fields.map Prod.snd) (between.map Prod.snd))
    (horder : between.Perm others) : Rearranged (.table fields) (.table others)

/-- Whether a document holds truth values, integers, texts, lists and tables alone, at every depth. -/
inductive Filled : Document → Prop
  | boolean (value : Bool) : Filled (.boolean value)
  | integer (value : Int) : Filled (.integer value)
  | text (value : String) : Filled (.text value)
  | list {items : List Document} (h : ∀ item ∈ items, Filled item) : Filled (.list items)
  | table {fields : List (String × Document)} (h : ∀ field ∈ fields, Filled field.2) :
    Filled (.table fields)

variable {document : Document}

theorem Rearranged.eq_text {text : String} (h : Rearranged (.text text) document) :
    document = .text text := by
  cases h
  rfl

theorem rearranged_refl_all (documents : List Document) : List.Forall₂ Rearranged documents documents :=
  List.forall₂_same.2 fun document _ => .same document

theorem Rearranged.exists_list {items : List Document} (h : Rearranged (.list items) document) :
    ∃ others, document = .list others ∧ List.Forall₂ Rearranged items others := by
  cases h with
  | same => exact ⟨items, rfl, rearranged_refl_all items⟩
  | list h => exact ⟨_, rfl, h⟩

theorem Rearranged.exists_table {fields : List (String × Document)}
    (h : Rearranged (.table fields) document) :
    ∃ between others : List (String × Document), document = .table others ∧
      fields.map Prod.fst = between.map Prod.fst ∧
      List.Forall₂ Rearranged (fields.map Prod.snd) (between.map Prod.snd) ∧ between.Perm others := by
  cases h with
  | same => exact ⟨fields, fields, rfl, rfl, rearranged_refl_all _, .refl _⟩
  | table hnames hvalues horder => exact ⟨_, _, rfl, hnames, hvalues, horder⟩

end Document

open Document

/-! ## Looking up a field in any order -/

namespace Record

variable {α β : Type}

theorem get?_map (f : α → β) (name : String) (fields : List (String × α)) :
    get? name (fields.map fun field => (field.1, f field.2)) = (get? name fields).map (Option.map f) := by
  have hvalues : valuesAt name (fields.map fun field => (field.1, f field.2)) =
      (valuesAt name fields).map f := by
    simp [valuesAt, List.filter_map, Function.comp_def]
  rw [get?, get?, hvalues]
  cases valuesAt name fields with
  | nil => rfl
  | cons value rest => cases rest <;> rfl

/-- Values that are related one by one stand under the same names. -/
theorem exists_of_values {related : α → β → Prop} {fields : List (String × α)}
    {others : List (String × β)} (hnames : fields.map Prod.fst = others.map Prod.fst)
    (hvalues : List.Forall₂ related (fields.map Prod.snd) (others.map Prod.snd))
    {field : String × α} (hf : field ∈ fields) :
    ∃ other ∈ others, field.1 = other.1 ∧ related field.2 other.2 := by
  induction fields generalizing others with
  | nil => cases hf
  | cons first fields ih =>
    cases others with
    | nil => cases hvalues
    | cons second others =>
      obtain ⟨hname, hnames⟩ := List.cons_eq_cons.1 hnames
      obtain ⟨hvalue, hvalues⟩ := List.forall₂_cons.1 hvalues
      rcases List.mem_cons.1 hf with rfl | hf
      · exact ⟨second, List.mem_cons_self .., hname, hvalue⟩
      · obtain ⟨other, ho, h⟩ := ih hnames hvalues hf
        exact ⟨other, List.mem_cons_of_mem _ ho, h⟩

/-- Whether a table has under the name of each of some fields the value of the field, rearranged. -/
def Carries (others fields : List (String × Document)) : Prop :=
  ∀ field ∈ fields, ∃ value, Rearranged field.2 value ∧ get? field.1 others = some (some value)

theorem Carries.get?_text {others fields : List (String × Document)} (h : Carries others fields)
    {name text : String} (hf : (name, .text text) ∈ fields) :
    get? name others = some (some (.text text)) := by
  obtain ⟨value, hvalue, hget⟩ := h _ hf
  rw [hget, hvalue.eq_text]

theorem Carries.exists_list {others fields : List (String × Document)} (h : Carries others fields)
    {name : String} {items : List Document} (hf : (name, .list items) ∈ fields) :
    ∃ rest, List.Forall₂ Rearranged items rest ∧ get? name others = some (some (.list rest)) := by
  obtain ⟨value, hvalue, hget⟩ := h _ hf
  obtain ⟨rest, rfl, hrest⟩ := hvalue.exists_list
  exact ⟨rest, hrest, hget⟩

/-- **A table whose fields are rearranged has the same names**, and under each of them the value of before,
rearranged. -/
theorem exists_of_rearranged {fields : List (String × Document)}
    (hdistinct : (fields.map Prod.fst).Nodup) {document : Document}
    (h : Rearranged (.table fields) document) :
    ∃ others, document = .table others ∧ (∀ field ∈ others, field.1 ∈ fields.map Prod.fst) ∧
      (∀ name, name ∉ fields.map Prod.fst → get? name others = some none) ∧
      Carries others fields := by
  obtain ⟨between, others, rfl, hnames, hvalues, horder⟩ := h.exists_table
  have hothers : (others.map Prod.fst).Nodup := by
    rw [← (horder.map Prod.fst).nodup_iff, ← hnames]
    exact hdistinct
  have hmem : ∀ field ∈ others, field.1 ∈ fields.map Prod.fst := by
    intro field hf
    rw [hnames]
    exact List.mem_map_of_mem (horder.mem_iff.2 hf)
  refine ⟨others, rfl, hmem, fun name hn => ?_, fun field hf => ?_⟩
  · exact get?_of_not_mem fun field hf he => hn (he ▸ hmem field hf)
  · obtain ⟨other, ho, hname, hvalue⟩ := exists_of_values hnames hvalues hf
    refine ⟨other.2, hvalue, ?_⟩
    rw [hname]
    exact get?_of_mem hothers (horder.mem_iff.1 ho)

/-- In a table without other fields there is none to pass over. -/
theorem othersReadable_of_names {names : List String} {fields : List (String × Document)}
    (h : ∀ field ∈ fields, field.1 ∈ names) : othersReadable names fields = true := by
  refine List.all_eq_true.2 fun field hf => ?_
  rw [List.contains_iff_mem.2 (h field hf), Bool.true_or]

theorem fields_of_known (format : Format) {names : List String} {fields : List (String × Document)}
    (h : ∀ field ∈ fields, field.1 ∈ names) :
    Record.fields format names (.table fields) = names.mapM fun name => get? name fields := by
  rw [Record.fields, if_pos (othersReadable_of_names h), pick_named]

end Record

/-! ## Type references -/

namespace TypeReference

theorem get?_readFields (format : Format) (name : String) (fields : List (String × Document)) :
    Record.get? name (readFields format fields) =
      (Record.get? name fields).map (Option.map fun value => (value, readList format value)) := by
  have hmap : readFields format fields =
      fields.map fun field => (field.1, field.2, readList format field.2) := by
    induction fields with
    | nil => simp [readFields]
    | cons field fields ih => simp [readFields, ih]
  rw [hmap]
  exact Record.get?_map (fun value => (value, readList format value)) name fields

/-- A type reference whose fields are found is read, if its arguments are. -/
theorem read_of_fields (format : Format) {fields : List (String × Document)}
    (hknown : ∀ field ∈ fields, field.1 ∈ fieldNames) {name : String} {qualifiedName? : Option String}
    {arguments : List TypeReference} {items? : Option Document}
    (hname : Record.get? "name" fields = some (some (.text name)))
    (hqualified : Record.get? "qualified_name" fields = some (qualifiedName?.map .text))
    (hitems : Record.get? "arguments" fields = some items?)
    (harguments : (items?.map (readList format)).getD (some []) = some arguments) :
    read format (.table fields) = some ⟨name, qualifiedName?, arguments⟩ := by
  have hpick : Record.pick format fieldNames (.named (readFields format fields)) =
      some [some (.text name, none), (qualifiedName?.map .text).map fun value => (value, none),
        items?.map fun value => (value, readList format value)] := by
    simp only [Record.pick, fieldNames, List.mapM_cons, List.mapM_nil, get?_readFields, hname, hqualified,
      hitems]
    cases qualifiedName? <;> simp [readList]
  rw [read, if_pos (Record.othersReadable_of_names hknown), hpick]
  cases qualifiedName? <;> cases items? <;>
    simp_all [assemble, Record.required, Record.optional, Document.text?]

def documentFields (type : TypeReference) : List (String × Document) :=
  ("name", .text type.name) ::
    (type.qualifiedName?.toList.map fun qualified => ("qualified_name", .text qualified)) ++
    (if type.arguments.isEmpty then [] else [("arguments", .list (writeAll type.arguments))])

theorem write_eq (type : TypeReference) : type.write = .table type.documentFields := by
  cases type with
  | mk name qualifiedName? arguments => cases arguments <;> simp [write, writeAll, documentFields]

theorem documentFields_distinct (type : TypeReference) :
    (type.documentFields.map Prod.fst).Nodup := by
  cases type with
  | mk name qualifiedName? arguments =>
    cases qualifiedName? <;> cases arguments <;> simp [documentFields]

theorem mem_fieldNames (type : TypeReference) :
    ∀ name ∈ type.documentFields.map Prod.fst, name ∈ fieldNames := by
  cases type with
  | mk name qualifiedName? arguments =>
    cases qualifiedName? <;> cases arguments <;> simp [documentFields, fieldNames]

mutual

/-- **A type reference is read back from its document**, whatever the order of the fields is. -/
theorem read_of_rearranged (format : Format) : (type : TypeReference) → {document : Document} →
    Rearranged type.write document → read format document = some type
  | ⟨name, qualifiedName?, arguments⟩, document, h => by
    rw [write_eq] at h
    obtain ⟨others, rfl, hknown, habsent, hcarries⟩ :=
      Record.exists_of_rearranged (documentFields_distinct _) h
    have hfields : ∀ field ∈ others, field.1 ∈ fieldNames := fun field hf =>
      mem_fieldNames _ _ (hknown field hf)
    have hname : Record.get? "name" others = some (some (.text name)) :=
      hcarries.get?_text (by simp [documentFields])
    have hqualified : Record.get? "qualified_name" others = some (qualifiedName?.map .text) := by
      cases qualifiedName? with
      | none => exact habsent "qualified_name" (by simp [documentFields])
      | some qualified => exact hcarries.get?_text (by simp [documentFields])
    cases hempty : arguments.isEmpty with
    | true =>
      have harguments : Record.get? "arguments" others = some none :=
        habsent "arguments" (by cases qualifiedName? <;> simp [documentFields, hempty])
      refine read_of_fields format hfields hname hqualified harguments ?_
      rw [List.isEmpty_iff.1 hempty]
      rfl
    | false =>
      have hfield : ("arguments", Document.list (writeAll arguments)) ∈
          documentFields ⟨name, qualifiedName?, arguments⟩ := by
        simp [documentFields, hempty]
      obtain ⟨items, hitems, hget⟩ := hcarries.exists_list hfield
      refine read_of_fields format hfields hname hqualified hget ?_
      exact readAll_of_rearranged format arguments hitems

theorem readAll_of_rearranged (format : Format) : (types : List TypeReference) →
    {documents : List Document} → List.Forall₂ Rearranged (writeAll types) documents →
      readAll format documents = some types
  | [], _, h => by
    rw [writeAll, List.forall₂_nil_left_iff] at h
    rw [h]
    rfl
  | type :: types, _, h => by
    rw [writeAll] at h
    obtain ⟨document, documents, hfirst, hrest, rfl⟩ := List.forall₂_cons_left_iff.1 h
    rw [readAll, read_of_rearranged format type hfirst, readAll_of_rearranged format types hrest]
    rfl

end

end TypeReference

/-! ## Values of annotation arguments -/

/-- Items that all give a result give the results in their order. -/
theorem mapM_eq_filterMap {α β : Type} {f : α → Option β} {items : List α}
    (h : ∀ item ∈ items, (f item).isSome = true) : items.mapM f = some (items.filterMap f) := by
  induction items with
  | nil => rfl
  | cons item items ih =>
    obtain ⟨result, hresult⟩ := Option.isSome_iff_exists.1 (h item (List.mem_cons_self ..))
    rw [List.mapM_cons, hresult, ih fun other ho => h other (List.mem_cons_of_mem _ ho),
      List.filterMap_cons_some hresult]
    rfl

/-- A map has one entry for a key. -/
theorem OrderedMap.eq_of_mem_entries {κ α : Type} [Ord κ] [Std.TransOrd κ] [Std.LawfulEqOrd κ]
    (map : OrderedMap κ α) : ∀ a ∈ map.entries, ∀ b ∈ map.entries, b.1 = a.1 → b = a := by
  intro a ha b hb he
  rw [← get?_eq_some_iff] at ha hb
  rw [he, ha] at hb
  exact Prod.ext he (Option.some.inj hb).symm

namespace AnnotationValue

mutual

/-- In the document of a value there are no tables, so nothing can be rearranged. -/
theorem eq_of_rearranged : (value : AnnotationValue) → {document : Document} →
    Rearranged value.write document → document = value.write
  | .boolean _, _, h => by
    cases h
    rfl
  | .integer _, _, h => by
    cases h
    rfl
  | .text _, _, h => h.eq_text
  | .list items, _, h => by
    obtain ⟨others, rfl, hitems⟩ := h.exists_list
    rw [eq_of_rearranged_all items hitems, write]

theorem eq_of_rearranged_all : (values : List AnnotationValue) → {documents : List Document} →
    List.Forall₂ Rearranged (writeAll values) documents → documents = writeAll values
  | [], _, h => by
    rw [writeAll, List.forall₂_nil_left_iff] at h
    rw [h, writeAll]
  | value :: values, _, h => by
    rw [writeAll] at h
    obtain ⟨document, documents, hfirst, hrest, rfl⟩ := List.forall₂_cons_left_iff.1 h
    rw [eq_of_rearranged value hfirst, eq_of_rearranged_all values hrest, writeAll]

end

theorem writeAll_eq_map (values : List AnnotationValue) : writeAll values = values.map write := by
  induction values with
  | nil => rw [writeAll, List.map_nil]
  | cons value values ih => rw [writeAll, ih, List.map_cons]

/-- A field of a table as an argument, if its value is one. -/
def entryOf? (field : String × Document) : Option (String × AnnotationValue) :=
  (read field.2).map (field.1, ·)

/-- **The arguments of an annotation are read back**, whatever their order is. -/
theorem readArguments_of_rearranged {arguments : AnnotationArguments} {document : Document}
    (h : Rearranged (writeArguments arguments) document) : readArguments document = some arguments := by
  obtain ⟨between, others, rfl, hnames, hvalues, horder⟩ := h.exists_table
  have hfields : between = arguments.entries.map fun entry => (entry.1, write entry.2) := by
    have hsame : between.map Prod.snd =
        (arguments.entries.map fun entry => (entry.1, write entry.2)).map Prod.snd := by
      have hall := writeAll_eq_map (arguments.entries.map Prod.snd)
      rw [List.map_map] at hall hvalues ⊢
      exact (eq_of_rearranged_all _ (hall ▸ hvalues)).trans hall
    exact (List.zip_of_prod hnames.symm hsame).trans (List.zip_of_prod rfl rfl).symm
  have hwritten : ∀ entry : String × AnnotationValue, entryOf? (entry.1, write entry.2) = some entry := by
    intro entry
    simp [entryOf?, read_write]
  have hread : others.mapM entryOf? = some (others.filterMap entryOf?) := by
    refine mapM_eq_filterMap fun field hf => ?_
    rw [← horder.mem_iff, hfields] at hf
    obtain ⟨entry, -, rfl⟩ := List.mem_map.1 hf
    rw [hwritten]
    rfl
  have hperm : arguments.entries.Perm (others.filterMap entryOf?) := by
    have hpicked := horder.filterMap entryOf?
    have hall : entryOf? ∘ (fun entry => (entry.1, write entry.2)) = some := funext hwritten
    rwa [hfields, List.filterMap_map, hall, List.filterMap_some] at hpicked
  have hmade := OrderedMap.ofList_congr (OrderedMap.eq_of_mem_entries arguments) fun _ => hperm.mem_iff
  show (others.mapM entryOf?).bind (fun entries => some (OrderedMap.ofList entries)) = some arguments
  rw [hread, Option.bind_some, ← hmade, OrderedMap.ofList_entries]

/-! ## Which documents stand for values -/

/-- Whether a document is a truth value, an integer of 64 bits, a text or a list of such documents. -/
inductive IsWritten : Document → Prop
  | boolean (value : Bool) : IsWritten (.boolean value)
  | integer {value : Int} (hl : -2 ^ 63 ≤ value) (hu : value < 2 ^ 63) : IsWritten (.integer value)
  | text (value : String) : IsWritten (.text value)
  | list {items : List Document} (h : ∀ item ∈ items, IsWritten item) : IsWritten (.list items)

theorem inWord_iff {value : Int} : inWord value = true ↔ -2 ^ 63 ≤ value ∧ value < 2 ^ 63 := by
  have hmin : Int64.minValue.toInt = -2 ^ 63 := by decide
  have hmax : Int64.maxValue.toInt = 2 ^ 63 - 1 := by decide
  simp only [inWord, Bool.and_eq_true, decide_eq_true_eq, hmin, hmax]
  omega

mutual

theorem isWritten_of_read : (document : Document) → {value : AnnotationValue} →
    read document = some value → IsWritten document
  | .boolean value, _, _ => .boolean value
  | .integer value, _, h => by
    rw [read, Option.ite_none_right_eq_some] at h
    exact .integer (inWord_iff.1 h.1).1 (inWord_iff.1 h.1).2
  | .text value, _, _ => .text value
  | .list items, _, h => by
    rw [read] at h
    obtain ⟨values, hvalues, -⟩ := Option.map_eq_some_iff.1 h
    exact .list (isWritten_of_readAll items hvalues)
  | .null, _, h => by simp [read] at h
  | .table _, _, h => by simp [read] at h
  | .foreign, _, h => by simp [read] at h
  | .unreadable, _, h => by simp [read] at h

theorem isWritten_of_readAll : (items : List Document) → {values : List AnnotationValue} →
    readAll items = some values → ∀ item ∈ items, IsWritten item
  | [], _, _ => by simp
  | item :: items, _, h => by
    simp only [readAll, Option.bind_eq_bind, Option.bind_eq_some_iff] at h
    obtain ⟨value, hvalue, values, hvalues, -⟩ := h
    exact List.forall_mem_cons.2 ⟨isWritten_of_read item hvalue, isWritten_of_readAll items hvalues⟩

end

theorem exists_readAll {items : List Document} (h : ∀ item ∈ items, ∃ value, read item = some value) :
    ∃ values, readAll items = some values := by
  induction items with
  | nil => exact ⟨[], rfl⟩
  | cons item items ih =>
    obtain ⟨value, hvalue⟩ := h item (List.mem_cons_self ..)
    obtain ⟨values, hvalues⟩ := ih fun other ho => h other (List.mem_cons_of_mem _ ho)
    exact ⟨value :: values, by simp [readAll, hvalue, hvalues]⟩

/-- **The documents that stand for values** are truth values, integers of 64 bits, texts and lists of them. -/
theorem exists_read_iff {document : Document} :
    (∃ value, read document = some value) ↔ IsWritten document := by
  constructor
  · exact fun ⟨value, h⟩ => isWritten_of_read document h
  · intro h
    induction h with
    | boolean value => exact ⟨.boolean value, rfl⟩
    | @integer value hl hu =>
      have hword : inWord value = true := inWord_iff.2 ⟨hl, hu⟩
      exact ⟨.integer (Int64.ofInt value), by simp [read, hword]⟩
    | text value => exact ⟨.text value, rfl⟩
    | list _ ih =>
      obtain ⟨values, hvalues⟩ := exists_readAll ih
      exact ⟨.list values, by simp [read, hvalues]⟩

end AnnotationValue

/-! ## Declarations -/

/-- Items are read back from a list of their documents. -/
theorem mapM_of_rearranged {α : Type} {write : α → Document} {read : Document → Option α}
    (hread : ∀ item document, Rearranged (write item) document → read document = some item)
    {items : List α} {documents : List Document}
    (h : List.Forall₂ Rearranged (items.map write) documents) : documents.mapM read = some items := by
  induction items generalizing documents with
  | nil =>
    rw [List.map_nil, List.forall₂_nil_left_iff] at h
    rw [h]
    rfl
  | cons item items ih =>
    obtain ⟨document, documents, hfirst, hrest, rfl⟩ := List.forall₂_cons_left_iff.1 h
    rw [List.mapM_cons, hread item document hfirst, ih hrest]
    rfl

theorem AnnotationUse.read_of_rearranged (format : Format) {entry : AnnotationUse} {document : Document}
    (h : Rearranged entry.write document) : read format document = some entry := by
  obtain ⟨others, rfl, hknown, -, hcarries⟩ := Record.exists_of_rearranged (by simp) h
  have hname : Record.get? "qualified_name" others = some (some (.text entry.qualifiedName)) :=
    hcarries.get?_text (by simp)
  obtain ⟨arguments, harguments, hgetArguments⟩ :=
    hcarries ("arguments", AnnotationValue.writeArguments entry.arguments) (by simp)
  have hread := AnnotationValue.readArguments_of_rearranged harguments
  have hnames : ∀ field ∈ others, field.1 ∈ fieldNames := hknown
  have hfields : Record.fields format fieldNames (.table others) =
      some [some (.text entry.qualifiedName), some arguments] := by
    rw [Record.fields_of_known format hnames]
    simp [fieldNames, hname, hgetArguments]
  rw [read, hfields]
  simp [assemble, Record.required, Record.withDefault, Document.text?, hread]

namespace Declaration

def documentFields (declaration : Declaration) : List (String × Document) :=
  [("qualified_name", .text declaration.qualifiedName), ("package", .text declaration.package),
    ("kind", .text declaration.kind.name)] ++
  (declaration.file?.toList.map fun file => ("file", .text file)) ++
  [("supertypes", .list (declaration.supertypes.map TypeReference.write)),
    ("annotations", .list (declaration.annotations.map AnnotationUse.write))]

theorem write_eq (declaration : Declaration) :
    declaration.write = .table declaration.documentFields := rfl

theorem documentFields_distinct (declaration : Declaration) :
    (declaration.documentFields.map Prod.fst).Nodup := by
  cases hfile : declaration.file? <;> simp [documentFields, hfile]

theorem mem_fieldNames (declaration : Declaration) :
    ∀ name ∈ declaration.documentFields.map Prod.fst, name ∈ fieldNames := by
  cases hfile : declaration.file? <;> simp [documentFields, fieldNames, hfile]

/-- A declaration is assembled from the values of its fields. -/
theorem assemble_fields (format : Format) {declaration : Declaration} {types uses : List Document}
    (htypes : types.mapM (TypeReference.read format) = some declaration.supertypes)
    (huses : uses.mapM (AnnotationUse.read format) = some declaration.annotations) :
    assemble format [some (.text declaration.qualifiedName), some (.text declaration.package),
      some (.text declaration.kind.name), declaration.file?.map .text, some (.list types),
      some (.list uses)] = some declaration := by
  have hkind : Kind.read format (.text declaration.kind.name) = some declaration.kind :=
    Kind.ofName?_name declaration.kind
  cases declaration with
  | mk qualifiedName package kind file? supertypes annotations =>
    cases file? <;>
      simp_all [assemble, Record.required, Record.withDefault, Record.optional, Document.text?,
        Document.listOf?]

/-- **A declaration is read back from its document**, whatever the order of the fields is. -/
theorem read_of_rearranged (format : Format) {declaration : Declaration} {document : Document}
    (h : Rearranged declaration.write document) : read format document = some declaration := by
  rw [write_eq] at h
  obtain ⟨others, rfl, hknown, habsent, hcarries⟩ :=
    Record.exists_of_rearranged declaration.documentFields_distinct h
  have hname : Record.get? "qualified_name" others = some (some (.text declaration.qualifiedName)) :=
    hcarries.get?_text (by simp [documentFields])
  have hpackage : Record.get? "package" others = some (some (.text declaration.package)) :=
    hcarries.get?_text (by simp [documentFields])
  have hkind : Record.get? "kind" others = some (some (.text declaration.kind.name)) :=
    hcarries.get?_text (by simp [documentFields])
  have hfile : Record.get? "file" others = some (declaration.file?.map .text) := by
    cases hfile : declaration.file? with
    | none => exact habsent "file" (by simp [documentFields, hfile])
    | some file => exact hcarries.get?_text (by simp [documentFields, hfile])
  have hsupertypes : ("supertypes", Document.list (declaration.supertypes.map TypeReference.write)) ∈
      declaration.documentFields := by
    simp [documentFields]
  have hannotations : ("annotations", Document.list (declaration.annotations.map AnnotationUse.write)) ∈
      declaration.documentFields := by
    simp [documentFields]
  obtain ⟨types, htypes, hgetTypes⟩ := hcarries.exists_list hsupertypes
  obtain ⟨uses, huses, hgetUses⟩ := hcarries.exists_list hannotations
  have hfields : Record.fields format fieldNames (.table others) =
      some [some (.text declaration.qualifiedName), some (.text declaration.package),
        some (.text declaration.kind.name), declaration.file?.map .text, some (.list types),
        some (.list uses)] := by
    rw [Record.fields_of_known format fun field hf => mem_fieldNames declaration _ (hknown field hf)]
    simp [fieldNames, hname, hpackage, hkind, hfile, hgetTypes, hgetUses]
  rw [read, hfields, Option.bind_some]
  exact assemble_fields format
    (mapM_of_rearranged (fun _ _ => TypeReference.read_of_rearranged format _) htypes)
    (mapM_of_rearranged (fun _ _ => AnnotationUse.read_of_rearranged format) huses)

end Declaration

/-! ## Nothing void is written -/

mutual

theorem TypeReference.filled_write : (type : TypeReference) → type.write.Filled
  | ⟨name, qualifiedName?, arguments⟩ => by
    have ih := filled_writeAll arguments
    rw [write_eq]
    refine .table fun field hf => ?_
    simp only [documentFields, List.cons_append, List.mem_cons, List.mem_append, List.mem_map] at hf
    rcases hf with rfl | ⟨qualified, -, rfl⟩ | hf
    · exact .text name
    · exact .text qualified
    · split at hf
      · cases hf
      · rw [List.mem_singleton.1 hf]
        exact .list ih

theorem TypeReference.filled_writeAll : (types : List TypeReference) →
    ∀ document ∈ writeAll types, document.Filled
  | [], _, h => by simp [writeAll] at h
  | type :: types, document, h => by
    rw [writeAll] at h
    rcases List.mem_cons.1 h with rfl | h
    · exact filled_write type
    · exact filled_writeAll types document h

end

theorem AnnotationValue.IsWritten.filled {document : Document} (h : AnnotationValue.IsWritten document) :
    document.Filled := by
  induction h with
  | boolean value => exact .boolean value
  | @integer value _ _ => exact .integer value
  | text value => exact .text value
  | list _ ih => exact .list ih

theorem AnnotationUse.filled_write (entry : AnnotationUse) : entry.write.Filled := by
  refine .table (List.forall_mem_cons.2 ⟨.text entry.qualifiedName, List.forall_mem_singleton.2 ?_⟩)
  refine .table fun field hf => ?_
  obtain ⟨argument, -, rfl⟩ := List.mem_map.1 hf
  exact (AnnotationValue.exists_read_iff.1 ⟨argument.2, AnnotationValue.read_write argument.2⟩).filled

theorem Declaration.filled_write (declaration : Declaration) : declaration.write.Filled := by
  rw [write_eq]
  refine .table fun field hf => ?_
  simp only [documentFields, List.cons_append, List.nil_append, List.mem_cons, List.mem_append,
    List.mem_map, List.not_mem_nil, or_false] at hf
  rcases hf with rfl | rfl | rfl | ⟨file, -, rfl⟩ | rfl | rfl
  · exact .text declaration.qualifiedName
  · exact .text declaration.package
  · exact .text declaration.kind.name
  · exact .text file
  · exact .list fun document hd => by
      obtain ⟨type, -, rfl⟩ := List.mem_map.1 hd
      exact type.filled_write
  · exact .list fun document hd => by
      obtain ⟨entry, -, rfl⟩ := List.mem_map.1 hd
      exact entry.filled_write

/-! ## The round trip -/

/-- **Declarations and values come back from their documents.**  The document of a declaration holds nothing
void, and the declaration is read from it and from all that differ from it in the order of fields.  The
documents that stand for values are those made of truth values, integers of 64 bits, texts and lists, and
each is the document that its value is written to. -/
theorem declaration_of_document (format : Format) :
    (∀ declaration : Declaration, declaration.write.Filled ∧
      ∀ document, Rearranged declaration.write document →
        Declaration.read format document = some declaration) ∧
    (∀ document, (∃ value, AnnotationValue.read document = some value) ↔
      AnnotationValue.IsWritten document) ∧
    ∀ document value, AnnotationValue.read document = some value → value.write = document :=
  ⟨fun declaration => ⟨declaration.filled_write, fun _ => Declaration.read_of_rearranged format⟩,
    fun _ => AnnotationValue.exists_read_iff,
    fun document _ => AnnotationValue.write_of_read document⟩

/-- A class with a reference in a reference, a list in a list and the least and the greatest integer. -/
def prices : Declaration where
  qualifiedName := "org.shop.Prices"
  package := "org.shop"
  kind := .class
  file? := none
  supertypes := [⟨"List", some "kotlin.List", [⟨"Amount", none, []⟩]⟩]
  annotations := [⟨"org.shop.Limits",
    OrderedMap.ofList [("range", .list [.integer Int64.minValue, .list [.integer Int64.maxValue]])]⟩]

/-- The document of `prices` with the fields in the opposite order. -/
def pricesBackwards : Document :=
  .table [("annotations", .list [.table [("arguments", .table [("range", .list
      [.integer (-9223372036854775808), .list [.integer 9223372036854775807]])]),
      ("qualified_name", .text "org.shop.Limits")]]),
    ("supertypes", .list [.table [("arguments", .list [.table [("name", .text "Amount")]]),
      ("qualified_name", .text "kotlin.List"), ("name", .text "List")]]),
    ("kind", .text "class"), ("package", .text "org.shop"), ("qualified_name", .text "org.shop.Prices")]

/-- The fields may be in the opposite order. -/
theorem Document.rearranged_reverse {fields others : List (String × Document)}
    (hnames : fields.map Prod.fst = others.reverse.map Prod.fst)
    (hvalues : List.Forall₂ Rearranged (fields.map Prod.snd) (others.reverse.map Prod.snd)) :
    Rearranged (.table fields) (.table others) :=
  .table hnames hvalues (List.reverse_perm others)

theorem declaration_of_document_prices :
    Rearranged prices.write pricesBackwards ∧
      Declaration.read .json pricesBackwards = some prices ∧
      AnnotationValue.read (.list [.boolean true, .integer 9223372036854775808]) = none := by
  have hsupertype : Rearranged (.list (prices.supertypes.map TypeReference.write))
      (.list [.table [("arguments", .list [.table [("name", .text "Amount")]]),
        ("qualified_name", .text "kotlin.List"), ("name", .text "List")]]) :=
    .list (.cons (rearranged_reverse rfl (rearranged_refl_all _)) .nil)
  have hannotation : Rearranged (.list (prices.annotations.map AnnotationUse.write))
      (.list [.table [("arguments", .table [("range", .list
        [.integer (-9223372036854775808), .list [.integer 9223372036854775807]])]),
        ("qualified_name", .text "org.shop.Limits")]]) :=
    .list (.cons (rearranged_reverse rfl (rearranged_refl_all _)) .nil)
  have hprices : Rearranged prices.write pricesBackwards :=
    rearranged_reverse rfl (.cons (.same _) (.cons (.same _) (.cons (.same _)
      (.cons hsupertype (.cons hannotation .nil)))))
  exact ⟨hprices, ((declaration_of_document .json).1 prices).2 pricesBackwards hprices, rfl⟩

end ConverterBuilders
