import ConverterBuilders.Configuration.Printer
import ConverterBuilders.Configuration.Reader
import ConverterBuilders.Proofs.WrittenSections

/-!
# Written configurations

A configuration is written as a text of sections, which is read back to the document of its settings, and
from that document the settings are taken one by one.  If the settings pass the check and their two paths
refer to no variables, the whole configuration comes back, below the directory of the file.

Main statements:

* `Record.fields_of_names`: a table with the names of a record gives its values;
* `Configuration.toml_read_write`: a written configuration is read to its document;
* `Configuration.ofDocument_document`: the settings of a configuration's document are its own;
* `Configuration.read_written`: a written configuration is read back.
-/

namespace ConverterBuilders

open Text

namespace Record

/-- The value under a name, if all names are different. -/
theorem get?_of_mem {α : Type} {fields : List (String × α)} (hdistinct : (fields.map Prod.fst).Nodup)
    {field : String × α} (h : field ∈ fields) : get? field.1 fields = some (some field.2) := by
  induction fields with
  | nil => cases h
  | cons first fields ih =>
    rw [List.map_cons, List.nodup_cons] at hdistinct
    obtain ⟨hnew, hdistinct⟩ := hdistinct
    rcases List.mem_cons.1 h with rfl | h
    · refine get?_cons_self field.2 fun other hother he => hnew ?_
      exact he ▸ List.mem_map_of_mem hother
    · have hne : first.1 ≠ field.1 := fun he => hnew (he ▸ List.mem_map_of_mem h)
      rw [get?_cons_of_ne hne, ih hdistinct h]

theorem mapM_get?_of_nodup {α : Type} {fields : List (String × α)}
    (hdistinct : (fields.map Prod.fst).Nodup) :
    (fields.map Prod.fst).mapM (fun name => get? name fields) =
      some (fields.map fun field => some field.2) := by
  -- the induction is on the names asked for, while the fields stay whole
  have hpart : ∀ part : List (String × α), part ⊆ fields →
      (part.map Prod.fst).mapM (fun name => get? name fields) =
        some (part.map fun field => some field.2) := by
    intro part hsubset
    induction part with
    | nil => rfl
    | cons field part ih =>
      obtain ⟨hfield, hrest⟩ := List.cons_subset.1 hsubset
      rw [List.map_cons, List.mapM_cons, get?_of_mem hdistinct hfield, ih hrest]
      rfl
  exact hpart fields (List.Subset.refl fields)

/-- **A table with the names of a record gives its values.** -/
theorem fields_of_names (format : Format) {fields : List (String × Document)}
    (hdistinct : (fields.map Prod.fst).Nodup) :
    Record.fields format (fields.map Prod.fst) (.table fields) =
      some (fields.map fun field => some field.2) := by
  have hothers : othersReadable (fields.map Prod.fst) fields = true := by
    refine List.all_eq_true.2 fun field hfield => ?_
    rw [List.contains_iff_mem.2 (List.mem_map_of_mem hfield), Bool.true_or]
  rw [Record.fields, if_pos hothers, pick_named, mapM_get?_of_nodup hdistinct]

end Record

namespace Configuration

open Toml

theorem listOf?_texts (values : List String) :
    Document.listOf? Document.text? (Document.texts values) = some values := by
  rw [Document.texts, Document.listOf?]
  induction values with
  | nil => rfl
  | cons value values ih =>
    rw [List.map_cons, List.mapM_cons, ih]
    rfl

/-! ## The settings in a document -/

theorem generalOf_table (annotationName : String) (parallel : Bool) :
    generalOf (.table [("annotation", .text annotationName), ("parallel", .boolean parallel)]) =
      some (annotationName, parallel) := by
  have hfields : Record.fields .toml ["annotation", "parallel"]
      (.table [("annotation", .text annotationName), ("parallel", .boolean parallel)]) =
        some [some (.text annotationName), some (.boolean parallel)] :=
    Record.fields_of_names .toml (by simp)
  rw [generalOf, hfields]
  rfl

theorem scanOf_table (indexPath : String) :
    scanOf (.table [("index_path", .text indexPath)]) = some indexPath := by
  have hfields : Record.fields .toml ["index_path"] (.table [("index_path", .text indexPath)]) =
      some [some (.text indexPath)] := Record.fields_of_names .toml (by simp)
  rw [scanOf, hfields]
  rfl

theorem outputOf_table (outputPath fileExtension : String) :
    outputOf (.table [("output_path", .text outputPath), ("file_extension", .text fileExtension)]) =
      some (outputPath, fileExtension) := by
  have hfields : Record.fields .toml ["output_path", "file_extension"]
      (.table [("output_path", .text outputPath), ("file_extension", .text fileExtension)]) =
        some [some (.text outputPath), some (.text fileExtension)] :=
    Record.fields_of_names .toml (by simp)
  rw [outputOf, hfields]
  rfl

theorem profileOf_table (profile : Profile) :
    Profile.ofDocument .toml (.table [("receiver", .text profile.receiver),
      ("opt_ins", Document.texts profile.optIns),
      ("runtime_imports", Document.texts profile.runtimeImports)]) = some profile := by
  have hfields : Record.fields .toml Profile.fieldNames (.table [("receiver", .text profile.receiver),
      ("opt_ins", Document.texts profile.optIns),
      ("runtime_imports", Document.texts profile.runtimeImports)]) =
        some [some (.text profile.receiver), some (Document.texts profile.optIns),
          some (Document.texts profile.runtimeImports)] :=
    Record.fields_of_names .toml (by simp)
  rw [Profile.ofDocument, hfields, Option.bind_some, Profile.assemble]
  simp only [Record.withDefault, Document.text?, listOf?_texts]
  rfl

/-- **The settings of a configuration's document are its own.** -/
theorem ofDocument_document (configuration : Configuration) :
    ofDocument configuration.document = some { configuration with base? := none } := by
  have hfields : ∀ general scan output profile : Document,
      Record.fields .toml ["general", "scan", "output", "profile"]
        (.table [("general", general), ("scan", scan), ("output", output), ("profile", profile)]) =
          some [some general, some scan, some output, some profile] :=
    fun _ _ _ _ => Record.fields_of_names .toml (by simp)
  rw [ofDocument, document, hfields]
  simp only [bind, Option.bind, Record.withDefault, generalOf_table, scanOf_table, outputOf_table,
    profileOf_table]

/-! ## The text of a configuration -/

/-- **A written configuration is read to its document.** -/
theorem toml_read_write (configuration : Configuration) :
    Toml.read configuration.write = .ok configuration.document := by
  have hgeneral : StandsForTable
      ("general", [("annotation", writeText configuration.annotationName),
        ("parallel", writeBoolean configuration.parallel)])
      ("general", [("annotation", .text configuration.annotationName),
        ("parallel", .boolean configuration.parallel)]) := by
    refine .of_entries (by decide) (by simp) ?_
    exact .cons (.text (by decide) _) (.cons (.boolean (by decide) _) .nil)
  have hscan : StandsForTable ("scan", [("index_path", writeText configuration.indexPath)])
      ("scan", [("index_path", .text configuration.indexPath)]) := by
    refine .of_entries (by decide) (by simp) ?_
    exact .cons (.text (by decide) _) .nil
  have houtput : StandsForTable
      ("output", [("output_path", writeText configuration.outputPath),
        ("file_extension", writeText configuration.fileExtension)])
      ("output", [("output_path", .text configuration.outputPath),
        ("file_extension", .text configuration.fileExtension)]) := by
    refine .of_entries (by decide) (by simp) ?_
    exact .cons (.text (by decide) _) (.cons (.text (by decide) _) .nil)
  have hprofile : StandsForTable
      ("profile", [("receiver", writeText configuration.profile.receiver),
        ("opt_ins", writeTexts configuration.profile.optIns),
        ("runtime_imports", writeTexts configuration.profile.runtimeImports)])
      ("profile", [("receiver", .text configuration.profile.receiver),
        ("opt_ins", Document.texts configuration.profile.optIns),
        ("runtime_imports", Document.texts configuration.profile.runtimeImports)]) := by
    refine .of_entries (by decide) (by simp) ?_
    exact .cons (.text (by decide) _) (.cons (.texts (by decide) _) (.cons (.texts (by decide) _) .nil))
  have hread := read_writeSections (.cons hgeneral (.cons hscan (.cons houtput (.cons hprofile .nil))))
    (by simp)
  rw [write, document]
  exact hread

/-- **A written configuration is read back**, below the directory of the file, if its settings pass the
check and its paths refer to no variables. -/
theorem read_written (configuration : Configuration)
    (hname : isBlank configuration.annotationName = false)
    (hreceiver : isBlank configuration.profile.receiver = false)
    (hextension : configuration.fileExtension ≠ "") (hpoint : '.' ∉ configuration.fileExtension.toList)
    (hindex : VariableReference.all configuration.indexPath.toList = [])
    (houtput : VariableReference.all configuration.outputPath.toList = [])
    (environment : Environment) (path : Path) :
    read environment path configuration.write = .ok { configuration with base? := path.parent } := by
  have hsettings : settingsOf configuration.write = .ok { configuration with base? := none } := by
    rw [settingsOf, toml_read_write]
    simp only [bind, Except.bind, ofDocument_document]
    rfl
  have hvalid : validate { configuration with base? := path.parent } = .ok () :=
    (validate_eq_ok_iff _).2 ⟨hname, hreceiver, by simpa using hextension, hpoint⟩
  rw [read, hsettings]
  simp only [Except.mapError, bind, Except.bind, environment.substitute_of_no_reference hindex,
    environment.substitute_of_no_reference houtput, hvalid]

/-- A configuration whose texts need all the forms that texts are written in. -/
def inAllForms : Configuration where
  annotationName := "a \"quoted\" name"
  parallel := false
  indexPath := "$\x7b and \\ and '"
  outputPath := "first line\nsecond line"
  fileExtension := "\x01\r"
  profile := ⟨"''' \\ \"\"\"", ["", "it's \"\"\"\"\""], ["\n'''\\\"\"\"\x7f"]⟩
  base? := some ⟨"elsewhere"⟩

theorem read_written_inAllForms :
    isBlank inAllForms.annotationName = false ∧ isBlank inAllForms.profile.receiver = false ∧
      inAllForms.fileExtension ≠ "" ∧ '.' ∉ inAllForms.fileExtension.toList ∧
      VariableReference.all inAllForms.indexPath.toList = [] ∧
      VariableReference.all inAllForms.outputPath.toList = [] ∧
      read .empty ⟨"settings/convgen.toml"⟩ inAllForms.write =
        .ok { inAllForms with base? := some ⟨"settings"⟩ } := by
  have hname : isBlank inAllForms.annotationName = false := by decide
  have hreceiver : isBlank inAllForms.profile.receiver = false := by decide
  have hextension : inAllForms.fileExtension ≠ "" := by decide
  have hpoint : '.' ∉ inAllForms.fileExtension.toList := by decide
  have hindex : VariableReference.all inAllForms.indexPath.toList = [] := by decide
  have houtput : VariableReference.all inAllForms.outputPath.toList = [] := by decide
  have hparent : (Path.mk "settings/convgen.toml").parent = some ⟨"settings"⟩ := by with_unfolding_all rfl
  refine ⟨hname, hreceiver, hextension, hpoint, hindex, houtput, ?_⟩
  have hread := read_written inAllForms hname hreceiver hextension hpoint hindex houtput .empty
    ⟨"settings/convgen.toml"⟩
  rw [hparent] at hread
  exact hread

end Configuration

end ConverterBuilders
