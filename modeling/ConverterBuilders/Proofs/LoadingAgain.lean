import ConverterBuilders.Proofs.GrowingTrees
import ConverterBuilders.Proofs.Inputs

/-!
# Loading the inputs again

In a tree that has grown beside the inputs, the same environment file, the same configuration and the same
symbol index are found and read.  A search looks at the ancestors of a directory, so it needs that no
step up on the way to this directory begins in a directory that was made.

Main statements:

* `loadEnvironment_of_growsTo`: the same environment file is found;
* `Configuration.load_of_growsTo`: the same configuration is loaded;
* `SymbolIndex.load_of_growsTo`: the same index is loaded.
-/

namespace ConverterBuilders

open Text
open FileTree (locationOf)

/-! ## Searches -/

namespace FileTree

variable {before after : FileTree} {directory : Location} {path up : Path} {name : String}

theorem ClimbsAlike.of_prefix (h : before.ClimbsAlike after directory path)
    (hp : up.components <+: path.components) : before.ClimbsAlike after directory up := by
  obtain ⟨more, hmore⟩ := hp
  intro front back he
  refine h front (back ++ more) ?_
  rw [← hmore, he, List.append_assoc, List.cons_append]

/-- A further name is no step up. -/
theorem ClimbsAlike.join (h : before.ClimbsAlike after directory path)
    (hn : Path.Plain name.toList) : before.ClimbsAlike after directory (path.join ⟨name⟩) := by
  intro front back he
  rw [Path.components_join_name path hn] at he
  rcases List.eq_nil_or_concat back with rfl | ⟨others, last, rfl⟩
  · obtain ⟨-, hlast⟩ := List.append_inj' he rfl
    cases hlast
  · rw [List.concat_eq_append, ← List.cons_append, ← List.append_assoc] at he
    exact h front others (List.append_inj' he rfl).1

/-- What a search looks at, if it begins where no step up begins in a directory that was made. -/
theorem ClimbsAlike.of_mem_ancestors (h : before.ClimbsAlike after directory path)
    (hm : up ∈ path.ancestors) (hn : Path.Plain name.toList) :
    before.ClimbsAlike after directory (up.join ⟨name⟩) :=
  (h.of_prefix (Path.components_of_mem_ancestors hm)).join hn

end FileTree

namespace Workspace

variable {workspace : Workspace} {files : FileTree}

/-- The path of a working directory leads down from the root. -/
theorem components_directoryPath (h : ∀ name ∈ workspace.directory, Path.Plain name.toList) :
    workspace.directoryPath.components = .root :: workspace.directory.map .name := by
  have htext : workspace.directoryPath.text.toList =
      '/' :: List.intercalate ['/'] (workspace.directory.map String.toList) := by
    rw [directoryPath, String.toList_append, String.toList_intercalate]
    rfl
  have hslash : ∀ piece ∈ workspace.directory.map String.toList, '/' ∉ piece := by
    intro piece hm
    obtain ⟨name, hn, rfl⟩ := List.mem_map.1 hm
    exact (h name hn).no_slash
  have hbody : Path.bodyComponents
      (List.intercalate ['/'] (workspace.directory.map String.toList)) =
        workspace.directory.map .name := by
    rw [Path.bodyComponents_intercalate hslash, Path.stepsOf_plain h]
  rw [Path.components_eq, htext, Path.componentsOf]
  exact congrArg (Path.Component.root :: ·) hbody

theorem climbs_directoryPath (hl : workspace.files.Lawful)
    (hd : workspace.files.hasDirectory workspace.directory = true) (after : FileTree) :
    workspace.files.ClimbsAlike after workspace.directory workspace.directoryPath := by
  intro front back he
  have hparent : Path.Component.parent ∈ workspace.directoryPath.components := by simp [he]
  rw [components_directoryPath (hl.plain_of_hasDirectory hd)] at hparent
  simp at hparent

/-- What leads up from a working directory that stands leads through directories. -/
theorem hasDirectory_of_ancestor (hl : workspace.files.Lawful)
    (hd : workspace.files.hasDirectory workspace.directory = true) {up : Path}
    (hm : up ∈ workspace.directoryPath.ancestors) {front back : List Path.Component}
    (he : up.components = front ++ back) :
    workspace.files.hasDirectory (front.foldl Path.Component.from workspace.directory) = true := by
  obtain ⟨more, hmore⟩ := Path.components_of_mem_ancestors hm
  rw [components_directoryPath (hl.plain_of_hasDirectory hd), he, List.append_assoc] at hmore
  cases front with
  | nil => exact hd
  | cons first rest =>
    obtain ⟨rfl, hrest⟩ := List.cons.inj hmore
    obtain ⟨names, others, hnames, rfl, -⟩ := List.map_eq_append_iff.1 hrest.symm
    have hplace : (names.map Path.Component.name).foldl Path.Component.from [] = names := by
      rw [Path.foldl_from_of_names (by simp)]
      simp [List.filterMap_map, Function.comp_def, Path.Component.name?]
    rw [List.foldl_cons, Path.Component.from, hplace]
    by_cases ho : others = []
    · rw [ho, List.append_nil] at hnames
      rwa [← hnames]
    · rw [hnames] at hd
      exact hl.hasDirectory_of_isSome ho (FileTree.isSome_of_hasDirectory hd)

theorem currentDirectory_eq (hd : workspace.files.hasDirectory workspace.directory = true) :
    workspace.currentDirectory = .ok workspace.directoryPath := by
  rw [currentDirectory, if_pos hd]

/-! ## The environment -/

/-- Reading an environment file changes at most the environment. -/
theorem kept_of_loadEnvironment (workspace : Workspace) :
    workspace.loadEnvironment.files = workspace.files ∧
      workspace.loadEnvironment.directory = workspace.directory := by
  unfold loadEnvironment
  split
  · exact ⟨rfl, rfl⟩
  · split <;> exact ⟨rfl, rfl⟩

section Grown

variable (h : workspace.files.GrowsTo files) (hl : workspace.files.Lawful)

include h hl

theorem environmentFile?_of_growsTo {directories : List Path}
    (hway : ∀ up ∈ directories, ∀ front back, up.components = front ++ back →
      workspace.files.hasDirectory (front.foldl Path.Component.from workspace.directory) = true) :
    ({ workspace with files := files } : Workspace).environmentFile? directories =
      workspace.environmentFile? directories := by
  induction directories with
  | nil => rfl
  | cons up rest ih =>
    have hplain : Path.Plain EnvironmentFile.fileName.toList := by decide
    have hname := Path.fileName_join up hplain
    have hinput : FileTree.isInputName EnvironmentFile.fileName = true := by decide
    have hrest := ih fun other ho => hway other (List.mem_cons_of_mem _ ho)
    rw [environmentFile?, environmentFile?, hrest]
    rcases h.resolve_join_cases hl hplain (hway up (List.mem_cons_self ..)) with heq |
      ⟨hbefore, location, hnone, hafter⟩
    · rw [heq]
      cases hr : workspace.files.resolve workspace.directory
          (up.join ⟨EnvironmentFile.fileName⟩) with
      | error fault => cases fault <;> rfl
      | ok location =>
        simp only
        split
        · rename_i content hnow
          rw [(h.input_of_resolve hname hinput hr).1 hnow]
        · rename_i hno
          split
          · rename_i content hstood
            exact absurd ((h.input_of_resolve hname hinput hr).2 hstood) (hno content)
          · rfl
    · simp only [hbefore, hafter]
      split
      · rename_i content hnow
        rw [(h.input_of_resolve hname hinput hafter).1 hnow] at hnone
        cases hnone
      · rfl

/-- **The same environment file is found.** -/
theorem loadEnvironment_of_growsTo
    (hd : workspace.files.hasDirectory workspace.directory = true) :
    ({ workspace with files := files } : Workspace).loadEnvironment =
      { workspace.loadEnvironment with files := files } := by
  have hfile := environmentFile?_of_growsTo h hl fun up hm front back he =>
    hasDirectory_of_ancestor hl hd hm he
  have hnow : ({ workspace with files := files } : Workspace).currentDirectory =
      .ok workspace.directoryPath := currentDirectory_eq (h.hasDirectory hd)
  unfold loadEnvironment
  rw [hnow, currentDirectory_eq hd]
  simp only [hfile]
  split <;> rfl

theorem readText_of_growsTo {path : Path} {name content : String} (hn : path.fileName = some name)
    (hi : FileTree.isInputName name = true) (hr : workspace.readText path = .ok content) :
    ({ workspace with files := files } : Workspace).readText path = .ok content := by
  have hread : ∀ tree : FileTree, (tree.readText workspace.directory path).mapError Failure.file =
      .ok content ↔ tree.at? workspace.directory path = some (.file (.text content)) := by
    intro tree
    rw [← FileTree.readText_eq_ok_iff]
    cases tree.readText workspace.directory path <;> simp [Except.mapError]
  exact (hread files).2 (h.at?_of_before hn hi hl ((hread workspace.files).1 hr))

end Grown

end Workspace

/-! ## The configuration -/

namespace Configuration

variable {workspace reached : Workspace} {files : FileTree} {configuration : Configuration}

theorem fileName_of_find {start path : Path} (h : find workspace start = .ok path) :
    path.fileName = some fileName := by
  have hfirst : ∀ directories path, firstFile? workspace directories = some path →
      path.fileName = some fileName := by
    intro directories path
    induction directories with
    | nil => exact nofun
    | cons up rest ih =>
      rw [firstFile?]
      split
      · rintro ⟨⟩
        exact Path.fileName_join up (by decide)
      · exact ih
  unfold find at h
  split at h
  · rename_i found hfound
    cases h
    exact hfirst _ _ hfound
  · cases h

/-- Loading a configuration changes at most the environment. -/
theorem kept_of_load {config? : Option Path} {result : Except Failure Configuration}
    (h : (load config?).run.run workspace = (result, reached)) :
    reached.files = workspace.files ∧ reached.directory = workspace.directory := by
  have hkept := Workspace.kept_of_loadEnvironment
  cases config? with
  | some path =>
    rw [load, run_loadFile] at h
    cases h
    exact hkept workspace
  | none =>
    rw [load, run_discover] at h
    split at h
    · cases h
      exact hkept workspace
    · rw [run_loadFile] at h
      cases h
      have hfirst := hkept workspace
      have hsecond := hkept workspace.loadEnvironment
      exact ⟨hsecond.1.trans hfirst.1, hsecond.2.trans hfirst.2⟩

/-- A search begins where it did before, as long as the working directory stands. -/
theorem searchStart_of_directory (hd : workspace.files.hasDirectory workspace.directory = true)
    (hf : files.hasDirectory workspace.directory = true) :
    searchStart { workspace with files := files } = searchStart workspace := by
  have hnow : ({ workspace with files := files } : Workspace).currentDirectory =
      workspace.currentDirectory := by
    rw [Workspace.currentDirectory_eq hd]
    exact Workspace.currentDirectory_eq hf
  rw [searchStart, searchStart, hnow]

theorem isInputName_fileName : FileTree.isInputName fileName = true := by decide

section Grown

variable (h : workspace.files.GrowsTo files) (hl : workspace.files.Lawful)

include h hl

theorem firstFile?_of_growsTo {directories : List Path}
    (hc : ∀ up ∈ directories, workspace.files.ClimbsAlike files workspace.directory
      (up.join ⟨fileName⟩)) :
    firstFile? { workspace with files := files } directories = firstFile? workspace directories := by
  induction directories with
  | nil => rfl
  | cons up rest ih =>
    have hplain : Path.Plain fileName.toList := by decide
    have hfile : ({ workspace with files := files } : Workspace).isFile (up.join ⟨fileName⟩) =
        workspace.isFile (up.join ⟨fileName⟩) := by
      rw [Bool.eq_iff_iff, Workspace.isFile, Workspace.isFile, FileTree.isFile_iff, FileTree.isFile_iff]
      exact exists_congr fun content => h.at?_input (Path.fileName_join up hplain)
        isInputName_fileName hl (hc up (List.mem_cons_self ..))
    rw [firstFile?, firstFile?, hfile, ih fun other ho => hc other (List.mem_cons_of_mem _ ho)]

/-- The same configuration file is found. -/
theorem find_of_growsTo {start : Path}
    (hc : workspace.files.ClimbsAlike files workspace.directory start) :
    find { workspace with files := files } start = find workspace start := by
  have hplain : Path.Plain fileName.toList := by decide
  rw [find, find, firstFile?_of_growsTo h hl fun up hm => hc.of_mem_ancestors hm hplain]

theorem loadFile_of_growsTo (hd : workspace.files.hasDirectory workspace.directory = true)
    {path : Path} (hn : path.fileName = some fileName)
    (hload : (loadFile path).run.run workspace = (.ok configuration, reached)) :
    (loadFile path).run.run { workspace with files := files } =
      (.ok configuration, { reached with files := files }) := by
  rw [run_loadFile] at hload
  obtain ⟨hconfiguration, rfl⟩ := Prod.mk.inj hload
  obtain ⟨content, hread, hrest⟩ := bind_eq_ok_iff.1 hconfiguration
  have hgrows : workspace.loadEnvironment.files.GrowsTo files := by
    rw [workspace.kept_of_loadEnvironment.1]
    exact h
  have hlawful : workspace.loadEnvironment.files.Lawful := by
    rw [workspace.kept_of_loadEnvironment.1]
    exact hl
  rw [run_loadFile, Workspace.loadEnvironment_of_growsTo h hl hd,
    Workspace.readText_of_growsTo hgrows hlawful hn isInputName_fileName hread]
  exact congrArg (·, _) hrest

/-- **The same configuration is loaded.** -/
theorem load_of_growsTo (hd : workspace.files.hasDirectory workspace.directory = true)
    {config? : Option Path} (hn : ∀ path, config? = some path → path.fileName = some fileName)
    (hs : config? = none → ∀ start, searchStart workspace.loadEnvironment = .ok start →
      workspace.files.ClimbsAlike files workspace.directory start)
    (hload : (load config?).run.run workspace = (.ok configuration, reached)) :
    (load config?).run.run { workspace with files := files } =
      (.ok configuration, { reached with files := files }) := by
  cases config? with
  | some path => exact loadFile_of_growsTo h hl hd (hn path rfl) hload
  | none =>
    obtain ⟨hfiles, hdirectory⟩ := workspace.kept_of_loadEnvironment
    have hgrown := Workspace.loadEnvironment_of_growsTo h hl hd
    rw [← hfiles] at h hl
    have hstands : workspace.loadEnvironment.files.hasDirectory workspace.loadEnvironment.directory =
        true := by rw [hfiles, hdirectory, hd]
    have hstart := searchStart_of_directory hstands (h.hasDirectory hstands)
    have hfind : (searchStart { workspace.loadEnvironment with files := files } >>=
        find { workspace.loadEnvironment with files := files }) =
          (searchStart workspace.loadEnvironment >>= find workspace.loadEnvironment) := by
      rw [hstart]
      cases hfound : searchStart workspace.loadEnvironment with
      | error failure => rfl
      | ok start =>
        refine find_of_growsTo h hl ?_
        rw [hfiles, hdirectory]
        exact hs rfl start hfound
    rw [load, run_discover] at hload
    rw [load, run_discover, hgrown, hfind]
    split at hload
    · cases hload
    · rename_i path hpath
      obtain ⟨start, -, hpath⟩ := bind_eq_ok_iff.1 hpath
      refine loadFile_of_growsTo h hl ?_ (fileName_of_find hpath) hload
      rw [hfiles, hdirectory]
      exact hd

end Grown

end Configuration

/-! ## The index -/

namespace SymbolIndex

variable {workspace : Workspace} {files : FileTree} {root : Path} {location : Location}
  {index : SymbolIndex}

/-- A directory that was loaded has no closed one below it. -/
theorem closedBelow?_of_load (hr : workspace.files.resolve workspace.directory root = .ok location)
    (hd : workspace.isDirectory root = true) (hi : load workspace root = .ok index) :
    workspace.files.closedBelow? location = none := by
  by_contra hne
  obtain ⟨names, hclosed⟩ := Option.ne_none_iff_exists'.1 hne
  unfold load at hi
  split at hi
  · cases hi
  · rw [indexFiles_of_closed hr hclosed] at hi
    cases hi

/-- **The same index is loaded.** -/
theorem load_of_growsTo (h : workspace.files.GrowsTo files) (hl : workspace.files.Lawful)
    (hd : workspace.isDirectory root = true) (hi : load workspace root = .ok index) :
    load { workspace with files := files } root = .ok index := by
  obtain ⟨location, hr, hdirectory⟩ := FileTree.isDirectory_iff.1 hd
  have hopen := closedBelow?_of_load hr hd hi
  rw [load_directory hl hr hdirectory hopen] at hi
  rw [load_directory (h.lawful hl) (h.resolve hl hr) (h.hasDirectory hdirectory)
    (h.closedBelow?_eq_none hl hopen), h.indexFilesBelow_eq hl, hi]

end SymbolIndex

end ConverterBuilders
