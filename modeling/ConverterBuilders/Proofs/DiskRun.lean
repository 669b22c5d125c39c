import ConverterBuilders.Artifact.Disk
import ConverterBuilders.Proofs.Filling
import ConverterBuilders.Proofs.KeptFiles
import Mathlib.Data.List.Nodup

/-!
# A run to files does what a run to a buffer shows

The artifacts of an index have different paths of names, so below a root they get different places.  A
run that writes them all puts each at its place and keeps every other file.

Main statements:

* `names_nodup`: the artifacts of an index have different names below a root;
* `mem_filesBelow`, `nodup_filesBelow`: the files below a location;
* `node?_of_run`: where the texts of a run to files stand;
* `run_write_eq_buffer`: what a run to files does, by the files of a buffer.
-/

namespace ConverterBuilders

open FileTree (locationOf)

theorem Path.names_of_components {path : Path} {names : List String}
    (h : path.components = names.map Component.name) : path.names = names := by
  rw [Path.names, h, List.filterMap_map]
  exact List.filterMap_some

namespace Report

variable {index : SymbolIndex} {configuration : Configuration} {report : Report}

/-- The path of an artifact of an index is made of the names of a converter. -/
theorem exists_pathNames (hi : index.Reachable) (he : '.' ∉ configuration.fileExtension.toList)
    (hp : process index.resolver configuration = .ok report) {artifact : Artifact}
    (ha : artifact ∈ report.artifacts) :
    ∃ converter, converter.WellNamed ∧
      (artifact.relativePath configuration.fileExtension).components =
        (Artifact.pathNames converter configuration.fileExtension).map Path.Component.name := by
  obtain ⟨symbol, converter, hr, hf⟩ := exists_converter hp ha
  have hw := hi.wellFormed.wellNamed_of_resolve hr
  exact ⟨converter, hw, Artifact.components_relativePath hf hw he⟩

theorem exists_name_of_mem_artifacts (hi : index.Reachable)
    (he : '.' ∉ configuration.fileExtension.toList)
    (hp : process index.resolver configuration = .ok report) {artifact : Artifact}
    (ha : artifact ∈ report.artifacts) :
    ∀ component ∈ (artifact.relativePath configuration.fileExtension).components,
      ∃ name, component = .name name := by
  obtain ⟨converter, -, hc⟩ := exists_pathNames hi he hp ha
  intro component hm
  rw [hc] at hm
  obtain ⟨name, _, hn⟩ := List.mem_map.1 hm
  exact ⟨name, hn.symm⟩

theorem names_ne_nil (hi : index.Reachable) (he : '.' ∉ configuration.fileExtension.toList)
    (hp : process index.resolver configuration = .ok report) {artifact : Artifact}
    (ha : artifact ∈ report.artifacts) :
    (artifact.relativePath configuration.fileExtension).names ≠ [] := by
  obtain ⟨converter, -, hc⟩ := exists_pathNames hi he hp ha
  obtain ⟨first, rest, hnames⟩ := Artifact.exists_fileNames configuration.fileExtension
  rw [Path.names_of_components hc, Artifact.pathNames, hnames]
  exact List.append_ne_nil_of_right_ne_nil _ (List.cons_ne_nil _ _)

/-- **The artifacts of an index have different names below a root.** -/
theorem names_nodup (hi : index.Reachable) (he : '.' ∉ configuration.fileExtension.toList)
    (hp : process index.resolver configuration = .ok report) :
    (report.artifacts.map fun artifact =>
      (artifact.relativePath configuration.fileExtension).names).Nodup := by
  have hkeys := paths_nodup hi he hp
  have hmap : (report.artifacts.map fun artifact =>
      (artifact.relativePath configuration.fileExtension).key) =
      (report.artifacts.map fun artifact =>
        (artifact.relativePath configuration.fileExtension).names).map
          fun names => (names.map Path.Component.name).map Path.Component.rank := by
    rw [List.map_map]
    refine List.map_congr_left fun artifact ha => ?_
    obtain ⟨converter, -, hc⟩ := exists_pathNames hi he hp ha
    rw [Path.key, hc, Function.comp_apply, Path.names_of_components hc]
  rw [hmap] at hkeys
  exact List.Nodup.of_map _ hkeys

end Report

namespace FileTree

/-! ## The files below a location -/

/-- The names behind a location and the content, for an entry that is a file below it. -/
def below (location : Location) (entry : Location × FileNode) : Option (Location × FileContent) :=
  match entry.2 with
  | .directory | .closed => none
  | .file content =>
    if location.isPrefixOf entry.1 then some (entry.1.drop location.length, content) else none

theorem filesBelow_eq (tree : FileTree) (location : Location) :
    tree.filesBelow location = tree.nodes.entries.filterMap (below location) := rfl

theorem below_eq_some_iff {location : Location} {entry : Location × FileNode}
    {file : Location × FileContent} :
    below location entry = some file ↔ entry = (location ++ file.1, .file file.2) := by
  obtain ⟨place, node⟩ := entry
  obtain ⟨names, content⟩ := file
  constructor
  · intro h
    cases node with
    | directory => cases h
    | closed => cases h
    | file found =>
      simp only [below, Option.ite_none_right_eq_some, List.isPrefixOf_iff_prefix, Option.some.injEq,
        Prod.mk.injEq] at h
      obtain ⟨hfront, rfl, rfl⟩ := h
      rw [List.prefix_iff_eq_append.1 hfront]
  · intro h
    cases h
    simp [below]

/-- **The files below a location are those that stand at it and the names behind.** -/
theorem mem_filesBelow {tree : FileTree} {location : Location} {file : Location × FileContent} :
    file ∈ tree.filesBelow location ↔ tree.HasFile (location ++ file.1) file.2 := by
  rw [HasFile, OrderedMap.get?_eq_some_iff, filesBelow_eq, List.mem_filterMap]
  simp [below_eq_some_iff]

/-- No file stands below a location twice. -/
theorem nodup_filesBelow (tree : FileTree) (location : Location) :
    (tree.filesBelow location).Nodup := by
  rw [filesBelow_eq, List.Nodup, List.pairwise_filterMap]
  refine tree.nodes.ascending.imp fun {a b} hlt x hx y hy he => ?_
  rw [below_eq_some_iff] at hx hy
  have hself : compare b.1 b.1 = .eq := Std.ReflCmp.compare_self
  rw [hx, he, ← hy, hself] at hlt
  cases hlt

/-- What stands at a location other than the root is what the nodes say. -/
theorem node?_eq_file_iff {tree : FileTree} {location : Location} {content : FileContent} :
    tree.node? location = some (.file content) ↔ location ≠ [] ∧ tree.HasFile location content := by
  unfold node? HasFile
  by_cases h : location = []
  · simp [h]
  · simp [h]

end FileTree

namespace Workspace

variable {before after : Workspace} {files : List (Location × String)}

/-- Files with different names that are gained below a location without files are all that stand there. -/
theorem Gains.filesBelow {location : Location}
    (hg : before.Gains after (files.map fun file => (location ++ file.1, file.2)))
    (hn : (files.map Prod.fst).Nodup) (hempty : before.files.filesBelow location = []) :
    (after.files.filesBelow location).Perm (files.map fun file => (file.1, .text file.2)) := by
  have hnodup : (files.map fun file => (file.1, FileContent.text file.2)).Nodup := by
    apply List.Nodup.of_map Prod.fst
    rw [List.map_map]
    exact hn
  rw [List.perm_ext_iff_of_nodup (FileTree.nodup_filesBelow _ _) hnodup]
  rintro ⟨names, content⟩
  rw [FileTree.mem_filesBelow]
  constructor
  · intro hfile
    by_cases hplace : location ++ names ∈ files.map fun file => location ++ file.1
    · obtain ⟨file, hm, he⟩ := List.mem_map.1 hplace
      have hwritten : after.files.HasFile (location ++ file.1) (.text file.2) :=
        hg.written _ (List.mem_map_of_mem hm)
      obtain rfl := List.append_cancel_left he
      cases hwritten.symm.trans hfile
      exact List.mem_map_of_mem hm
    · have hbefore := (hg.kept (location ++ names) (by rw [List.map_map]; exact hplace) content).1 hfile
      have hmem := FileTree.mem_filesBelow.2 (show before.files.HasFile
        (location ++ (names, content).1) (names, content).2 from hbefore)
      rw [hempty] at hmem
      cases hmem
  · intro hmem
    obtain ⟨file, hm, he⟩ := List.mem_map.1 hmem
    cases he
    exact hg.written _ (List.mem_map_of_mem hm)

end Workspace

namespace Report

variable {index : SymbolIndex} {configuration : Configuration} {root : Path}
  {workspace after : Workspace} {report : Report}

def fileBelow (extension : String) (artifact : Artifact) : Location × String :=
  ((artifact.relativePath extension).names, artifact.text)

/-- Below the location of a root an artifact has a place by its names. -/
theorem place_eq (hi : index.Reachable) (he : '.' ∉ configuration.fileExtension.toList)
    (hp : process index.resolver configuration = .ok report) (directory : Location)
    {artifact : Artifact} (ha : artifact ∈ report.artifacts) :
    Destination.place ⟨root, configuration.fileExtension⟩ directory artifact =
      locationOf directory root ++ (artifact.relativePath configuration.fileExtension).names :=
  Path.locationOf_join directory root (exists_name_of_mem_artifacts hi he hp ha)

/-- What a run to files below a root gains. -/
theorem gains_of_run (hi : index.Reachable) (he : '.' ∉ configuration.fileExtension.toList)
    (h : (run index.resolver configuration
      (Destination.write ⟨root, configuration.fileExtension⟩)).run.run workspace =
        (.ok report, after)) :
    ∃ made, process index.resolver configuration = .ok made ∧
      report = { made with
        written := made.artifacts.map fun artifact =>
          root.join (artifact.relativePath configuration.fileExtension) } ∧
      workspace.Gains after ((made.artifacts.map (fileBelow configuration.fileExtension)).map
        fun file => (locationOf workspace.directory root ++ file.1, file.2)) := by
  obtain ⟨made, paths, hp, hw, rfl⟩ := exists_of_run_ok h
  have hplace : ∀ artifact ∈ made.artifacts,
      Destination.place ⟨root, configuration.fileExtension⟩ workspace.directory artifact =
        locationOf workspace.directory root ++
          (artifact.relativePath configuration.fileExtension).names := fun artifact ha =>
    place_eq hi he hp workspace.directory ha
  have hnodup : (made.artifacts.map (Destination.place ⟨root, configuration.fileExtension⟩
      workspace.directory)).Nodup := by
    have hnames := (names_nodup hi he hp).map
      (List.append_right_injective (locationOf workspace.directory root))
    rw [List.map_map] at hnames
    rw [List.map_congr_left hplace]
    exact hnames
  obtain ⟨rfl, hgains⟩ := Destination.gains_of_writeAll hnodup hw
  refine ⟨made, hp, rfl, ?_⟩
  have hfiles : (made.artifacts.map fun artifact => (Destination.place
      ⟨root, configuration.fileExtension⟩ workspace.directory artifact, artifact.text)) =
      (made.artifacts.map (fileBelow configuration.fileExtension)).map
        fun file => (locationOf workspace.directory root ++ file.1, file.2) := by
    rw [List.map_map]
    exact List.map_congr_left fun artifact ha => by rw [hplace artifact ha]; rfl
  rw [← hfiles]
  exact hgains

/-- What a run to files wrote stands at the names of the artifacts below the root. -/
theorem node?_of_run (hi : index.Reachable) (he : '.' ∉ configuration.fileExtension.toList)
    (h : (run index.resolver configuration
      (Destination.write ⟨root, configuration.fileExtension⟩)).run.run workspace =
        (.ok report, after))
    {made : Report} (hp : process index.resolver configuration = .ok made) {artifact : Artifact}
    (ha : artifact ∈ made.artifacts) :
    after.files.node? (locationOf workspace.directory root ++
      (artifact.relativePath configuration.fileExtension).names) = some (.file (.text artifact.text)) := by
  obtain ⟨found, hfound, -, hgains⟩ := gains_of_run hi he h
  obtain rfl : found = made := Except.ok.inj (hfound.symm.trans hp)
  have hfile := hgains.written _ (List.mem_map_of_mem (List.mem_map_of_mem ha))
  have hne := List.append_ne_nil_of_right_ne_nil (locationOf workspace.directory root)
    (names_ne_nil hi he hp ha)
  exact FileTree.node?_eq_file_iff.2 ⟨hne, hfile⟩

end Report

/-- **A run to files does what a run to a buffer shows.**  For an index and an extension without points,
let a run to files below a root succeed.  Then the run to a buffer succeeds as well, the reports differ
only in the root in front of what was written, and each file of the buffer, one for each artifact, stands
below the location of the root, while every other file is as it was.  If there were no files below the
root, those of the buffer are all that there are. -/
theorem run_write_eq_buffer {index : SymbolIndex} (hi : index.Reachable) {configuration : Configuration}
    (he : '.' ∉ configuration.fileExtension.toList) (root : Path) {workspace after : Workspace}
    {report : Report}
    (h : (Report.run index.resolver configuration
      (Destination.write ⟨root, configuration.fileExtension⟩)).run.run workspace =
        (.ok report, after)) :
    ∃ shown buffer,
      (Report.run index.resolver configuration Buffer.write).run.run
        (Buffer.new configuration.fileExtension) = (.ok shown, buffer) ∧
      report = { shown with written := shown.written.map root.join } ∧
      buffer.listing.Perm (report.artifacts.map (Buffer.fileOf configuration.fileExtension)) ∧
      (∀ file ∈ buffer.listing,
        locationOf workspace.directory (root.join file.path) =
            locationOf workspace.directory root ++ file.path.names ∧
          after.files.node? (locationOf workspace.directory (root.join file.path)) =
            some (.file (.text file.text))) ∧
      (∀ location content,
        (∀ file ∈ buffer.listing, location ≠ locationOf workspace.directory (root.join file.path)) →
          (after.files.node? location = some (.file content) ↔
            workspace.files.node? location = some (.file content))) ∧
      (workspace.files.filesBelow (locationOf workspace.directory root) = [] →
        (after.files.filesBelow (locationOf workspace.directory root)).Perm
          (buffer.listing.map fun file => (file.path.names, .text file.text))) := by
  obtain ⟨made, hp, rfl, hgains⟩ := Report.gains_of_run hi he h
  obtain ⟨buffer, hrun, hfiles⟩ := Buffer.run_write_eq hi he hp
  have hmem : ∀ file, file ∈ buffer.listing ↔
      ∃ artifact ∈ made.artifacts, Buffer.fileOf configuration.fileExtension artifact = file :=
    fun file => hfiles.mem_iff.trans List.mem_map
  have hjoin : ∀ artifact ∈ made.artifacts,
      locationOf workspace.directory (root.join (artifact.relativePath configuration.fileExtension)) =
        locationOf workspace.directory root ++
          (artifact.relativePath configuration.fileExtension).names := fun artifact ha =>
    Path.locationOf_join _ root (Report.exists_name_of_mem_artifacts hi he hp ha)
  refine ⟨_, buffer, hrun, ?_, hfiles, ?_, ?_, ?_⟩
  · rw [List.map_map]
    rfl
  · intro file hm
    obtain ⟨artifact, ha, rfl⟩ := (hmem file).1 hm
    refine ⟨hjoin artifact ha, ?_⟩
    rw [Buffer.fileOf, hjoin artifact ha]
    exact Report.node?_of_run hi he h hp ha
  · intro location content hne
    rw [FileTree.node?_eq_file_iff, FileTree.node?_eq_file_iff]
    refine and_congr_right fun _ => hgains.kept location (fun hm => ?_) content
    simp only [List.map_map, List.mem_map] at hm
    obtain ⟨artifact, ha, hlocation⟩ := hm
    refine hne _ ((hmem _).2 ⟨artifact, ha, rfl⟩) ?_
    rw [← hlocation]
    exact (hjoin artifact ha).symm
  · intro hempty
    have hbelow := hgains.filesBelow (by
      rw [List.map_map]
      exact Report.names_nodup hi he hp) hempty
    rw [List.map_map] at hbelow
    have hbuffer := hfiles.map fun file => (file.path.names, FileContent.text file.text)
    rw [List.map_map] at hbuffer
    exact hbelow.trans hbuffer.symm

/-- A run to an empty tree of files leaves the two files that the buffer shows. -/
theorem run_write_shop :
    ∃ (report : Report) (after : Workspace) (buffer : Buffer),
      (Report.run SymbolIndex.shop.resolver .default (Destination.write ⟨⟨"out"⟩, "kt"⟩)).run.run
        ⟨.empty, [], OrderedMap.empty⟩ = (.ok report, after) ∧
      report.artifacts.length = 2 ∧
      buffer.listing.Perm (report.artifacts.map (Buffer.fileOf "kt")) ∧
      (after.files.filesBelow ["out"]).Perm
        (buffer.listing.map fun file => (file.path.names, .text file.text)) := by
  have hchecked : Converter.checkCollisions SymbolIndex.shopConverters = .ok () := by
    with_unfolding_all rfl
  have hprocess : Report.process SymbolIndex.shop.resolver .default =
      .ok (Report.ofOutcomes (Report.scan SymbolIndex.shop.resolver .default)
        (Report.outcomes SymbolIndex.shop.resolver .default SymbolIndex.shopConverters)) := by
    simp only [Report.process, SymbolIndex.valid_shop, hchecked]
    rfl
  have hcount : (Report.ofOutcomes (Report.scan SymbolIndex.shop.resolver .default)
      (Report.outcomes SymbolIndex.shop.resolver .default
        SymbolIndex.shopConverters)).artifacts.length = 2 := by decide +kernel
  have hpaths : ((Report.writeAll (Destination.write ⟨⟨"out"⟩, "kt"⟩)
      (Report.ofOutcomes (Report.scan SymbolIndex.shop.resolver .default)
        (Report.outcomes SymbolIndex.shop.resolver .default
          SymbolIndex.shopConverters)).artifacts).run.run
            (⟨.empty, [], OrderedMap.empty⟩ : Workspace)).1.isOk = true := by decide +kernel
  -- from here on the texts of the artifacts must not be computed again
  generalize Report.ofOutcomes _ _ = made at hprocess hcount hpaths
  cases hwritten : (Report.writeAll (Destination.write ⟨⟨"out"⟩, "kt"⟩) made.artifacts).run.run
      (⟨.empty, [], OrderedMap.empty⟩ : Workspace) with
  | mk result after =>
    rw [hwritten] at hpaths
    cases result with
    | error failure => cases hpaths
    | ok paths =>
      have hextension : '.' ∉ Configuration.default.fileExtension.toList := by decide
      have hrun := Report.run_of_process hprocess hwritten
      obtain ⟨shown, buffer, _, _, hfiles, _, _, hbelow⟩ :=
        run_write_eq_buffer SymbolIndex.reachable_shop hextension ⟨"out"⟩ hrun
      exact ⟨_, after, buffer, hrun, hcount, hfiles, hbelow rfl⟩

end ConverterBuilders
