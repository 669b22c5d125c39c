import ConverterBuilders.Proofs.GrowingTrees

/-!
# Writing artifacts again

The directories of an artifact that was written stand, and its text stands in them.  Where the tree has
only grown since, writing the artifact again makes no directory and puts the text where it stands.  No
artifact of an index has the name of an input, so writing artifacts lets a tree grow.

Main statements:

* `makeDirectories_again`: directories that stand are not made again;
* `writeText_again`: a text that stands is written without a change;
* `isInputName_of_mem_fileNames`: the file of an artifact has no name of an input;
* `run_again`: a run that wrote its artifacts changes nothing when it is repeated.
-/

namespace ConverterBuilders

open Text
open FileTree (locationOf)

namespace FileTree

variable {tree before after : FileTree} {directory here location : Location} {path : Path}

/-! ## Directories -/

theorem follow_of_isEmpty {pieces : List String} (h : ∀ piece ∈ pieces, piece.isEmpty = true)
    (hd : tree.hasDirectory here = true) : tree.follow here pieces = .ok here := by
  induction pieces with
  | nil => rfl
  | cons piece pieces ih =>
    have hpiece : piece = "" := String.isEmpty_iff.1 (h piece (List.mem_cons_self ..))
    have hstep : tree.step here piece = .ok here := by simp [step, hd, hpiece]
    exact follow_cons_eq_ok_iff.2
      ⟨here, hstep, ih fun other ho => h other (List.mem_cons_of_mem _ ho)⟩

/-- A directory that was made stands where its path leads. -/
theorem isDirectory_of_directoryPlace (hl : tree.Lawful)
    (h : tree.directoryPlace directory path = .ok location) :
    (tree.put location .directory).isDirectory directory path = true := by
  have hgrows := growsTo_of_directoryPlace h
  obtain ⟨hne, front, last, slash, found, hs, he, hdots, -, rfl⟩ := directoryPlace_eq_ok_iff.1 h
  obtain ⟨hlast, back, hpieces, hback⟩ := exists_of_splitLast hs
  obtain ⟨hf, hd, hc⟩ := enter_eq_ok_iff.1 (hgrows.enter hl he)
  have hmade : (tree.put (found ++ [last]) .directory).hasDirectory (found ++ [last]) = true := by
    rw [hasDirectory, node?_put_self tree (List.append_ne_nil_of_right_ne_nil _ (List.cons_ne_nil _ _))]
    rfl
  have hstep := (hgrows.lawful hl).step_eq_ok_iff.2
    ⟨hd, .inr hc, (turn_of_last hlast hdots).symm, isSome_of_hasDirectory hmade⟩
  refine isDirectory_iff.2 ⟨_, resolve_eq_ok_iff.2 ⟨hne, ?_⟩, hmade⟩
  rw [hpieces, follow_append, hf]
  exact follow_cons_eq_ok_iff.2 ⟨_, hstep, follow_of_isEmpty hback hmade⟩

theorem isDirectory_of_makeOrKeep (hl : before.Lawful)
    (h : (makeOrKeep directory path).run.run before = (.ok (), after)) :
    after.isDirectory directory path = true := by
  have hget : (get : Change FileTree).run.run before = (.ok before, before) := rfl
  rw [makeOrKeep, run_bind_of_ok hget] at h
  cases hp : before.directoryPlace directory path with
  | ok location =>
    rw [hp] at h
    cases h
    exact isDirectory_of_directoryPlace hl hp
  | error fault =>
    rw [hp] at h
    simp only at h
    rw [run_bind_of_ok hget] at h
    split at h
    · rename_i hd
      cases h
      exact hd
    · cases h

theorem isDirectory_of_makeChain {ups : List Path} (hl : before.Lawful)
    (h : (makeChain directory (path :: ups)).run.run before = (.ok (), after)) :
    path.text.isEmpty = true ∨ after.isDirectory directory path = true := by
  have hget : (get : Change FileTree).run.run before = (.ok before, before) := rfl
  rw [makeChain] at h
  split at h
  · rename_i he
    exact .inl he
  · rw [run_bind_of_ok hget] at h
    refine .inr ?_
    split at h
    · obtain ⟨_, between, hups, h⟩ := exists_of_run_bind_ok h
      have hgrows := growsTo_makeChain directory ups before
      rw [hups] at hgrows
      exact isDirectory_of_makeOrKeep (hgrows.lawful hl) h
    · exact isDirectory_of_makeOrKeep hl h

theorem exists_of_ancestors (path : Path) : ∃ ups, path.ancestors = path :: ups := by
  rw [Path.ancestors, Path.ancestorsWithin]
  cases path.parent with
  | none => exact ⟨[], rfl⟩
  | some up => exact ⟨_, rfl⟩

/-- **Directories that were made stand where their path leads.** -/
theorem isDirectory_of_makeDirectories (hl : before.Lawful)
    (h : (makeDirectories directory path).run.run before = (.ok (), after)) :
    path.text.isEmpty = true ∨ after.isDirectory directory path = true := by
  obtain ⟨ups, hups⟩ := exists_of_ancestors path
  rw [makeDirectories, hups] at h
  exact isDirectory_of_makeChain hl h

/-- There is no place for a directory that stands. -/
theorem directoryPlace_of_isDirectory (hl : tree.Lawful) (h : tree.isDirectory directory path = true) :
    tree.directoryPlace directory path = .error .alreadyExists := by
  obtain ⟨location, hr, -⟩ := isDirectory_iff.1 h
  obtain ⟨hne, hf⟩ := resolve_eq_ok_iff.1 hr
  cases hs : splitLast path with
  | none => simp [directoryPlace, hne, hs]
  | some parts =>
    obtain ⟨front, last, slash⟩ := parts
    obtain ⟨hlast, back, hpieces, -⟩ := exists_of_splitLast hs
    rw [hpieces, follow_append] at hf
    cases hfront : tree.follow (start directory path) front with
    | error fault =>
      rw [hfront] at hf
      cases hf
    | ok found =>
      rw [hfront] at hf
      obtain ⟨next, hstep, -⟩ := follow_cons_eq_ok_iff.1 hf
      obtain ⟨hd, hc, hnext, hsome⟩ := hl.step_eq_ok_iff.1 hstep
      have hclosed : tree.isClosed found = false := by
        refine hc.resolve_left fun he => ?_
        simp [he] at hlast
      have henter := enter_eq_ok_iff.2 ⟨hfront, hd, hclosed⟩
      have htaken : isDots last = true ∨ (tree.node? (found ++ [last])).isSome = true := by
        cases hdots : isDots last with
        | true => exact .inl rfl
        | false =>
          rw [hnext, turn_of_last hlast hdots] at hsome
          exact .inr hsome
      simp [directoryPlace, hne, hs, henter, htaken]

/-- **Directories that stand are not made again.** -/
theorem makeDirectories_again (hl : tree.Lawful)
    (h : path.text.isEmpty = true ∨ tree.isDirectory directory path = true) :
    (makeDirectories directory path).run.run tree = (.ok (), tree) := by
  obtain ⟨ups, hups⟩ := exists_of_ancestors path
  have hget : (get : Change FileTree).run.run tree = (.ok tree, tree) := rfl
  rw [makeDirectories, hups, makeChain]
  split
  · rfl
  · rename_i he
    have hd := h.resolve_left he
    have hplace := directoryPlace_of_isDirectory hl hd
    rw [run_bind_of_ok hget, hplace]
    simp only
    rw [makeOrKeep, run_bind_of_ok hget, hplace]
    simp only
    rw [run_bind_of_ok hget, if_pos hd]
    rfl

/-! ## Texts -/

/-- Where a text could be written and a file stands, a text may be written in a larger tree. -/
theorem GrowsTo.textPlace (h : before.GrowsTo after) (hl : before.Lawful)
    (hp : before.textPlace directory path = .ok location) {content : FileContent}
    (hf : after.node? location = some (.file content)) :
    after.textPlace directory path = .ok location := by
  obtain ⟨hne, front, last, found, hs, he, hdots, -, rfl⟩ := textPlace_eq_ok_iff.1 hp
  refine textPlace_eq_ok_iff.2 ⟨hne, front, last, found, hs, h.enter hl he, hdots, ?_, rfl⟩
  rw [FileTree.hasDirectory, hf]
  rfl

theorem ne_nil_of_textPlace (h : tree.textPlace directory path = .ok location) : location ≠ [] := by
  obtain ⟨-, front, last, found, -, -, -, -, rfl⟩ := textPlace_eq_ok_iff.1 h
  exact List.append_ne_nil_of_right_ne_nil _ (List.cons_ne_nil _ _)

/-- Putting what stands at a location changes nothing. -/
theorem put_of_get? {node : FileNode} (h : tree.nodes.get? location = some node) :
    tree.put location node = tree := by
  obtain ⟨nodes⟩ := tree
  refine congrArg FileTree.mk (OrderedMap.ext_get? fun other => ?_)
  by_cases ho : other = location
  · rw [ho, OrderedMap.get?_insert_self]
    exact h.symm
  · exact OrderedMap.get?_insert_of_ne _ _ fun e => ho (Std.LawfulEqOrd.eq_of_compare e)

/-- **A text that stands is written without a change.** -/
theorem writeText_again {text : String} (hp : tree.textPlace directory path = .ok location)
    (hf : tree.HasFile location (.text text)) :
    (writeText directory path text).run.run tree = (.ok (), tree) := by
  have hget : (get : Change FileTree).run.run tree = (.ok tree, tree) := rfl
  have hput : (putAt (.ok location) (.file (.text text)) : Change Unit).run.run tree =
      (.ok (), tree.put location (.file (.text text))) := rfl
  rw [writeText, run_bind_of_ok hget, hp, hput, put_of_get? hf]

/-! ## The names of artifacts -/

/-- No index has a name with a single point. -/
theorem count_of_isIndexName {name : String} (h : SymbolIndex.isIndexName (lossy name) = true) :
    2 ≤ name.toList.count '.' := by
  refine Nat.le_trans ?_ (count_lossy_le (by decide) name)
  rw [SymbolIndex.isIndexName, Bool.or_eq_true] at h
  rcases h with h | h
  · exact (List.isSuffixOf_iff_suffix.1 h).sublist.count_le '.'
  · exact (List.isSuffixOf_iff_suffix.1 h).sublist.count_le '.'

/-- The names of inputs have points in them. -/
theorem isInputName_of_no_point {name : String} (h : '.' ∉ name.toList) : isInputName name = false := by
  by_contra hinput
  rw [Bool.not_eq_false, isInputName] at hinput
  simp only [Bool.or_eq_true, decide_eq_true_eq] at hinput
  rcases hinput with (rfl | rfl) | hindex
  · exact absurd h (by decide)
  · exact absurd h (by decide)
  · have htwo := count_of_isIndexName hindex
    rw [List.count_eq_zero_of_not_mem h] at htwo
    omega

/-- No input has a name of which the part in front of its only point ends as those of artifacts do. -/
theorem isInputName_of_point {base first : List Char} (hb : '.' ∉ base) (hf : '.' ∉ first)
    (he : "Functions".toList <:+ base) :
    isInputName (String.ofList (base ++ '.' :: first)) = false := by
  have hcount : (base ++ '.' :: first).count '.' = 1 := by
    simp [List.count_eq_zero_of_not_mem hb, List.count_eq_zero_of_not_mem hf]
  have hfront : ∀ name : String, String.ofList (base ++ '.' :: first) = name →
      base = name.toList.takeWhile (· ≠ '.') := by
    rintro name rfl
    rw [String.toList_ofList, takeWhile_ne_append hb]
  by_contra hinput
  rw [Bool.not_eq_false, isInputName] at hinput
  simp only [Bool.or_eq_true, decide_eq_true_eq] at hinput
  rcases hinput with (hname | hname) | hname
  · rw [hfront _ hname] at he
    exact absurd he (by decide)
  · rw [hfront _ hname] at he
    exact absurd he (by decide)
  · have htwo := count_of_isIndexName hname
    rw [String.toList_ofList, hcount] at htwo
    omega

end FileTree

/-- **The file of an artifact has no name of an input.** -/
theorem Artifact.isInputName_of_mem_fileNames {converter : Converter} (hw : converter.WellNamed)
    {extension : String} (he : '.' ∉ extension.toList) {name : String}
    (h : name ∈ fileNames converter.artifactBaseName extension) :
    FileTree.isInputName name = false := by
  have hbase := (QualifiedName.not_mem_of_isIdentifier (Converter.isIdentifier_artifactBaseName hw)).1
  have hends : "Functions".toList <:+ converter.artifactBaseName.toList := by
    rw [Converter.artifactBaseName, String.toList_append]
    exact List.suffix_append ..
  have hpieces : ∀ piece ∈ split '/' extension.toList, '.' ∉ piece := fun piece hm hc =>
    he (mem_of_mem_split hm hc)
  rw [fileNames] at h
  split at h
  · cases h
  · rename_i first rest hsplit
    rw [hsplit] at hpieces
    rcases List.mem_cons.1 h with rfl | h
    · exact FileTree.isInputName_of_point hbase (hpieces first (List.mem_cons_self ..)) hends
    · obtain ⟨piece, hm, rfl⟩ := List.mem_map.1 h
      refine FileTree.isInputName_of_no_point ?_
      rw [String.toList_ofList]
      exact hpieces piece (List.mem_cons_of_mem _ (List.mem_filter.1 hm).1)

/-! ## Artifacts -/

namespace Workspace

variable {before after : Workspace} {action : Location → FileTree.Change Unit}

theorem growsTo_of_change (h : (change action).run.run before = (.ok (), after))
    (hc : FileTree.Leads FileTree.GrowsTo (action before.directory)) : before.GrowsTo after := by
  have hafter := congrArg Prod.snd ((run_change action before).symm.trans h)
  subst hafter
  exact ⟨rfl, rfl, hc before.files⟩

/-- A change that keeps the files keeps the workspace. -/
theorem run_change_of_kept {workspace : Workspace}
    (h : (action workspace.directory).run.run workspace.files = (.ok (), workspace.files)) :
    (change action).run.run workspace = (.ok (), workspace) := by
  rw [run_change, h]
  rfl

end Workspace

namespace Destination

variable {destination : Destination} {workspace before after : Workspace} {artifact : Artifact}

/-- Whether an artifact has a file in a directory that stands, and a text may be written there. -/
structure Holds (destination : Destination) (workspace : Workspace) (artifact : Artifact) : Prop where
  parent : ∀ up, (artifact.pathUnder destination.root destination.extension).parent = some up →
    up.text.isEmpty = true ∨ workspace.files.isDirectory workspace.directory up = true
  place : workspace.files.textPlace workspace.directory
    (artifact.pathUnder destination.root destination.extension) =
      .ok (destination.place workspace.directory artifact)
  file : ∃ content, workspace.files.node? (destination.place workspace.directory artifact) =
    some (.file content)

theorem Holds.grows (h : destination.Holds before artifact) (hg : before.GrowsTo after)
    (hl : before.files.Lawful) : destination.Holds after artifact := by
  obtain ⟨content, hfile⟩ := h.file
  obtain ⟨other, hother⟩ := hg.files.file _ content hfile
  refine ⟨fun up hup => ?_, ?_, ?_⟩
  · rw [hg.directory]
    exact (h.parent up hup).imp_right (hg.files.isDirectory hl)
  · rw [hg.directory]
    exact hg.files.textPlace hl h.place hother
  · rw [hg.directory]
    exact ⟨other, hother⟩

/-- Whether an artifact has a place with no name of an input. -/
def SparesInputs (destination : Destination) (directory : Location) (artifact : Artifact) : Prop :=
  ∀ front name, destination.place directory artifact = front ++ [name] →
    FileTree.isInputName name = false

/-- An artifact whose text was written into a directory that stands. -/
theorem holds_of_writeText (hl : before.files.Lawful)
    (hs : destination.SparesInputs before.directory artifact)
    (hp : ∀ up, (artifact.pathUnder destination.root destination.extension).parent = some up →
      up.text.isEmpty = true ∨ before.files.isDirectory before.directory up = true)
    (h : (Workspace.change fun here => FileTree.writeText here
      (artifact.pathUnder destination.root destination.extension) artifact.text).run.run before =
        (.ok (), after)) :
    before.GrowsTo after ∧ destination.Holds after artifact := by
  have hgrows := Workspace.growsTo_of_change h (FileTree.growsTo_writeText hs)
  obtain ⟨hwrite, hdirectory⟩ := Workspace.exists_of_change h
  obtain ⟨location, hplace, hafter⟩ := FileTree.exists_textPlace_of_writeText hwrite
  have hlocation : location = destination.place before.directory artifact :=
    FileTree.eq_of_textPlace hplace
  have hfile : after.files.node? location = some (.file (.text artifact.text)) := by
    rw [hafter, FileTree.node?_put_self _ (FileTree.ne_nil_of_textPlace hplace)]
  have hagain := hgrows.files.textPlace hl hplace hfile
  rw [hlocation] at hagain hfile
  refine ⟨hgrows, fun up hup => ?_, ?_, ?_⟩
  · rw [hdirectory]
    exact (hp up hup).imp_right (hgrows.files.isDirectory hl)
  · rw [hdirectory]
    exact hagain
  · rw [hdirectory]
    exact ⟨_, hfile⟩

/-- **An artifact that was written has a file in a directory that stands.** -/
theorem holds_of_write {path : Path} (hl : before.files.Lawful)
    (hs : destination.SparesInputs before.directory artifact)
    (h : (destination.write artifact).run.run before = (.ok path, after)) :
    before.GrowsTo after ∧ destination.Holds after artifact := by
  unfold write at h
  simp only at h
  split at h
  · rename_i directory hparent
    obtain ⟨_, between, hmake, h⟩ := exists_of_run_bind_ok h
    obtain ⟨_, last, hwrite, h⟩ := exists_of_run_bind_ok h
    cases h
    have hgrows := Workspace.growsTo_of_change hmake (FileTree.growsTo_makeDirectories _ _)
    have hmade := FileTree.isDirectory_of_makeDirectories hl (Workspace.exists_of_change hmake).1
    rw [← hgrows.directory] at hs hmade
    obtain ⟨hlast, hholds⟩ := holds_of_writeText (hgrows.files.lawful hl) hs
      (fun up hup => by
        cases hparent.symm.trans hup
        exact hmade) hwrite
    exact ⟨hgrows.trans hlast, hholds⟩
  · rename_i hparent
    obtain ⟨_, last, hwrite, h⟩ := exists_of_run_bind_ok h
    cases h
    exact holds_of_writeText hl hs (fun up hup => by cases hparent.symm.trans hup) hwrite

/-- **An artifact that stands is written without a change.** -/
theorem write_again (hl : workspace.files.Lawful) (h : destination.Holds workspace artifact)
    (hf : workspace.files.HasFile (destination.place workspace.directory artifact)
      (.text artifact.text)) :
    (destination.write artifact).run.run workspace =
      (.ok (artifact.pathUnder destination.root destination.extension), workspace) := by
  have hwrite : (Workspace.change fun here => FileTree.writeText here
      (artifact.pathUnder destination.root destination.extension) artifact.text).run.run workspace =
        (.ok (), workspace) :=
    Workspace.run_change_of_kept (FileTree.writeText_again h.place hf)
  unfold write
  simp only
  split
  · rename_i directory hparent
    have hmake : (Workspace.change fun here => FileTree.makeDirectories here directory).run.run
        workspace = (.ok (), workspace) :=
      Workspace.run_change_of_kept (FileTree.makeDirectories_again hl (h.parent directory hparent))
    rw [run_bind_of_ok hmake, run_bind_of_ok hwrite]
    rfl
  · rw [run_bind_of_ok hwrite]
    rfl

/-- **Writing artifacts lets a workspace grow, and then each of them has a file.** -/
theorem holds_of_writeAll {artifacts : List Artifact} {paths : List Path} (hl : before.files.Lawful)
    (hs : ∀ artifact ∈ artifacts, destination.SparesInputs before.directory artifact)
    (h : (Report.writeAll destination.write artifacts).run.run before = (.ok paths, after)) :
    before.GrowsTo after ∧ ∀ artifact ∈ artifacts, destination.Holds after artifact := by
  induction artifacts generalizing before paths with
  | nil =>
    cases h
    exact ⟨.refl _, fun _ hm => absurd hm List.not_mem_nil⟩
  | cons artifact rest ih =>
    rw [Report.writeAll] at h
    obtain ⟨path, between, hw, h⟩ := exists_of_run_bind_ok h
    obtain ⟨others, last, hrest, h⟩ := exists_of_run_bind_ok h
    cases h
    obtain ⟨hfirst, hholds⟩ := holds_of_write hl (hs artifact (List.mem_cons_self ..)) hw
    have hlawful := hfirst.files.lawful hl
    obtain ⟨hothers, hall⟩ := ih hlawful (fun other ho => by
      rw [hfirst.directory]
      exact hs other (List.mem_cons_of_mem _ ho)) hrest
    refine ⟨hfirst.trans hothers, fun other ho => ?_⟩
    rcases List.mem_cons.1 ho with rfl | ho
    · exact hholds.grows hothers hlawful
    · exact hall other ho

/-- **Artifacts that stand are written without a change.** -/
theorem writeAll_again {artifacts : List Artifact} (hl : workspace.files.Lawful)
    (h : ∀ artifact ∈ artifacts, destination.Holds workspace artifact ∧
      workspace.files.HasFile (destination.place workspace.directory artifact)
        (.text artifact.text)) :
    (Report.writeAll destination.write artifacts).run.run workspace =
      (.ok (artifacts.map fun artifact =>
        artifact.pathUnder destination.root destination.extension), workspace) := by
  induction artifacts with
  | nil => rfl
  | cons artifact rest ih =>
    obtain ⟨hholds, hfile⟩ := h artifact (List.mem_cons_self ..)
    rw [Report.writeAll, run_bind_of_ok (write_again hl hholds hfile),
      run_bind_of_ok (ih fun other ho => h other (List.mem_cons_of_mem _ ho))]
    rfl

end Destination

/-! ## Reports -/

namespace Report

variable {index : SymbolIndex} {configuration : Configuration} {root : Path}
  {workspace after : Workspace} {report : Report}

/-- **The artifacts of an index have places with no names of inputs.** -/
theorem sparesInputs (hi : index.Reachable) (he : '.' ∉ configuration.fileExtension.toList)
    (hp : process index.resolver configuration = .ok report) (directory : Location)
    {artifact : Artifact} (ha : artifact ∈ report.artifacts) :
    Destination.SparesInputs ⟨root, configuration.fileExtension⟩ directory artifact := by
  intro front name hplace
  obtain ⟨converter, hw, hc⟩ := exists_pathNames hi he hp ha
  rw [place_eq hi he hp directory ha, Path.names_of_components hc, Artifact.pathNames] at hplace
  have hne : Artifact.fileNames converter.artifactBaseName configuration.fileExtension ≠ [] := by
    obtain ⟨first, rest, hnames⟩ := Artifact.exists_fileNames configuration.fileExtension
    rw [hnames]
    exact List.cons_ne_nil _ _
  obtain ⟨others, last, hlast⟩ := (List.eq_nil_or_concat _).resolve_left hne
  rw [List.concat_eq_append] at hlast
  rw [hlast, ← List.append_assoc, ← List.append_assoc] at hplace
  obtain ⟨-, hname⟩ := List.append_inj' hplace rfl
  cases hname
  refine Artifact.isInputName_of_mem_fileNames hw he ?_
  rw [hlast]
  exact List.mem_append_right _ (List.mem_singleton_self _)

/-- **A run that wrote its artifacts lets a workspace grow, and changes nothing when it is repeated.** -/
theorem run_again (hl : workspace.files.Lawful) (hi : index.Reachable)
    (he : '.' ∉ configuration.fileExtension.toList)
    (h : (run index.resolver configuration
      (Destination.write ⟨root, configuration.fileExtension⟩)).run.run workspace =
        (.ok report, after)) :
    workspace.GrowsTo after ∧
      (run index.resolver configuration
        (Destination.write ⟨root, configuration.fileExtension⟩)).run.run after =
          (.ok report, after) := by
  obtain ⟨made, paths, hp, hw, hreport⟩ := exists_of_run_ok h
  obtain ⟨hgrows, hholds⟩ :=
    Destination.holds_of_writeAll hl (fun artifact ha => sparesInputs hi he hp _ ha) hw
  obtain ⟨_, hp', hwritten, hgains⟩ := gains_of_run hi he h
  cases hp.symm.trans hp'
  have hfile : ∀ artifact ∈ made.artifacts, after.files.HasFile
      (Destination.place ⟨root, configuration.fileExtension⟩ after.directory artifact)
      (.text artifact.text) := by
    intro artifact ha
    rw [hgrows.directory, place_eq hi he hp _ ha]
    exact hgains.written _ (List.mem_map_of_mem (List.mem_map_of_mem ha))
  have hagain := Destination.writeAll_again (hgrows.files.lawful hl)
    fun artifact ha => ⟨hholds artifact ha, hfile artifact ha⟩
  refine ⟨hgrows, ?_⟩
  rw [hwritten]
  exact run_of_process hp hagain

end Report

end ConverterBuilders
