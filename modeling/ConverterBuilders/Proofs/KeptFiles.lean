import ConverterBuilders.Artifact.Disk
import ConverterBuilders.Proofs.Places
import ConverterBuilders.Proofs.Running

/-!
# Which files a change keeps

Directories are made only where nothing stands, so making them keeps every file.  A text replaces what
stands where its path leads, and keeps every other file.

Main statements:

* `leads_makeDirectories`: making directories leads as making each of them does;
* `keepsFiles_makeDirectories`: making directories keeps all files;
* `exists_of_writeText`: a text that was written stands where its path leads, and nothing else changes;
* `gains_of_write`, `gains_of_writeAll`: what artifacts that were written change.
-/

namespace ConverterBuilders

open FileTree (locationOf)

namespace FileTree

/-- Whether a tree has a file with this content at a location. -/
def HasFile (tree : FileTree) (location : Location) (content : FileContent) : Prop :=
  tree.nodes.get? location = some (.file content)

/-- Whether two trees have the same files, perhaps not at some places. -/
def SameFilesBut (places : List Location) (before after : FileTree) : Prop :=
  ∀ location ∉ places, ∀ content, after.HasFile location content ↔ before.HasFile location content

/-! ## Single changes -/

variable {tree before between after : FileTree} {location other : Location} {directory : Location}

theorem SameFilesBut.refl (places : List Location) (tree : FileTree) :
    SameFilesBut places tree tree := fun _ _ _ => Iff.rfl

theorem SameFilesBut.trans {first second : List Location} (hf : SameFilesBut first before between)
    (hs : SameFilesBut second between after) : SameFilesBut (first ++ second) before after := by
  intro location hl content
  simp only [List.mem_append, not_or] at hl
  exact (hs location hl.2 content).trans (hf location hl.1 content)

theorem get?_put_self (tree : FileTree) (location : Location) (node : FileNode) :
    (tree.put location node).nodes.get? location = some node :=
  OrderedMap.get?_insert_self ..

theorem get?_put_of_ne (tree : FileTree) (h : other ≠ location) (node : FileNode) :
    (tree.put location node).nodes.get? other = tree.nodes.get? other :=
  OrderedMap.get?_insert_of_ne _ _ fun e => h (Std.LawfulEqOrd.eq_of_compare e)

theorem sameFilesBut_put (tree : FileTree) (location : Location) (node : FileNode) :
    SameFilesBut [location] tree (tree.put location node) := by
  intro other ho content
  rw [HasFile, get?_put_of_ne tree (by simpa using ho), HasFile]

/-- A directory where nothing stood hides no file. -/
theorem sameFilesBut_put_directory (h : tree.nodes.get? location = none) :
    SameFilesBut [] tree (tree.put location .directory) := by
  intro other _ content
  by_cases ho : other = location
  · subst ho
    simp [HasFile, get?_put_self, h]
  · rw [HasFile, get?_put_of_ne tree ho, HasFile]

/-! ## Making directories -/

/-- Whether a change leads to a related tree, also where it is refused. -/
def Leads {α : Type} (related : FileTree → FileTree → Prop) (change : Change α) : Prop :=
  ∀ tree, related tree (change.run.run tree).2

/-- A new directory gets a location where nothing stands. -/
theorem get?_of_directoryPlace {path : Path} (h : tree.directoryPlace directory path = .ok location) :
    tree.nodes.get? location = none := by
  obtain ⟨-, front, last, slash, found, -, -, -, hn, rfl⟩ := directoryPlace_eq_ok_iff.1 h
  simpa [node?] using hn

section Leads

variable {related : FileTree → FileTree → Prop} (hrefl : ∀ tree, related tree tree)
  (htrans : ∀ before between after, related before between → related between after →
    related before after)

include hrefl in
theorem Leads.pure {α : Type} (a : α) : Leads related (Pure.pure a : Change α) := hrefl

include htrans in
theorem Leads.bind {α β : Type} {change : Change α} {next : α → Change β}
    (h : Leads related change) (hn : ∀ a, Leads related (next a)) : Leads related (change >>= next) := by
  intro tree
  have hfirst := h tree
  cases hc : change.run.run tree with
  | mk result between =>
    rw [hc] at hfirst
    cases result with
    | error fault =>
      rw [run_bind_of_error hc]
      exact hfirst
    | ok a =>
      rw [run_bind_of_ok hc]
      exact htrans _ _ _ hfirst (hn a between)

variable {directory : Location} (hput : ∀ tree path location,
  tree.directoryPlace directory path = .ok location → related tree (tree.put location .directory))

include hrefl hput

theorem leads_makeOrKeep (path : Path) : Leads related (makeOrKeep directory path) := by
  intro tree
  have hget : (get : Change FileTree).run.run tree = (.ok tree, tree) := rfl
  rw [makeOrKeep, run_bind_of_ok hget]
  cases hp : tree.directoryPlace directory path with
  | ok location => exact hput tree path location hp
  | error fault =>
    simp only
    rw [run_bind_of_ok hget]
    split
    · exact hrefl tree
    · exact hrefl tree

include htrans

theorem leads_makeChain (paths : List Path) : Leads related (makeChain directory paths) := by
  induction paths with
  | nil => exact .pure hrefl ()
  | cons path ups ih =>
    have hmake := leads_makeOrKeep hrefl hput path
    rw [makeChain]
    split
    · exact .pure hrefl ()
    · refine .bind htrans (fun tree => hrefl tree) fun tree => ?_
      split
      · exact .bind htrans ih fun _ => hmake
      · exact hmake

/-- **Making directories leads as making each of them does.** -/
theorem leads_makeDirectories (path : Path) : Leads related (makeDirectories directory path) :=
  leads_makeChain hrefl htrans hput path.ancestors

end Leads

/-- **Making directories keeps all files.** -/
theorem keepsFiles_makeDirectories (directory : Location) (path : Path) :
    Leads (SameFilesBut []) (makeDirectories directory path) :=
  leads_makeDirectories (.refl []) (fun _ _ _ => .trans)
    (fun _ _ _ h => sameFilesBut_put_directory (get?_of_directoryPlace h)) path

/-! ## Writing texts -/

/-- A text that was written had a place. -/
theorem exists_textPlace_of_writeText {path : Path} {text : String}
    (h : (writeText directory path text).run.run before = (.ok (), after)) :
    ∃ location, before.textPlace directory path = .ok location ∧
      after = before.put location (.file (.text text)) := by
  cases hp : before.textPlace directory path with
  | error fault =>
    rw [writeText_of_refused hp] at h
    cases h
  | ok location =>
    have hget : (get : Change FileTree).run.run before = (.ok before, before) := rfl
    rw [writeText, run_bind_of_ok hget, hp] at h
    cases h
    exact ⟨location, rfl, rfl⟩

/-- **A text that was written stands where its path leads, and nothing else changes.** -/
theorem exists_of_writeText {path : Path} {text : String}
    (h : (writeText directory path text).run.run before = (.ok (), after)) :
    after.HasFile (locationOf directory path) (.text text) ∧
      SameFilesBut [locationOf directory path] before after := by
  obtain ⟨location, hp, rfl⟩ := exists_textPlace_of_writeText h
  rw [← eq_of_textPlace hp]
  exact ⟨get?_put_self _ _ _, sameFilesBut_put _ _ _⟩

end FileTree

/-! ## Artifacts -/

/-- How a workspace gains files: they stand at their places, and every other file is as it was. -/
structure Workspace.Gains (before after : Workspace) (files : List (Location × String)) : Prop where
  directory : after.directory = before.directory
  written : ∀ file ∈ files, after.files.HasFile file.1 (.text file.2)
  kept : FileTree.SameFilesBut (files.map Prod.fst) before.files after.files

namespace Workspace

variable {before between after : Workspace}

theorem Gains.cons {file : Location × String} {files : List (Location × String)}
    (hf : before.Gains between [file]) (hs : between.Gains after files)
    (hnew : file.1 ∉ files.map Prod.fst) : before.Gains after (file :: files) where
  directory := hs.directory.trans hf.directory
  written := by
    intro other ho
    rcases List.mem_cons.mp ho with rfl | ho
    · exact (hs.kept _ hnew _).2 (hf.written _ (List.mem_singleton_self _))
    · exact hs.written other ho
  kept := hf.kept.trans hs.kept

theorem run_change (action : Location → FileTree.Change Unit) (workspace : Workspace) :
    (change action).run.run workspace =
      (((action workspace.directory).run.run workspace.files).1.mapError .file,
        { workspace with files := ((action workspace.directory).run.run workspace.files).2 }) := by
  have hget : (get : Task Workspace).run.run workspace = (.ok workspace, workspace) := rfl
  rw [change, run_bind_of_ok hget]
  cases hr : (action workspace.directory).run.run workspace.files with
  | mk result files =>
    simp only
    cases result <;> rfl

/-- A change of a workspace that succeeded did so in its files. -/
theorem exists_of_change {action : Location → FileTree.Change Unit}
    (h : (change action).run.run before = (.ok (), after)) :
    (action before.directory).run.run before.files = (.ok (), after.files) ∧
      after.directory = before.directory := by
  rw [run_change] at h
  cases hr : (action before.directory).run.run before.files with
  | mk result files =>
    rw [hr] at h
    cases result with
    | error fault => cases h
    | ok =>
      cases h
      exact ⟨rfl, rfl⟩

theorem gains_of_writeText {path : Path} {text : String}
    (h : (change fun here => FileTree.writeText here path text).run.run before = (.ok (), after)) :
    before.Gains after [(locationOf before.directory path, text)] := by
  obtain ⟨hw, hd⟩ := exists_of_change h
  obtain ⟨hfile, hkept⟩ := FileTree.exists_of_writeText hw
  exact ⟨hd, List.forall_mem_singleton.2 hfile, hkept⟩

/-- Directories that were made before do not show among the files. -/
theorem gains_of_makeDirectories {path : Path} {files : List (Location × String)}
    (h : (change fun here => FileTree.makeDirectories here path).run.run before = (.ok (), between))
    (hg : between.Gains after files) : before.Gains after files := by
  obtain ⟨hm, hd⟩ := exists_of_change h
  have hkept := FileTree.keepsFiles_makeDirectories before.directory path before.files
  rw [hm] at hkept
  exact ⟨hg.directory.trans hd, hg.written, hkept.trans hg.kept⟩

end Workspace

namespace Destination

variable {destination : Destination} {before after : Workspace}

def place (destination : Destination) (directory : Location) (artifact : Artifact) : Location :=
  locationOf directory (artifact.pathUnder destination.root destination.extension)

/-- **An artifact that was written stands at its place, and nothing else changes.** -/
theorem gains_of_write {artifact : Artifact} {path : Path}
    (h : (destination.write artifact).run.run before = (.ok path, after)) :
    path = artifact.pathUnder destination.root destination.extension ∧
      before.Gains after [(destination.place before.directory artifact, artifact.text)] := by
  unfold write at h
  simp only at h
  split at h
  · obtain ⟨_, made, hm, h⟩ := exists_of_run_bind_ok h
    obtain ⟨_, last, hw, h⟩ := exists_of_run_bind_ok h
    cases h
    have hgains := Workspace.gains_of_writeText hw
    rw [(Workspace.exists_of_change hm).2] at hgains
    exact ⟨rfl, Workspace.gains_of_makeDirectories hm hgains⟩
  · obtain ⟨_, last, hw, h⟩ := exists_of_run_bind_ok h
    cases h
    exact ⟨rfl, Workspace.gains_of_writeText hw⟩

/-- **Artifacts that were written stand at their places, and nothing else changes.** -/
theorem gains_of_writeAll {artifacts : List Artifact} {paths : List Path}
    (hn : (artifacts.map (destination.place before.directory)).Nodup)
    (h : (Report.writeAll destination.write artifacts).run.run before = (.ok paths, after)) :
    paths = artifacts.map (fun artifact =>
        artifact.pathUnder destination.root destination.extension) ∧
      before.Gains after (artifacts.map fun artifact =>
        (destination.place before.directory artifact, artifact.text)) := by
  induction artifacts generalizing before paths with
  | nil =>
    cases h
    exact ⟨rfl, rfl, fun file hm => absurd hm List.not_mem_nil, .refl [] _⟩
  | cons artifact rest ih =>
    rw [Report.writeAll] at h
    obtain ⟨path, between, hw, h⟩ := exists_of_run_bind_ok h
    obtain ⟨others, last, hrest, h⟩ := exists_of_run_bind_ok h
    cases h
    obtain ⟨rfl, hgains⟩ := gains_of_write hw
    rw [List.map_cons, List.nodup_cons] at hn
    have hplace := hgains.directory
    obtain ⟨rfl, hothers⟩ := ih (by rw [hplace]; exact hn.2) hrest
    rw [hplace] at hothers
    refine ⟨rfl, hgains.cons hothers ?_⟩
    simpa using hn.1

end Destination

end ConverterBuilders
