import ConverterBuilders.Proofs.IndexFiles

/-!
# Trees that grow beside the inputs of a run

A run that writes artifacts makes directories where nothing stands, and puts texts where no directory
stands and under names that no input of a run has.  What a path led to before it leads to afterwards.  The
converse holds for the inputs, if each step up begins in a directory that stood before.

Main statements:

* `GrowsTo.resolve`: what a path leads to it leads to in a larger tree;
* `GrowsTo.at?_input`: an input that a path leads to in the larger tree is one that it led to before;
* `growsTo_makeDirectories`, `growsTo_writeText`: making directories and writing texts let a tree grow.
-/

namespace ConverterBuilders

open Text
open FileTree (locationOf)

namespace FileTree

/-- Whether a file of this name is one that a run may read. -/
def isInputName (name : String) : Bool :=
  name = Configuration.fileName || name = EnvironmentFile.fileName ||
    SymbolIndex.isIndexName (lossy name)

/-- How a tree grows beside the inputs of a run: directories stay as they are and files stay files, and no
file of an input is changed or added. -/
structure GrowsTo (before after : FileTree) : Prop where
  lawful : before.Lawful → after.Lawful
  directory : ∀ location, before.hasDirectory location = true →
    after.node? location = before.node? location
  file : ∀ location content, before.node? location = some (.file content) →
    ∃ other, after.node? location = some (.file other)
  closed : ∀ location, after.node? location = some .closed → before.node? location = some .closed
  input : ∀ front name, isInputName name = true → ∀ content,
    after.node? (front ++ [name]) = some (.file content) ↔
      before.node? (front ++ [name]) = some (.file content)

variable {tree before between after : FileTree} {directory here location : Location} {path : Path}

theorem GrowsTo.refl (tree : FileTree) : tree.GrowsTo tree where
  lawful := id
  directory _ _ := rfl
  file _ content h := ⟨content, h⟩
  closed _ := id
  input _ _ _ _ := Iff.rfl

theorem GrowsTo.hasDirectory (h : before.GrowsTo after) (hd : before.hasDirectory location = true) :
    after.hasDirectory location = true := by
  rw [FileTree.hasDirectory, h.directory location hd]
  exact hd

theorem GrowsTo.trans (hf : before.GrowsTo between) (hs : between.GrowsTo after) :
    before.GrowsTo after where
  lawful hl := hs.lawful (hf.lawful hl)
  directory location hd := (hs.directory location (hf.hasDirectory hd)).trans (hf.directory location hd)
  file location content h := by
    obtain ⟨other, ho⟩ := hf.file location content h
    exact hs.file location other ho
  closed location h := hf.closed location (hs.closed location h)
  input front name hn content := (hs.input front name hn content).trans (hf.input front name hn content)

/-! ## Where something stands -/

theorem isSome_of_hasDirectory (h : tree.hasDirectory location = true) :
    (tree.node? location).isSome = true := by
  obtain ⟨node, hn, -⟩ := (Option.any_eq_true ..).1 h
  rw [hn]
  rfl

/-- What stands at a location is a directory or a file. -/
theorem hasDirectory_or_file (h : (tree.node? location).isSome = true) :
    tree.hasDirectory location = true ∨ ∃ content, tree.node? location = some (.file content) := by
  obtain ⟨node, hn⟩ := Option.isSome_iff_exists.1 h
  rw [FileTree.hasDirectory, hn]
  cases node with
  | directory => exact .inl rfl
  | closed => exact .inl rfl
  | file content => exact .inr ⟨content, rfl⟩

theorem GrowsTo.isSome (h : before.GrowsTo after) (hs : (before.node? location).isSome = true) :
    (after.node? location).isSome = true := by
  rcases hasDirectory_or_file hs with hd | ⟨content, hf⟩
  · exact isSome_of_hasDirectory (h.hasDirectory hd)
  · obtain ⟨other, ho⟩ := h.file location content hf
    rw [ho]
    rfl

/-- What stood before and is a directory now was one. -/
theorem GrowsTo.hasDirectory_of_isSome (h : before.GrowsTo after)
    (hs : (before.node? location).isSome = true) (hd : after.hasDirectory location = true) :
    before.hasDirectory location = true := by
  refine (hasDirectory_or_file hs).resolve_right fun ⟨content, hf⟩ => ?_
  obtain ⟨other, ho⟩ := h.file location content hf
  rw [FileTree.hasDirectory, ho] at hd
  cases hd

theorem GrowsTo.isClosed_eq (h : before.GrowsTo after) (hd : before.hasDirectory location = true) :
    after.isClosed location = before.isClosed location := by
  rw [isClosed, isClosed, h.directory location hd]

/-- All on the way to what stands in a tree are directories. -/
theorem Lawful.hasDirectory_of_isSome (h : tree.Lawful) {front back : Location} (hne : back ≠ [])
    (hs : (tree.node? (front ++ back)).isSome = true) : tree.hasDirectory front = true := by
  obtain ⟨node, hn⟩ := Option.isSome_iff_exists.1 hs
  exact h.hasDirectory_of_append hne
    (mem_entries_of_node? (List.append_ne_nil_of_right_ne_nil _ hne) hn)

theorem Lawful.isSome_dropLast (h : tree.Lawful) (hd : tree.hasDirectory here = true) :
    (tree.node? here.dropLast).isSome = true := by
  rcases List.eq_nil_or_concat here with rfl | ⟨front, name, rfl⟩
  · rfl
  · rw [List.concat_eq_append, List.dropLast_concat]
    rw [List.concat_eq_append] at hd
    exact isSome_of_hasDirectory
      (h.hasDirectory_of_isSome (List.cons_ne_nil _ _) (isSome_of_hasDirectory hd))

/-! ## Following paths -/

/-- **A step begins in a directory that may be entered, and leads to where something stands.** -/
theorem Lawful.step_eq_ok_iff (h : tree.Lawful) {piece : String} {next : Location} :
    tree.step here piece = .ok next ↔
      tree.hasDirectory here = true ∧ (piece = "" ∨ tree.isClosed here = false) ∧
        next = Path.turn here piece ∧ (tree.node? next).isSome = true := by
  by_cases hd : tree.hasDirectory here = true
  · have hhere := isSome_of_hasDirectory hd
    have hup := h.isSome_dropLast hd
    have hfrom : ∀ place, (tree.node? place).isSome = true →
        ((.ok place : Except FileFault Location) = .ok next ↔
          next = place ∧ (tree.node? next).isSome = true) := by
      intro place hplace
      constructor
      · rintro ⟨⟩
        exact ⟨rfl, hplace⟩
      · rintro ⟨rfl, -⟩
        rfl
    unfold step Path.turn
    by_cases he : piece = ""
    · simpa [hd, he] using hfrom here hhere
    · cases hc : tree.isClosed here with
      | true => simp [hd, he]
      | false =>
        by_cases hdot : piece = "."
        · simpa [hd, hc, hdot] using hfrom here hhere
        · by_cases hdots : piece = ".."
          · simpa [hd, hc, hdots] using hfrom here.dropLast hup
          · by_cases hn : (tree.node? (here ++ [piece])).isSome = true
            · simpa [hd, he, hc, hdot, hdots, hn] using hfrom (here ++ [piece]) hn
            · refine iff_of_false (by simp [hd, he, hdot, hdots, hn]) ?_
              rintro ⟨-, -, rfl, hs⟩
              simp only [he, hdot, hdots, or_self, if_false] at hs
              exact hn hs
  · simp [step, hd]

theorem follow_cons_eq_ok_iff {piece : String} {pieces : List String} :
    tree.follow here (piece :: pieces) = .ok location ↔
      ∃ next, tree.step here piece = .ok next ∧ tree.follow next pieces = .ok location := by
  rw [follow]
  cases tree.step here piece with
  | ok next => simp
  | error fault => simp

theorem GrowsTo.step (h : before.GrowsTo after) (hl : before.Lawful) {piece : String} {next : Location}
    (hs : before.step here piece = .ok next) : after.step here piece = .ok next := by
  obtain ⟨hd, hc, hnext, hn⟩ := hl.step_eq_ok_iff.1 hs
  rw [← h.isClosed_eq hd] at hc
  exact (h.lawful hl).step_eq_ok_iff.2 ⟨h.hasDirectory hd, hc, hnext, h.isSome hn⟩

theorem GrowsTo.follow (h : before.GrowsTo after) (hl : before.Lawful) {pieces : List String}
    (hf : before.follow here pieces = .ok location) : after.follow here pieces = .ok location := by
  induction pieces generalizing here with
  | nil => exact hf
  | cons piece pieces ih =>
    obtain ⟨next, hs, hrest⟩ := follow_cons_eq_ok_iff.1 hf
    exact follow_cons_eq_ok_iff.2 ⟨next, h.step hl hs, ih hrest⟩

theorem GrowsTo.enter (h : before.GrowsTo after) (hl : before.Lawful) {pieces : List String}
    (he : before.enter here pieces = .ok location) : after.enter here pieces = .ok location := by
  obtain ⟨hf, hd, hc⟩ := enter_eq_ok_iff.1 he
  exact enter_eq_ok_iff.2 ⟨h.follow hl hf, h.hasDirectory hd, by rw [h.isClosed_eq hd, hc]⟩

theorem resolve_eq_ok_iff :
    tree.resolve directory path = .ok location ↔
      path.text.isEmpty = false ∧
        tree.follow (start directory path) (splitText '/' path.text) = .ok location := by
  rw [resolve]
  cases path.text.isEmpty <;> simp

/-- A path that leads to something leads to its location. -/
theorem eq_of_resolve (h : tree.resolve directory path = .ok location) :
    location = locationOf directory path :=
  eq_of_follow (resolve_eq_ok_iff.1 h).2

/-- **What a path leads to it leads to in a larger tree.** -/
theorem GrowsTo.resolve (h : before.GrowsTo after) (hl : before.Lawful)
    (hr : before.resolve directory path = .ok location) :
    after.resolve directory path = .ok location := by
  obtain ⟨hne, hf⟩ := resolve_eq_ok_iff.1 hr
  exact resolve_eq_ok_iff.2 ⟨hne, h.follow hl hf⟩

theorem at?_eq_some_iff {node : FileNode} :
    tree.at? directory path = some node ↔
      ∃ location, tree.resolve directory path = .ok location ∧ tree.node? location = some node := by
  rw [at?]
  cases tree.resolve directory path <;> simp

theorem isDirectory_iff :
    tree.isDirectory directory path = true ↔
      ∃ location, tree.resolve directory path = .ok location ∧ tree.hasDirectory location = true := by
  rw [isDirectory, at?]
  cases tree.resolve directory path <;> simp [FileTree.hasDirectory]

theorem GrowsTo.isDirectory (h : before.GrowsTo after) (hl : before.Lawful)
    (hd : before.isDirectory directory path = true) : after.isDirectory directory path = true := by
  obtain ⟨location, hr, hd⟩ := isDirectory_iff.1 hd
  exact isDirectory_iff.2 ⟨location, h.resolve hl hr, h.hasDirectory hd⟩

/-! ## Following paths back -/

/-- Whether no step up of a path begins in a directory of `after` that is none of `before`. -/
def ClimbsAlike (before after : FileTree) (directory : Location) (path : Path) : Prop :=
  ∀ front back, path.components = front ++ .parent :: back →
    after.hasDirectory (front.foldl Path.Component.from directory) = true →
      before.hasDirectory (front.foldl Path.Component.from directory) = true

/-- The pieces in front are the components in front, which lead to the same place. -/
theorem exists_of_front {front back : List String} (directory : Location)
    (h : splitText '/' path.text = front ++ back) :
    ∃ steps pieces, path.components = steps ++ Path.stepsOf pieces ∧ back = pieces.map String.ofList ∧
      steps.foldl Path.Component.from directory = front.foldl Path.turn (start directory path) := by
  obtain ⟨before, after, hsplit, rfl, rfl⟩ := List.map_eq_append_iff.1 h
  refine ⟨(Path.lead path.text.toList).1.toList ++ Path.stepsOf before, after, ?_, rfl, ?_⟩
  · rw [Path.components_eq_stepsOf, hsplit, Path.stepsOf_append, List.append_assoc]
  · rw [List.foldl_append, Path.foldl_lead, Path.foldl_turn]

/-- A piece that steps up is a component, and where it begins is where the components in front lead. -/
theorem exists_of_pieces {front back : List String} (directory : Location)
    (h : splitText '/' path.text = front ++ ".." :: back) :
    ∃ steps rest, path.components = steps ++ .parent :: rest ∧
      steps.foldl Path.Component.from directory = front.foldl Path.turn (start directory path) := by
  obtain ⟨steps, pieces, hsteps, hback, hplace⟩ := exists_of_front directory h
  obtain ⟨piece, after, rfl, hpiece, rfl⟩ := List.map_eq_cons_iff.1 hback.symm
  have hdots : piece = ['.', '.'] := by
    rw [← String.toList_ofList (l := piece), hpiece]
    rfl
  subst hdots
  exact ⟨steps, Path.stepsOf after, hsteps, hplace⟩

/-- **A path that leads in the larger tree to what stood before led there.** -/
theorem GrowsTo.follow_back (h : before.GrowsTo after) (hl : before.Lawful) {pieces : List String}
    (hs : (before.node? location).isSome = true) (hf : after.follow here pieces = .ok location)
    (hup : ∀ front back, pieces = front ++ ".." :: back →
      after.hasDirectory (front.foldl Path.turn here) = true →
        before.hasDirectory (front.foldl Path.turn here) = true) :
    before.follow here pieces = .ok location ∧ (before.node? here).isSome = true := by
  induction pieces generalizing here with
  | nil =>
    cases hf
    exact ⟨rfl, hs⟩
  | cons piece pieces ih =>
    obtain ⟨next, hstep, hrest⟩ := follow_cons_eq_ok_iff.1 hf
    obtain ⟨hd, hc, hturn, -⟩ := (h.lawful hl).step_eq_ok_iff.1 hstep
    obtain ⟨hfollow, hnext⟩ := ih hrest fun front back he => by
      rw [hturn]
      exact hup (piece :: front) back (by rw [he]; rfl)
    have hhere : before.hasDirectory here = true := by
      by_cases hidle : piece = "" ∨ piece = "."
      · rw [hturn, Path.turn, if_pos hidle] at hnext
        exact h.hasDirectory_of_isSome hnext hd
      · by_cases hdots : piece = ".."
        · exact hup [] pieces (by rw [hdots]; rfl) hd
        · rw [hturn, Path.turn, if_neg hidle, if_neg hdots] at hnext
          exact hl.hasDirectory_of_isSome (List.cons_ne_nil _ _) hnext
    rw [h.isClosed_eq hhere] at hc
    have hbefore := hl.step_eq_ok_iff.2 ⟨hhere, hc, hturn, hnext⟩
    exact ⟨follow_cons_eq_ok_iff.2 ⟨next, hbefore, hfollow⟩, isSome_of_hasDirectory hhere⟩

theorem GrowsTo.resolve_back (h : before.GrowsTo after) (hl : before.Lawful)
    (hc : before.ClimbsAlike after directory path) (hs : (before.node? location).isSome = true)
    (hr : after.resolve directory path = .ok location) :
    before.resolve directory path = .ok location := by
  obtain ⟨hne, hf⟩ := resolve_eq_ok_iff.1 hr
  refine resolve_eq_ok_iff.2 ⟨hne, (h.follow_back hl hs hf fun front back he => ?_).1⟩
  obtain ⟨steps, rest, hsteps, hplace⟩ := exists_of_pieces directory he
  rw [← hplace]
  exact hc steps rest hsteps

/-! ## Following paths through old directories -/

/-- **A step from an old directory** is the same in a larger tree, or it leads to where nothing stood. -/
theorem GrowsTo.step_cases (h : before.GrowsTo after) (hd : before.hasDirectory here = true)
    (piece : String) :
    after.step here piece = before.step here piece ∨
      before.step here piece = .error .notFound ∧ before.node? (here ++ [piece]) = none ∧
        after.step here piece = .ok (here ++ [piece]) ∧ Path.turn here piece = here ++ [piece] := by
  unfold FileTree.step
  rw [hd, h.hasDirectory hd, h.isClosed_eq hd]
  by_cases hempty : piece = ""
  · simp [hempty]
  · by_cases hclosed : before.isClosed here = true
    · simp [hempty, hclosed]
    · by_cases hdot : piece = "."
      · simp [hdot, hclosed]
      · by_cases hdots : piece = ".."
        · simp [hdots, hclosed]
        · cases hb : before.node? (here ++ [piece]) with
          | some node =>
            have ha : (after.node? (here ++ [piece])).isSome = true := h.isSome (by rw [hb]; rfl)
            simp [hempty, hclosed, hdot, hdots, ha]
          | none =>
            cases ha : after.node? (here ++ [piece]) with
            | none => simp [hempty, hclosed, hdot, hdots]
            | some node => simp [hempty, hclosed, hdot, hdots, Path.turn]

theorem GrowsTo.follow_cases (h : before.GrowsTo after) (hl : before.Lawful) {pieces : List String}
    (hway : ∀ front piece back, pieces = front ++ piece :: back →
      before.hasDirectory (front.foldl Path.turn here) = true) :
    after.follow here pieces = before.follow here pieces ∨
      before.follow here pieces = .error .notFound ∧
        ∃ location, before.node? location = none ∧ after.follow here pieces = .ok location := by
  induction pieces generalizing here with
  | nil => exact .inl rfl
  | cons piece rest ih =>
    have hd : before.hasDirectory here = true := hway [] piece rest rfl
    rcases h.step_cases hd piece with heq | ⟨hb, hnone, ha, hturn⟩
    · rw [FileTree.follow, FileTree.follow, heq]
      cases hs : before.step here piece with
      | error fault => exact .inl rfl
      | ok next =>
        obtain rfl := (hl.step_eq_ok_iff.1 hs).2.2.1
        exact ih fun front other back he => hway (piece :: front) other back (by rw [he]; rfl)
    · cases rest with
      | nil => exact .inr ⟨by simp [FileTree.follow, hb], here ++ [piece], hnone, by simp [FileTree.follow, ha]⟩
      | cons second others =>
        have hnext : before.hasDirectory (Path.turn here piece) = true := hway [piece] second others rfl
        rw [hturn, FileTree.hasDirectory, hnone] at hnext
        cases hnext

/-- **A name behind a path that leads through old directories** is found as before, or nothing stood there. -/
theorem GrowsTo.resolve_join_cases (h : before.GrowsTo after) (hl : before.Lawful) {up : Path}
    {name : String} (hp : Path.Plain name.toList)
    (hway : ∀ front back, up.components = front ++ back →
      before.hasDirectory (front.foldl Path.Component.from directory) = true) :
    after.resolve directory (up.join ⟨name⟩) = before.resolve directory (up.join ⟨name⟩) ∨
      before.resolve directory (up.join ⟨name⟩) = .error .notFound ∧
        ∃ location, before.node? location = none ∧
          after.resolve directory (up.join ⟨name⟩) = .ok location := by
  have hne := Path.join_name_ne_empty up hp
  obtain ⟨init, hpieces, -⟩ := Path.exists_pieces_join up hp
  unfold FileTree.resolve
  rw [if_neg (by simp [hne]), if_neg (by simp [hne])]
  refine h.follow_cases hl fun front piece back he => ?_
  obtain ⟨steps, pieces, hsteps, hback, hplace⟩ := exists_of_front directory he
  have hlast : (pieces.map String.ofList).getLast? = some name := by
    rw [← hback, ← List.getLast?_append_cons front, ← he, hpieces, List.getLast?_concat]
  obtain ⟨others, hothers⟩ := Path.exists_stepsOf_of_getLast? hp hlast
  rw [Path.components_join_name up hp, hothers, ← List.append_assoc] at hsteps
  rw [← hplace]
  exact hway steps others (List.append_inj' hsteps rfl).1

/-! ## Inputs -/

theorem exists_of_fileName {name : String} (h : path.fileName = some name) (directory : Location) :
    ∃ front, locationOf directory path = front ++ [name] := by
  obtain ⟨front, hfront⟩ := Path.components_of_fileName h
  refine ⟨front.foldl Path.Component.from directory, ?_⟩
  rw [Path.locationOf_eq_foldl, hfront, List.foldl_append]
  rfl

section Inputs

variable {name : String} {content : FileContent} (hn : path.fileName = some name)
  (hi : isInputName name = true)

include hn hi

/-- Where the path of an input leads stands the same file in a larger tree. -/
theorem GrowsTo.input_of_resolve (h : before.GrowsTo after) {tree : FileTree}
    (hr : tree.resolve directory path = .ok location) :
    after.node? location = some (.file content) ↔ before.node? location = some (.file content) := by
  obtain ⟨front, hfront⟩ := exists_of_fileName hn directory
  rw [eq_of_resolve hr, hfront]
  exact h.input front name hi content

theorem GrowsTo.at?_of_before (h : before.GrowsTo after) (hl : before.Lawful)
    (ha : before.at? directory path = some (.file content)) :
    after.at? directory path = some (.file content) := by
  obtain ⟨location, hr, hfile⟩ := at?_eq_some_iff.1 ha
  exact at?_eq_some_iff.2 ⟨location, h.resolve hl hr, (h.input_of_resolve hn hi hr).2 hfile⟩

/-- **A path leads to the file of an input in the larger tree exactly if it did before.** -/
theorem GrowsTo.at?_input (h : before.GrowsTo after) (hl : before.Lawful)
    (hc : before.ClimbsAlike after directory path) :
    after.at? directory path = some (.file content) ↔
      before.at? directory path = some (.file content) := by
  refine ⟨fun ha => ?_, h.at?_of_before hn hi hl⟩
  obtain ⟨location, hr, hfile⟩ := at?_eq_some_iff.1 ha
  have hbefore := (h.input_of_resolve hn hi hr).1 hfile
  have hstood : (before.node? location).isSome = true := by
    rw [hbefore]
    rfl
  exact at?_eq_some_iff.2 ⟨location, h.resolve_back hl hc hstood hr, hbefore⟩

end Inputs

theorem readText_eq_ok_iff {text : String} :
    tree.readText directory path = .ok text ↔
      tree.at? directory path = some (.file (.text text)) := by
  rw [readText, at?]
  cases tree.resolve directory path with
  | error fault => simp
  | ok location =>
    simp only
    generalize tree.node? location = node?
    rcases node? with - | - | - | content
    · simp
    · simp
    · simp
    · cases content <;> simp

theorem isFile_iff :
    tree.isFile directory path = true ↔
      ∃ content, tree.at? directory path = some (.file content) := by
  rw [isFile]
  generalize tree.at? directory path = node?
  rcases node? with - | - | - | content
  · simp
  · simp [FileNode.isDirectory]
  · simp [FileNode.isDirectory]
  · simp [FileNode.isDirectory]

/-! ## Index files -/

theorem isInputName_of_endsInIndexName {front : Location} {name : String}
    (h : endsInIndexName (front ++ [name]) = true) : isInputName name = true := by
  have hname : SymbolIndex.isIndexName (lossy name) = true := by simpa [endsInIndexName] using h
  simp [isInputName, hname]

/-- The index files below a directory are the same in a larger tree. -/
theorem GrowsTo.indexFilesBelow_eq (h : before.GrowsTo after) (hl : before.Lawful) :
    after.indexFilesBelow location = before.indexFilesBelow location := by
  refine indexFilesBelow_congr fun names content hname => ?_
  rw [(h.lawful hl).node?_eq_iff, hl.node?_eq_iff]
  refine and_congr_right fun _ => ?_
  rcases List.eq_nil_or_concat names with rfl | ⟨front, name, rfl⟩
  · cases hname
  · rw [List.concat_eq_append] at hname ⊢
    rw [← List.append_assoc]
    exact h.input _ name (isInputName_of_endsInIndexName hname) content

theorem GrowsTo.closedBelow?_eq_none (h : before.GrowsTo after) (hl : before.Lawful)
    (ho : before.closedBelow? location = none) : after.closedBelow? location = none := by
  rw [closedBelow?_eq_none_iff] at ho ⊢
  intro names hm
  obtain ⟨hne, hnode⟩ := (h.lawful hl).node?_eq_iff.1 hm
  exact ho names (hl.node?_eq_iff.2 ⟨hne, h.closed _ hnode⟩)

/-! ## Changes -/

/-- **A directory lets a tree grow where nothing stood, and a file where no directory stood, if its name
is that of no input.** -/
theorem growsTo_put {front : Location} {name : String} {node : FileNode}
    (hd : tree.hasDirectory front = true) (hp : Path.Plain name.toList)
    (hnode : node = .directory ∧ tree.node? (front ++ [name]) = none ∨
      (∃ content, node = .file content) ∧ tree.hasDirectory (front ++ [name]) = false ∧
        isInputName name = false) :
    tree.GrowsTo (tree.put (front ++ [name]) node) := by
  have hne : front ++ [name] ≠ [] := List.append_ne_nil_of_right_ne_nil _ (List.cons_ne_nil _ _)
  have hfree : tree.hasDirectory (front ++ [name]) = false := by
    rcases hnode with ⟨-, hnone⟩ | ⟨-, hfree, -⟩
    · rw [FileTree.hasDirectory, hnone]
      rfl
    · exact hfree
  refine ⟨fun hl => hl.put hd name node hp (.inr hfree), fun place hplace => ?_,
    fun place content hplace => ?_, fun place hplace => ?_, fun parent last hlast content => ?_⟩
  · refine node?_put_of_ne tree (fun he => ?_) node
    rw [he, hfree] at hplace
    cases hplace
  · by_cases he : place = front ++ [name]
    · subst he
      rw [node?_put_self tree hne]
      rcases hnode with ⟨-, hnone⟩ | ⟨⟨other, rfl⟩, -⟩
      · rw [hnone] at hplace
        cases hplace
      · exact ⟨other, rfl⟩
    · rw [node?_put_of_ne tree he]
      exact ⟨content, hplace⟩
  · by_cases he : place = front ++ [name]
    · subst he
      rw [node?_put_self tree hne] at hplace
      cases hplace
      rcases hnode with ⟨hclosed, -⟩ | ⟨⟨other, hclosed⟩, -⟩ <;> cases hclosed
    · rwa [node?_put_of_ne tree he] at hplace
  · by_cases he : parent ++ [last] = front ++ [name]
    · obtain ⟨rfl, hname⟩ := List.append_inj' he rfl
      cases hname
      rw [node?_put_self tree hne]
      rcases hnode with ⟨rfl, hnone⟩ | ⟨-, -, hinput⟩
      · simp [hnone]
      · rw [hinput] at hlast
        cases hlast
    · rw [node?_put_of_ne tree he]

theorem growsTo_of_directoryPlace (h : tree.directoryPlace directory path = .ok location) :
    tree.GrowsTo (tree.put location .directory) := by
  obtain ⟨-, front, last, slash, found, hs, he, hdots, hn, rfl⟩ := directoryPlace_eq_ok_iff.1 h
  exact growsTo_put (enter_eq_ok_iff.1 he).2.1 (plain_of_splitLast hs hdots) (.inl ⟨rfl, hn⟩)

theorem growsTo_makeChain (directory : Location) (paths : List Path) :
    Leads GrowsTo (makeChain directory paths) :=
  leads_makeChain .refl (fun _ _ _ => .trans) (fun _ _ _ => growsTo_of_directoryPlace) paths

/-- **Making directories lets a tree grow.** -/
theorem growsTo_makeDirectories (directory : Location) (path : Path) :
    Leads GrowsTo (makeDirectories directory path) :=
  growsTo_makeChain directory path.ancestors

/-- **Writing a text at a place of no input lets a tree grow.** -/
theorem growsTo_writeText {text : String}
    (h : ∀ front name, locationOf directory path = front ++ [name] → isInputName name = false) :
    Leads GrowsTo (writeText directory path text) := by
  intro tree
  cases hp : tree.textPlace directory path with
  | error fault =>
    rw [writeText_of_refused hp]
    exact .refl tree
  | ok location =>
    have hget : (get : Change FileTree).run.run tree = (.ok tree, tree) := rfl
    have hlocation := eq_of_textPlace hp
    obtain ⟨-, front, last, found, hs, he, hdots, hfree, rfl⟩ := textPlace_eq_ok_iff.1 hp
    rw [writeText, run_bind_of_ok hget, hp]
    exact growsTo_put (enter_eq_ok_iff.1 he).2.1 (plain_of_splitLast hs hdots)
      (.inr ⟨⟨.text text, rfl⟩, hfree, h found last hlocation.symm⟩)

end FileTree

/-! ## Workspaces -/

/-- How a workspace grows beside the inputs of a run. -/
structure Workspace.GrowsTo (before after : Workspace) : Prop where
  directory : after.directory = before.directory
  environment : after.environment = before.environment
  files : before.files.GrowsTo after.files

namespace Workspace

variable {before between after : Workspace}

theorem GrowsTo.refl (workspace : Workspace) : workspace.GrowsTo workspace := ⟨rfl, rfl, .refl _⟩

theorem GrowsTo.trans (hf : before.GrowsTo between) (hs : between.GrowsTo after) :
    before.GrowsTo after :=
  ⟨hs.directory.trans hf.directory, hs.environment.trans hf.environment, hf.files.trans hs.files⟩

end Workspace

end ConverterBuilders
