import ConverterBuilders.Proofs.DiskRun
import ConverterBuilders.Proofs.MapEntries
import Mathlib.Data.List.Induction

/-!
# The index files of a directory

In a tree like that of a disk, everything has a plain name and stands in a directory.  There a walk below
a directory meets each index file under a path that leads back to it, so that loading the directory comes
to inserting what its index files hold, one after the other.  No other file has a part in it.

Main statements:

* `resolve_walkedPath`: the path of a walk leads to what the walk has met;
* `load_directory`: loading a directory inserts what its index files hold;
* `load_congr`: files that are no index files do not change what is loaded.
-/

namespace ConverterBuilders

open Text

/-! ## Paths with one more name -/

namespace Path

instance (cs : List Char) : Decidable (Plain cs) :=
  decidable_of_iff (cs ≠ [] ∧ cs ≠ ['.'] ∧ cs ≠ ['.', '.'] ∧ '/' ∉ cs)
    ⟨fun h => ⟨h.1, h.2.1, h.2.2.1, h.2.2.2⟩, fun h => ⟨h.ne_nil, h.ne_dot, h.ne_dots, h.no_slash⟩⟩

/-- The text of a path with one more name: a slash stands in front of the name, if there is a path. -/
theorem exists_of_join_name (base : Path) {name : String} (h : Plain name.toList) :
    base.text = "" ∧ base.join ⟨name⟩ = ⟨name⟩ ∨
      ∃ front, (base.text.toList = front ∧ front ≠ [] ∨ base.text.toList = front ++ ['/']) ∧
        (base.join ⟨name⟩).text.toList = front ++ '/' :: name.toList := by
  have hrelative : (Path.mk name).isAbsolute = false := not_isAbsolute_of_none h.lead
  unfold join
  rw [hrelative]
  by_cases hb : base.text.toList = []
  · have hempty : base.text = "" := String.toList_eq_nil_iff.1 hb
    refine .inl ⟨hempty, ?_⟩
    simp [hempty]
  · obtain ⟨front, last, hl⟩ := (List.eq_nil_or_concat base.text.toList).resolve_left hb
    rw [List.concat_eq_append] at hl
    by_cases hs : last = '/'
    · subst hs
      refine .inr ⟨front, .inr hl, ?_⟩
      simp [hl, String.toList_append]
    · refine .inr ⟨base.text.toList, .inl ⟨rfl, hb⟩, ?_⟩
      simp [hl, hs, String.toList_append]

theorem join_name_ne_empty (base : Path) {name : String} (h : Plain name.toList) :
    (base.join ⟨name⟩).text ≠ "" := by
  rw [Ne, ← String.toList_eq_nil_iff]
  rcases exists_of_join_name base h with ⟨-, hj⟩ | ⟨front, -, hj⟩
  · rw [hj]
    exact h.ne_nil
  · simp [hj]

/-- The last piece of a path with one more name is that name.  The pieces in front are those of the path, the
empty one behind a slash apart. -/
theorem exists_pieces_join (base : Path) {name : String} (h : Plain name.toList) :
    ∃ front, splitText '/' (base.join ⟨name⟩).text = front ++ [name] ∧
      (base.text = "" ∨ splitText '/' base.text = front ∨ splitText '/' base.text = front ++ [""]) := by
  rcases exists_of_join_name base h with ⟨he, hj⟩ | ⟨front, hfront, hj⟩
  · refine ⟨[], ?_, .inl he⟩
    rw [hj, splitText, split_of_not_mem h.no_slash]
    simp
  · refine ⟨(split '/' front).map String.ofList, ?_, .inr ?_⟩
    · rw [splitText, hj, split_append, split_of_not_mem h.no_slash]
      simp
    · rcases hfront with ⟨he, -⟩ | he
      · exact .inl (by rw [splitText, he])
      · refine .inr ?_
        rw [splitText, he, split_append, List.map_append]
        rfl

/-- **The last component of a path with one more name is that name.** -/
theorem fileName_join (base : Path) {name : String} (h : Plain name.toList) :
    (base.join ⟨name⟩).fileName = some name := by
  have hidle : isIdle name.toList = false := by simp [isIdle, h.ne_nil, h.ne_dot]
  have hsplit : ∀ pieces, split '/' (lead (base.join ⟨name⟩).text.toList).2 =
      pieces ++ [name.toList] → (base.join ⟨name⟩).fileName = some name := by
    intro pieces hp
    have hback : backPieces (lead (base.join ⟨name⟩).text.toList).2 =
        name.toList :: pieces.reverse := by
      rw [backPieces, hp, List.reverse_append, List.reverse_singleton, List.singleton_append,
        List.dropWhile_cons_of_neg (by simp [hidle])]
    rw [fileName, hback]
    simp [h.ne_dots]
  rcases exists_of_join_name base h with ⟨-, hj⟩ | ⟨front, -, hj⟩
  · refine hsplit [] ?_
    rw [hj, lead_of_none h.lead, split_of_not_mem h.no_slash, List.nil_append]
  · by_cases hf : front = []
    · subst hf
      have hlead : (lead ([] ++ '/' :: name.toList)).2 = name.toList := rfl
      refine hsplit [] ?_
      rw [hj, hlead, split_of_not_mem h.no_slash, List.nil_append]
    · refine hsplit (split '/' (lead front).2) ?_
      rw [hj, lead_append hf, split_append, split_of_not_mem h.no_slash]

end Path

/-! ## Trees like those of a disk -/

namespace FileTree

variable {tree : FileTree} {directory here location : Location} {root : Path}

/-- Whether everything in a tree has a plain name and stands in a directory. -/
structure Lawful (tree : FileTree) : Prop where
  plain : ∀ entry ∈ tree.nodes.entries, ∀ name ∈ entry.1, Path.Plain name.toList
  placed : ∀ entry ∈ tree.nodes.entries, ∃ front name, entry.1 = front ++ [name] ∧
    tree.hasDirectory front = true

theorem Lawful.ne_nil (h : tree.Lawful) {entry : Location × FileNode}
    (he : entry ∈ tree.nodes.entries) : entry.1 ≠ [] := by
  obtain ⟨front, name, hn, -⟩ := h.placed entry he
  rw [hn]
  exact List.append_ne_nil_of_right_ne_nil _ (List.cons_ne_nil _ _)

/-- The root apart, what stands at a location is an entry. -/
theorem mem_entries_of_node? {node : FileNode} (hne : location ≠ [])
    (h : tree.node? location = some node) : (location, node) ∈ tree.nodes.entries := by
  rw [node?, if_neg hne] at h
  exact (OrderedMap.get?_eq_some_iff _).1 h

theorem Lawful.node?_eq_iff (h : tree.Lawful) {node : FileNode} :
    (location, node) ∈ tree.nodes.entries ↔ location ≠ [] ∧ tree.node? location = some node := by
  constructor
  · intro hm
    have hne := h.ne_nil hm
    refine ⟨hne, ?_⟩
    rw [node?, if_neg hne]
    exact (OrderedMap.get?_eq_some_iff _).2 hm
  · rintro ⟨hne, hn⟩
    exact mem_entries_of_node? hne hn

theorem lawful_empty : FileTree.empty.Lawful := ⟨nofun, nofun⟩

/-- Directories have plain names on the way to them. -/
theorem Lawful.plain_of_hasDirectory (h : tree.Lawful) (hd : tree.hasDirectory location = true) :
    ∀ name ∈ location, Path.Plain name.toList := by
  by_cases hne : location = []
  · rw [hne]
    exact fun _ hm => absurd hm List.not_mem_nil
  · obtain ⟨node, hn, -⟩ := (Option.any_eq_true ..).1 hd
    exact h.plain _ (mem_entries_of_node? hne hn)

/-- **What is put under a plain name into a directory leaves a tree lawful, unless a file takes the place
of a directory.** -/
theorem Lawful.put (h : tree.Lawful) (hd : tree.hasDirectory location = true) (name : String)
    (node : FileNode) (hp : Path.Plain name.toList)
    (hn : node.isDirectory = true ∨ tree.hasDirectory (location ++ [name]) = false) :
    (tree.put (location ++ [name]) node).Lawful := by
  have hne : location ++ [name] ≠ [] :=
    List.append_ne_nil_of_right_ne_nil _ (List.cons_ne_nil _ _)
  have hkept : ∀ place, tree.hasDirectory place = true →
      (tree.put (location ++ [name]) node).hasDirectory place = true := by
    intro place hplace
    by_cases he : place = location ++ [name]
    · rw [he] at hplace ⊢
      rw [hasDirectory, node?_put_self tree hne]
      exact hn.resolve_right (by simp [hplace])
    · rw [hasDirectory, node?_put_of_ne tree he]
      exact hplace
  have hlocation := h.plain_of_hasDirectory hd
  constructor
  · intro entry hm other ho
    rcases OrderedMap.mem_insertEntry hm with rfl | hm
    · rcases List.mem_append.1 ho with ho | ho
      · exact hlocation other ho
      · rw [List.mem_singleton.1 ho]
        exact hp
    · exact h.plain entry hm other ho
  · intro entry hm
    rcases OrderedMap.mem_insertEntry hm with rfl | hm
    · exact ⟨location, name, rfl, hkept location hd⟩
    · obtain ⟨front, last, he, hfront⟩ := h.placed entry hm
      exact ⟨front, last, he, hkept front hfront⟩

/-- All on the way to what stands in a tree are directories. -/
theorem Lawful.hasDirectory_of_append (h : tree.Lawful) {front back : Location} (hne : back ≠ [])
    {node : FileNode} (hn : (front ++ back, node) ∈ tree.nodes.entries) :
    tree.hasDirectory front = true := by
  -- the names behind are taken away from the last to the first
  induction back using List.reverseRecOn generalizing node with
  | nil => exact absurd rfl hne
  | append_singleton back last ih =>
    obtain ⟨parent, name, he, hd⟩ := h.placed _ hn
    rw [← List.append_assoc] at he
    obtain ⟨rfl, -⟩ := List.append_inj' he rfl
    cases back with
    | nil => rwa [List.append_nil] at hd
    | cons first rest =>
      obtain ⟨found, hf, -⟩ := (Option.any_eq_true ..).1 hd
      have hroot : front ++ first :: rest ≠ [] :=
        List.append_ne_nil_of_right_ne_nil _ (List.cons_ne_nil _ _)
      exact ih (List.cons_ne_nil _ _) (mem_entries_of_node? hroot hf)

/-! ## Following the path of a walk -/

theorem step_of_directory (hd : tree.node? here = some .directory) {name : String}
    (hp : Path.Plain name.toList) (hn : (tree.node? (here ++ [name])).isSome = true) :
    tree.step here name = .ok (here ++ [name]) := by
  have hdirectory : tree.hasDirectory here = true := by simp [hasDirectory, hd, FileNode.isDirectory]
  have hclosed : tree.isClosed here = false := by simp [isClosed, hd]
  have hempty : name ≠ "" := fun he => hp.ne_nil (by rw [he]; rfl)
  have hdot : name ≠ "." := fun he => hp.ne_dot (by rw [he]; rfl)
  have hdots : name ≠ ".." := fun he => hp.ne_dots (by rw [he]; rfl)
  simp [step, hdirectory, hclosed, hempty, hdot, hdots, hn]

theorem follow_append {front back : List String} :
    tree.follow here (front ++ back) =
      match tree.follow here front with
      | .ok next => tree.follow next back
      | .error fault => .error fault := by
  induction front generalizing here with
  | nil => rfl
  | cons piece front ih =>
    rw [List.cons_append, follow, follow]
    cases tree.step here piece with
    | ok next => exact ih
    | error fault => rfl

/-- A name behind a path does not change where the path begins. -/
theorem start_join (directory : Location) {name : String} (hp : Path.Plain name.toList)
    (hne : root.text ≠ "") : start directory (root.join ⟨name⟩) = start directory root := by
  obtain ⟨front, hfront, hjoin⟩ := (Path.exists_of_join_name root hp).resolve_left fun h => hne h.1
  have hhead : (root.join ⟨name⟩).text.toList.head? = root.text.toList.head? := by
    rcases hfront with ⟨he, hf⟩ | he
    · rw [hjoin, he, List.head?_append_of_ne_nil _ hf]
    · rw [hjoin, he]
      cases front <;> rfl
  rw [start, start, Path.isAbsolute, Path.isAbsolute, hhead]

/-- An empty piece at the end leads nowhere else. -/
theorem follow_of_empty {pieces : List String} {location : Location}
    (h : tree.follow here (pieces ++ [""]) = .ok location) : tree.follow here pieces = .ok location := by
  rw [follow_append] at h
  cases hf : tree.follow here pieces with
  | error fault =>
    rw [hf] at h
    cases h
  | ok next =>
    simp only [hf, follow, step] at h
    cases hdirectory : tree.hasDirectory next with
    | false => simp [hdirectory] at h
    | true => simpa [hdirectory] using h

/-- **A path with one more name leads one step further.** -/
theorem resolve_join (hr : tree.resolve directory root = .ok here)
    (hd : tree.node? here = some .directory) {name : String} (hp : Path.Plain name.toList)
    (hn : (tree.node? (here ++ [name])).isSome = true) :
    tree.resolve directory (root.join ⟨name⟩) = .ok (here ++ [name]) := by
  have hne : root.text ≠ "" := by
    intro he
    simp [resolve, he] at hr
  have hjoined := Path.join_name_ne_empty root hp
  rw [resolve, if_neg (by simpa using hne)] at hr
  obtain ⟨front, hpieces, hfront⟩ := Path.exists_pieces_join root hp
  have hfollow : tree.follow (start directory root) front = .ok here := by
    rcases hfront.resolve_left hne with he | he
    · rwa [he] at hr
    · rw [he] at hr
      exact follow_of_empty hr
  rw [resolve, if_neg (by simpa using hjoined), start_join directory hp hne, hpieces, follow_append, hfollow]
  simp only [follow, step_of_directory hd hp hn]

theorem closedBelow?_eq_none_iff : tree.closedBelow? location = none ↔
    ∀ names, (location ++ names, FileNode.closed) ∉ tree.nodes.entries := by
  rw [closedBelow?, List.head?_eq_none_iff, ← List.length_eq_zero_iff, List.length_mergeSort,
    List.length_eq_zero_iff, List.filterMap_eq_nil_iff]
  constructor
  · intro h names hm
    have hentry := h _ hm
    simp at hentry
  · rintro h ⟨place, node⟩ hm
    cases node with
    | directory => rfl
    | file content => rfl
    | closed =>
      by_cases hf : location.isPrefixOf place = true
      · obtain ⟨names, rfl⟩ := List.isPrefixOf_iff_prefix.1 hf
        exact absurd hm (h names)
      · exact if_neg hf

/-- What is a directory and not closed below a location that a walk may list. -/
theorem node?_eq_directory (ho : tree.closedBelow? here = none) {names : Location}
    (hd : tree.hasDirectory (here ++ names) = true) :
    tree.node? (here ++ names) = some .directory := by
  obtain ⟨node, hn, hnode⟩ := (Option.any_eq_true ..).1 hd
  rw [hn]
  cases node with
  | directory => rfl
  | file content => cases hnode
  | closed =>
    have hne : here ++ names ≠ [] := by
      intro he
      rw [he] at hn
      cases hn
    exact absurd (mem_entries_of_node? hne hn) (closedBelow?_eq_none_iff.1 ho names)

theorem resolve_of_directories {names : Location} (hr : tree.resolve directory root = .ok here)
    (hp : ∀ name ∈ names, Path.Plain name.toList)
    (hd : ∀ front back, names = front ++ back → back ≠ [] →
      tree.node? (here ++ front) = some .directory)
    (hn : (tree.node? (here ++ names)).isSome = true) :
    tree.resolve directory (SymbolIndex.walkedPath root names) = .ok (here ++ names) := by
  induction names generalizing root here with
  | nil =>
    rw [List.append_nil]
    exact hr
  | cons name rest ih =>
    have hhere : tree.node? here = some .directory := by
      have hfirst := hd [] (name :: rest) rfl (List.cons_ne_nil _ _)
      rwa [List.append_nil] at hfirst
    have hnext : (tree.node? (here ++ [name])).isSome = true := by
      cases rest with
      | nil => exact hn
      | cons second rest =>
        rw [hd [name] (second :: rest) rfl (List.cons_ne_nil _ _)]
        rfl
    have hjoin := resolve_join hr hhere (hp name (List.mem_cons_self ..)) hnext
    have hrest := ih hjoin (fun other ho => hp other (List.mem_cons_of_mem _ ho))
      (fun front back he hb => by
        rw [List.append_assoc]
        exact hd (name :: front) back (by rw [he]; rfl) hb)
      (by rwa [List.append_assoc])
    rw [List.append_assoc] at hrest
    exact hrest

/-- **The path of a walk leads to what the walk has met.** -/
theorem Lawful.resolve_walkedPath (h : tree.Lawful) {names : Location} {content : FileContent}
    (hr : tree.resolve directory root = .ok here) (ho : tree.closedBelow? here = none)
    (hf : tree.HasFile (here ++ names) content) :
    tree.resolve directory (SymbolIndex.walkedPath root names) = .ok (here ++ names) := by
  have hm : (here ++ names, FileNode.file content) ∈ tree.nodes.entries :=
    (OrderedMap.get?_eq_some_iff _).1 hf
  have hplain : ∀ name ∈ names, Path.Plain name.toList := fun name hn =>
    h.plain _ hm name (List.mem_append_right _ hn)
  have hway : ∀ front back, names = front ++ back → back ≠ [] →
      tree.node? (here ++ front) = some .directory := by
    rintro front back rfl hb
    rw [← List.append_assoc] at hm
    exact node?_eq_directory ho (h.hasDirectory_of_append hb hm)
  have hstands : tree.node? (here ++ names) = some (.file content) := (h.node?_eq_iff.1 hm).2
  exact resolve_of_directories hr hplain hway (by rw [hstands]; rfl)

/-! ## Index files -/

/-- Whether the last of several names is shown as that of an index file. -/
def endsInIndexName (names : Location) : Bool :=
  names.getLast?.any fun name => SymbolIndex.isIndexName (lossy name)

def endsInText (names : Location) : Bool := names.getLast?.any isText

/-- The index files below a location in the order of a walk, with the names on the way there. -/
def indexFilesBelow (tree : FileTree) (location : Location) : List (Location × FileContent) :=
  ((tree.filesBelow location).filter fun file => endsInIndexName file.1).mergeSort
    fun a b => inWalkOrder a.1 b.1

theorem mem_indexFilesBelow {file : Location × FileContent} :
    file ∈ tree.indexFilesBelow location ↔
      file ∈ tree.filesBelow location ∧ endsInIndexName file.1 = true := by
  rw [indexFilesBelow, List.mem_mergeSort, List.mem_filter]

/-- Trees that share the index files below a location list the same there. -/
theorem indexFilesBelow_congr {left right : FileTree}
    (h : ∀ names content, endsInIndexName names = true →
      ((location ++ names, FileNode.file content) ∈ left.nodes.entries ↔
        (location ++ names, FileNode.file content) ∈ right.nodes.entries)) :
    left.indexFilesBelow location = right.indexFilesBelow location := by
  unfold indexFilesBelow
  congr 1
  rw [filesBelow_eq, filesBelow_eq, List.filter_filterMap, List.filter_filterMap]
  refine OrderedMap.filterMap_entries_congr _ fun entry hcounts => ?_
  obtain ⟨file, hfile⟩ := Option.isSome_iff_exists.1 hcounts
  obtain ⟨hbelow, hname⟩ := Option.filter_eq_some_iff.1 hfile
  rw [below_eq_some_iff] at hbelow
  rw [hbelow]
  exact h file.1 file.2 hname

end FileTree

namespace SymbolIndex

variable {workspace : Workspace} {root : Path} {location : Location}

def formatOf (names : Location) : Format :=
  if names.getLast?.any fun name => endsWith name ".symbols.toml" then .toml else .json

/-- Insert the declarations in a text, all or none. -/
def insertText (index : SymbolIndex) (origin : Path) (format : Format) (content : String) :
    Except Failure SymbolIndex :=
  match index.merge origin format content with
  | (merged, none) => .ok merged
  | (_, some failure) => .error failure

/-- Insert the declarations in a file that a walk has met.  A file whose name is no text is refused. -/
def insertFile (root : Path) (index : SymbolIndex) (file : Location × FileContent) :
    Except Failure SymbolIndex :=
  if FileTree.endsInText file.1 then
    match file.2 with
    | .text content => index.insertText (walkedPath root file.1) (formatOf file.1) content
    | .binary _ => .error (.file .notUnicode)
  else .error (.index (walkedPath root file.1) .unknownFormat)

/-- The name of an index file tells its format. -/
theorem ofName?_of_isIndexName {name : String} (h : isIndexName name = true) :
    Format.ofName? name = some (if endsWith name ".symbols.toml" then .toml else .json) := by
  have hends : ∀ whole ending : String, ending.toList <:+ whole.toList →
      endsWith name whole = true → endsWith name ending = true := by
    intro whole ending he hw
    exact List.isSuffixOf_iff_suffix.2 (he.trans (List.isSuffixOf_iff_suffix.1 hw))
  rw [Format.ofName?]
  by_cases ht : endsWith name ".symbols.toml" = true
  · have htoml : endsWith name ".toml" = true := hends ".symbols.toml" ".toml" (by decide) ht
    simp [ht, htoml]
  · have hj : endsWith name ".symbols.json" = true := by
      rw [isIndexName, Bool.or_eq_true] at h
      exact h.resolve_left ht
    have hjson : endsWith name ".json" = true := hends ".symbols.json" ".json" (by decide) hj
    have htoml : endsWith name ".toml" = false := by
      by_contra he
      have hsuffix := List.suffix_of_suffix_length_le
        (List.isSuffixOf_iff_suffix.1 (Bool.not_eq_false _ ▸ he))
        (List.isSuffixOf_iff_suffix.1 hj) (by decide)
      exact absurd hsuffix (by decide)
    simp [ht, htoml, hjson]

theorem ofPath?_walkedPath {names : Location} (hp : ∀ name ∈ names, Path.Plain name.toList)
    (hi : FileTree.endsInIndexName names = true) :
    Format.ofPath? (walkedPath root names) =
      if FileTree.endsInText names then some (formatOf names) else none := by
  rcases List.eq_nil_or_concat names with rfl | ⟨front, name, rfl⟩
  · cases hi
  · rw [List.concat_eq_append] at hp hi ⊢
    have hlast : (walkedPath root (front ++ [name])).fileName = some name := by
      rw [walkedPath, List.foldl_append]
      exact Path.fileName_join _ (hp name (by simp))
    have hformat : formatOf (front ++ [name]) =
        if endsWith name ".symbols.toml" then .toml else .json := by simp [formatOf]
    have hname : isIndexName (lossy name) = true := by simpa [FileTree.endsInIndexName] using hi
    have hends : FileTree.endsInText (front ++ [name]) = isText name := by simp [FileTree.endsInText]
    rw [hends, hformat, Format.ofPath?, hlast]
    cases htext : isText name with
    | false => simp [htext]
    | true =>
      rw [lossy_of_isText htext] at hname
      simp [htext, ofName?_of_isIndexName hname]

/-- Loading a file that a walk has met inserts what it holds. -/
theorem loadFile_walkedPath (h : workspace.files.Lawful)
    (hr : workspace.files.resolve workspace.directory root = .ok location)
    (ho : workspace.files.closedBelow? location = none) {file : Location × FileContent}
    (hf : file ∈ workspace.files.indexFilesBelow location) (index : SymbolIndex) :
    loadFile workspace index (walkedPath root file.1) = insertFile root index file := by
  obtain ⟨hbelow, hname⟩ := FileTree.mem_indexFilesBelow.1 hf
  have hstands := FileTree.mem_filesBelow.1 hbelow
  have hm : (location ++ file.1, FileNode.file file.2) ∈ workspace.files.nodes.entries :=
    (OrderedMap.get?_eq_some_iff _).1 hstands
  have hplain : ∀ name ∈ file.1, Path.Plain name.toList := fun name hn =>
    h.plain _ hm name (List.mem_append_right _ hn)
  have hformat : Format.ofPath? (walkedPath root file.1) =
      if FileTree.endsInText file.1 then some (formatOf file.1) else none :=
    ofPath?_walkedPath hplain hname
  have hread : workspace.readText (walkedPath root file.1) =
      match file.2 with
      | .text content => .ok content
      | .binary _ => .error (.file .notUnicode) := by
    rw [Workspace.readText, FileTree.readText, h.resolve_walkedPath hr ho hstands]
    simp only [(h.node?_eq_iff.1 hm).2]
    cases file.2 <;> rfl
  rw [loadFile, hformat, insertFile]
  cases htext : FileTree.endsInText file.1 with
  | false => rfl
  | true =>
    simp only [hread]
    cases file.2 with
    | text content => rfl
    | binary bytes => rfl

/-- Below a directory a walk picks the index files. -/
theorem indexFiles_eq (h : workspace.files.Lawful)
    (hr : workspace.files.resolve workspace.directory root = .ok location)
    (hd : workspace.files.hasDirectory location = true)
    (ho : workspace.files.closedBelow? location = none) :
    indexFiles workspace root =
      .ok ((workspace.files.indexFilesBelow location).map fun file => walkedPath root file.1) := by
  have hfilter : ((workspace.files.filesBelow location).filter fun file =>
      isIndexName (lossy (walkedName root file.1))) =
        (workspace.files.filesBelow location).filter fun file => FileTree.endsInIndexName file.1 := by
    refine List.filter_congr fun file hf => ?_
    rcases List.eq_nil_or_concat file.1 with he | ⟨front, name, he⟩
    · have hstands := FileTree.mem_filesBelow.1 hf
      rw [he, List.append_nil] at hstands
      have hnode := (h.node?_eq_iff.1 ((OrderedMap.get?_eq_some_iff _).1 hstands)).2
      rw [FileTree.hasDirectory, hnode] at hd
      cases hd
    · simp [he, walkedName, FileTree.endsInIndexName]
  simp only [indexFiles, hr, ho, hfilter, FileTree.indexFilesBelow]

/-- **Loading a directory inserts what its index files hold.** -/
theorem load_directory (h : workspace.files.Lawful)
    (hr : workspace.files.resolve workspace.directory root = .ok location)
    (hd : workspace.files.hasDirectory location = true)
    (ho : workspace.files.closedBelow? location = none) :
    load workspace root =
      (workspace.files.indexFilesBelow location).foldlM (insertFile root) empty := by
  have hat : workspace.files.at? workspace.directory root = workspace.files.node? location := by
    rw [FileTree.at?, hr]
  have hdirectory : workspace.isDirectory root = true := by
    rw [Workspace.isDirectory, FileTree.isDirectory, hat]
    exact hd
  have hexists : workspace.pathExists root = true := by
    rw [Workspace.pathExists, FileTree.pathExists, hat]
    obtain ⟨node, hn, -⟩ := (Option.any_eq_true ..).1 hd
    rw [hn]
    rfl
  rw [load, hexists, hdirectory, indexFiles_eq h hr hd ho]
  refine Eq.trans List.foldlM_map ?_
  exact foldlM_congr (fun index file hf => loadFile_walkedPath h hr ho hf index) empty

end SymbolIndex

/-! ## Other files -/

namespace FileTree

variable {before after : FileTree} {directory location : Location} {root : Path}

/-- Whether two trees differ at most in files below a location that are no index files. -/
def SameButOthers (location : Location) (before after : FileTree) : Prop :=
  ∀ place, before.node? place = after.node? place ∨
    (∃ names, place = location ++ names ∧ endsInIndexName names = false) ∧
      before.hasDirectory place = false ∧ after.hasDirectory place = false

theorem SameButOthers.node?_eq (h : SameButOthers location before after) {place : Location}
    (hd : before.hasDirectory place = true) : before.node? place = after.node? place := by
  refine (h place).resolve_right fun hor => ?_
  rw [hor.2.1] at hd
  cases hd

theorem hasDirectory_of_follow {tree : FileTree} {here : Location} {pieces : List String}
    (hf : tree.follow here pieces = .ok location) (hd : tree.hasDirectory location = true) :
    tree.hasDirectory here = true := by
  cases pieces with
  | nil =>
    cases hf
    exact hd
  | cons piece pieces =>
    by_contra hn
    rw [follow, step, if_pos (by simpa using hn)] at hf
    cases hf

theorem SameButOthers.step_eq (h : SameButOthers location before after) {here next : Location}
    {piece : String} (hs : before.step here piece = .ok next)
    (hd : before.hasDirectory here = true) (hn : before.node? next = after.node? next) :
    after.step here piece = .ok next := by
  have hdirectory : after.hasDirectory here = before.hasDirectory here := by
    rw [hasDirectory, hasDirectory, h.node?_eq hd]
  have hclosed : after.isClosed here = before.isClosed here := by
    rw [isClosed, isClosed, h.node?_eq hd]
  by_cases hp : next = here ++ [piece]
  · rw [hp] at hn
    rw [step, hdirectory, hclosed, ← hn, ← hp]
    rw [step, ← hp] at hs
    exact hs
  · unfold step at hs ⊢
    rw [hdirectory, hclosed]
    split_ifs at hs ⊢
    all_goals first
      | exact hs
      | exact absurd (Except.ok.inj hs).symm hp

/-- A directory is reached on the same way, which leads through directories only. -/
theorem SameButOthers.follow_eq (h : SameButOthers location before after) {here there : Location}
    {pieces : List String} (hf : before.follow here pieces = .ok there)
    (hd : before.hasDirectory there = true) : after.follow here pieces = .ok there := by
  induction pieces generalizing here with
  | nil => exact hf
  | cons piece pieces ih =>
    have hhere := hasDirectory_of_follow hf hd
    rw [follow] at hf
    cases hs : before.step here piece with
    | error fault =>
      rw [hs] at hf
      cases hf
    | ok next =>
      rw [hs] at hf
      have hnext := h.node?_eq (hasDirectory_of_follow hf hd)
      rw [follow, h.step_eq hs hhere hnext]
      exact ih hf

theorem SameButOthers.resolve_eq (h : SameButOthers location before after) {there : Location}
    (hr : before.resolve directory root = .ok there) (hd : before.hasDirectory there = true) :
    after.resolve directory root = .ok there := by
  unfold resolve at hr ⊢
  split at hr
  · cases hr
  · rename_i hne
    rw [if_neg hne]
    exact h.follow_eq hr hd

theorem SameButOthers.mem_iff (h : SameButOthers location before after) (hb : before.Lawful)
    (ha : after.Lawful) {place : Location} {node : FileNode}
    (hn : node.isDirectory = true ∨
      ∀ names, place = location ++ names → endsInIndexName names = true) :
    (place, node) ∈ before.nodes.entries ↔ (place, node) ∈ after.nodes.entries := by
  rw [hb.node?_eq_iff, ha.node?_eq_iff]
  refine and_congr_right fun _ => ?_
  rcases h place with he | ⟨⟨names, hplace, hname⟩, hbefore, hafter⟩
  · rw [he]
  · rcases hn with hn | hn
    · have hno : ∀ tree : FileTree, tree.hasDirectory place = false →
          tree.node? place ≠ some node := by
        intro tree hd hnode
        rw [hasDirectory, hnode, Option.any_some, hn] at hd
        cases hd
      exact iff_of_false (hno before hbefore) (hno after hafter)
    · rw [hn names hplace] at hname
      cases hname

/-- The index files are the same. -/
theorem SameButOthers.indexFilesBelow_eq (h : SameButOthers location before after)
    (hb : before.Lawful) (ha : after.Lawful) :
    before.indexFilesBelow location = after.indexFilesBelow location := by
  refine indexFilesBelow_congr fun names content hname => h.mem_iff hb ha (.inr fun other he => ?_)
  rw [← List.append_cancel_left he]
  exact hname

theorem SameButOthers.closedBelow?_eq_none (h : SameButOthers location before after)
    (hb : before.Lawful) (ha : after.Lawful) (ho : before.closedBelow? location = none) :
    after.closedBelow? location = none := by
  rw [closedBelow?_eq_none_iff] at ho ⊢
  intro names hm
  exact ho names ((h.mem_iff hb ha (.inl rfl)).2 hm)

end FileTree

/-- **Files that are no index files do not change what is loaded.** -/
theorem SymbolIndex.load_congr {workspace other : Workspace} {root : Path} {location : Location}
    (h : workspace.files.Lawful) (ho : other.files.Lawful)
    (hr : workspace.files.resolve workspace.directory root = .ok location)
    (hd : workspace.files.hasDirectory location = true)
    (hc : workspace.files.closedBelow? location = none)
    (hw : other.directory = workspace.directory)
    (hs : workspace.files.SameButOthers location other.files) :
    load other root = load workspace root := by
  have hother : other.files.hasDirectory location = true := by
    rw [FileTree.hasDirectory, ← hs.node?_eq hd]
    exact hd
  have hresolve : other.files.resolve other.directory root = .ok location := by
    rw [hw]
    exact hs.resolve_eq hr hd
  rw [load_directory ho hresolve hother (hs.closedBelow?_eq_none h ho hc), load_directory h hr hd hc,
    hs.indexFilesBelow_eq h ho]

end ConverterBuilders
