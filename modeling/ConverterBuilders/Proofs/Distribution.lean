import ConverterBuilders.Proofs.IndexFiles
import ConverterBuilders.Proofs.Insertion

/-!
# Declarations in any order and in any files

An index depends on which declarations it is made from, and not on how they come: as one list, in texts
that are merged one after the other, or in the index files of a directory.  Which declaration is blamed
if they are not acceptable does depend on it, but not whether one is.

Main statements:

* `Adds.foldlM`: a run over parts of declarations adds them as one list would be added;
* `Adds.perm`: neither success nor the index depends on the order;
* `load_distributed`: loading, merging and one list have the same success and the same index.
-/

namespace ConverterBuilders.SymbolIndex

/-- Whether declarations can make an index together: each is well placed, and no two have one name. -/
structure Acceptable (declarations : List Declaration) : Prop where
  placed : ∀ declaration ∈ declarations, declaration.WellPlaced
  distinct : (declarations.map Declaration.qualifiedName).Nodup

/-- A text with declarations: where it comes from, its format and its content. -/
structure IndexText where
  origin : Path
  format : Format
  content : String

/-- Merge texts one after the other, up to the first that is refused. -/
def mergeAll (index : SymbolIndex) (texts : List IndexText) : Except Failure SymbolIndex :=
  texts.foldlM (fun index text => index.insertText text.origin text.format text.content) index

def IndexText.Holds (text : IndexText) (declarations : List Declaration) : Prop :=
  declarationsOf text.format text.content = some declarations

/-- Whether a file that a walk has met holds declarations. -/
def FileHolds (file : Location × FileContent) (declarations : List Declaration) : Prop :=
  ∃ content, file.2 = .text content ∧ declarationsOf (formatOf file.1) content = some declarations

/-- What comes of adding declarations to an index: the index with all of them, or a failure if it cannot
take them. -/
inductive Adds (index : SymbolIndex) (declarations : List Declaration) :
    Except Failure SymbolIndex → Prop
  | all (htakes : index.Takes declarations) : Adds index declarations (.ok (index.adding declarations))
  | none (hrefuses : ¬ index.Takes declarations) (failure : Failure) :
    Adds index declarations (.error failure)

variable {index : SymbolIndex} {declarations : List Declaration}

/-! ## Parts of declarations -/

theorem adding_append (index : SymbolIndex) (front back : List Declaration) :
    index.adding (front ++ back) = (index.adding front).adding back := by
  simp [adding]

/-- What is wrong with a declaration behind others that were added. -/
theorem refuses_adding {earlier : List Declaration} {declaration : Declaration} {fault : IndexFault} :
    (index.adding declarations).Refuses earlier declaration fault ↔
      index.Refuses (declarations ++ earlier) declaration fault := by
  rw [← refusal?_adding, ← refusal?_adding, adding_append]

/-- **Declarations can be taken part by part.** -/
theorem takes_append {front back : List Declaration} :
    index.Takes (front ++ back) ↔ index.Takes front ∧ (index.adding front).Takes back := by
  constructor
  · intro h
    constructor
    · rintro earlier declaration later rfl
      exact h earlier declaration (later ++ back) (by simp)
    · rintro earlier declaration later rfl fault hrefuses
      exact h (front ++ earlier) declaration later (by simp) fault (refuses_adding.1 hrefuses)
  · rintro ⟨hfront, hback⟩ earlier declaration later hsplit fault hrefuses
    rcases List.append_eq_append_iff.1 hsplit with ⟨passed, rfl, hrest⟩ | ⟨passed, hfirst, hrest⟩
    · exact hback passed declaration later hrest fault (refuses_adding.2 hrefuses)
    · cases passed with
      | nil =>
        rw [List.append_nil] at hfirst
        subst hfirst
        rw [List.nil_append] at hrest
        refine hback [] declaration later hrest.symm fault (refuses_adding.2 ?_)
        rwa [List.append_nil]
      | cons first passed =>
        obtain ⟨rfl, -⟩ := List.cons_eq_cons.1 hrest
        exact hfront earlier declaration passed hfirst fault hrefuses

theorem adds_nil (index : SymbolIndex) : index.Adds [] (.ok index) := .all (takes_nil index)

/-- Adding a part and then the next. -/
theorem Adds.bind {front back : List Declaration} {outcome : Except Failure SymbolIndex}
    {next : SymbolIndex → Except Failure SymbolIndex} (h : index.Adds front outcome)
    (hn : (index.adding front).Adds back (next (index.adding front))) :
    index.Adds (front ++ back) (outcome >>= next) := by
  cases h with
  | all htakes =>
    have hbind : ((Except.ok (index.adding front) : Except Failure SymbolIndex) >>= next) =
        next (index.adding front) := rfl
    rw [hbind]
    generalize next (index.adding front) = outcome at hn
    cases hn with
    | all hback =>
      rw [← adding_append]
      exact .all (takes_append.2 ⟨htakes, hback⟩)
    | none hback failure => exact .none (fun h => hback (takes_append.1 h).2) failure
  | none hrefuses failure => exact .none (fun h => hrefuses (takes_append.1 h).1) failure

/-- **A run over parts of declarations adds them as one list.** -/
theorem Adds.foldlM {α : Type} {step : SymbolIndex → α → Except Failure SymbolIndex} {items : List α}
    {shares : List (List Declaration)}
    (h : List.Forall₂ (fun item share => ∀ index : SymbolIndex, index.Adds share (step index item))
      items shares) (index : SymbolIndex) :
    index.Adds shares.flatten (items.foldlM step index) := by
  induction h generalizing index with
  | nil => exact adds_nil index
  | cons hitem _ ih =>
    rw [List.foldlM_cons, List.flatten_cons]
    exact (hitem index).bind (ih _)

/-! ## The three ways to make an index -/

theorem adds_insertText {format : Format} {content : String}
    (h : declarationsOf format content = some declarations) (index : SymbolIndex) (origin : Path) :
    index.Adds declarations (index.insertText origin format content) := by
  have hinserts := inserts_insertAll origin index declarations
  rw [insertText, merge_of_readable h]
  generalize insertAll origin index declarations = outcome at hinserts
  cases hinserts with
  | all htakes => exact .all htakes
  | stopped hsplit _ hrefuses => exact .none (fun h => h _ _ _ hsplit _ hrefuses) _

theorem adds_ofDeclarations (declarations : List Declaration) :
    empty.Adds declarations (ofDeclarations declarations) := by
  have hinserts := inserts_insertAll memoryOrigin empty declarations
  rw [ofDeclarations]
  generalize insertAll memoryOrigin empty declarations = outcome at hinserts
  cases hinserts with
  | all htakes => exact .all htakes
  | stopped hsplit _ hrefuses => exact .none (fun h => h _ _ _ hsplit _ hrefuses) _

theorem adds_mergeAll {texts : List IndexText} {shares : List (List Declaration)}
    (h : List.Forall₂ IndexText.Holds texts shares) (index : SymbolIndex) :
    index.Adds shares.flatten (index.mergeAll texts) :=
  Adds.foldlM (h.imp fun text _ hholds index => adds_insertText hholds index text.origin) index

theorem adds_insertFiles {files : List (Location × FileContent)} {shares : List (List Declaration)}
    (h : List.Forall₂ FileHolds files shares)
    (hn : ∀ file ∈ files, FileTree.endsInText file.1 = true) (root : Path) (index : SymbolIndex) :
    index.Adds shares.flatten (files.foldlM (insertFile root) index) := by
  refine Adds.foldlM (((List.forall₂_and_left ..).2 ⟨hn, h⟩).imp fun file share hboth index => ?_) index
  obtain ⟨htext, content, hc, hd⟩ := hboth
  rw [insertFile, if_pos htext, hc]
  exact adds_insertText hd index _

/-! ## The order -/

theorem takes_empty_iff : empty.Takes declarations ↔ Acceptable declarations := by
  rw [takes_iff]
  constructor
  · rintro ⟨hplaced, hdistinct, -⟩
    exact ⟨hplaced, hdistinct⟩
  · intro h
    exact ⟨h.placed, h.distinct, fun _ _ => rfl⟩

theorem Acceptable.perm {others : List Declaration} (hp : declarations.Perm others) :
    Acceptable declarations ↔ Acceptable others := by
  have hnames := (hp.map Declaration.qualifiedName).nodup_iff
  constructor
  · intro h
    exact ⟨fun declaration hm => h.placed declaration (hp.mem_iff.2 hm), hnames.1 h.distinct⟩
  · intro h
    exact ⟨fun declaration hm => h.placed declaration (hp.mem_iff.1 hm), hnames.2 h.distinct⟩

theorem adding_empty (declarations : List Declaration) :
    empty.adding declarations = ⟨OrderedMap.ofList
      (declarations.map fun declaration => (declaration.qualifiedName, declaration))⟩ := by
  induction declarations using List.reverseRecOn with
  | nil => rfl
  | append_singleton front declaration ih =>
    rw [adding_concat, ih, List.map_append, OrderedMap.ofList, OrderedMap.ofList, List.foldl_append]
    rfl

/-- Declarations with different names make the same index in any order. -/
theorem adding_empty_perm {others : List Declaration} (h : Acceptable declarations)
    (hp : declarations.Perm others) : empty.adding declarations = empty.adding others := by
  rw [adding_empty, adding_empty]
  congr 1
  refine OrderedMap.ofList_congr ?_ fun entry => (hp.map _).mem_iff
  intro first hf second hs hname
  obtain ⟨a, ha, rfl⟩ := List.mem_map.1 hf
  obtain ⟨b, hb, rfl⟩ := List.mem_map.1 hs
  rw [List.inj_on_of_nodup_map h.distinct hb ha hname]

/-- **Neither success nor the index depends on the order.** -/
theorem Adds.perm {others : List Declaration} {outcome : Except Failure SymbolIndex}
    (h : empty.Adds declarations outcome) (hp : declarations.Perm others) :
    empty.Adds others outcome := by
  have htakes : empty.Takes declarations ↔ empty.Takes others := by
    rw [takes_empty_iff, takes_empty_iff, Acceptable.perm hp]
  cases h with
  | all hall =>
    rw [adding_empty_perm (takes_empty_iff.1 hall) hp]
    exact .all (htakes.1 hall)
  | none hrefuses failure => exact .none (fun h => hrefuses (htakes.2 h)) failure

theorem Adds.eq_ok {outcome : Except Failure SymbolIndex} (h : empty.Adds declarations outcome)
    (ha : Acceptable declarations) : outcome = .ok (empty.adding declarations) := by
  cases h with
  | all => rfl
  | none hrefuses => exact absurd (takes_empty_iff.2 ha) hrefuses

theorem Adds.exists_error {outcome : Except Failure SymbolIndex} (h : empty.Adds declarations outcome)
    (ha : ¬ Acceptable declarations) : ∃ failure, outcome = .error failure := by
  cases h with
  | all htakes => exact absurd (takes_empty_iff.1 htakes) ha
  | none _ failure => exact ⟨failure, rfl⟩

/-- **Declarations in any order and in any files.**  Let a path lead to a directory of a lawful tree below
which nothing is closed, let the index files there have texts for names and share out some declarations, and
let several texts share out the same ones, both in any order.  If the declarations are acceptable, then
loading the directory, merging the texts and the list itself give one and the same index; otherwise all three
fail.  And what is loaded stays the same, whatever it is, in any lawful tree that has the same index files
below the directory and is otherwise different in files below it only. -/
theorem load_distributed {workspace : Workspace} {root : Path} {location : Location}
    (hlawful : workspace.files.Lawful)
    (hresolve : workspace.files.resolve workspace.directory root = .ok location)
    (hdirectory : workspace.files.hasDirectory location = true)
    (hopen : workspace.files.closedBelow? location = none)
    (hnames : ∀ file ∈ workspace.files.indexFilesBelow location, FileTree.endsInText file.1 = true)
    {declarations : List Declaration} {shares parts : List (List Declaration)}
    (hfiles : List.Forall₂ FileHolds (workspace.files.indexFilesBelow location) shares)
    (hshares : shares.flatten.Perm declarations) {texts : List IndexText}
    (htexts : List.Forall₂ IndexText.Holds texts parts) (hparts : parts.flatten.Perm declarations) :
    (Acceptable declarations → ∃ index, load workspace root = .ok index ∧
      empty.mergeAll texts = .ok index ∧ ofDeclarations declarations = .ok index) ∧
    (¬ Acceptable declarations → (∃ failure, load workspace root = .error failure) ∧
      (∃ failure, empty.mergeAll texts = .error failure) ∧
      ∃ failure, ofDeclarations declarations = .error failure) ∧
    ∀ other : Workspace, other.files.Lawful → other.directory = workspace.directory →
      workspace.files.SameButOthers location other.files → load other root = load workspace root := by
  have hload : empty.Adds declarations (load workspace root) := by
    rw [load_directory hlawful hresolve hdirectory hopen]
    exact (adds_insertFiles hfiles hnames root empty).perm hshares
  have hmerge : empty.Adds declarations (empty.mergeAll texts) :=
    (adds_mergeAll htexts empty).perm hparts
  have hlist := adds_ofDeclarations declarations
  refine ⟨fun ha => ?_, fun ha => ?_, fun other hother hwhere hsame => ?_⟩
  · exact ⟨_, hload.eq_ok ha, hmerge.eq_ok ha, hlist.eq_ok ha⟩
  · exact ⟨hload.exists_error ha, hmerge.exists_error ha, hlist.exists_error ha⟩
  · exact load_congr hlawful hother hresolve hdirectory hopen hwhere hsame

def bareClass (qualifiedName : String) : Declaration := ⟨qualifiedName, "", .class, none, [], []⟩

/-- A directory with two index files, one of them further down. -/
def shelf : Workspace where
  files := (((FileTree.empty.put ["idx"] .directory).put ["idx", "sub"] .directory).put
    ["idx", "sub", "b.symbols.json"] (.file (.text "[[[\"Price\"]]]"))).put
    ["idx", "a.symbols.toml"] (.file (.text "declaration=[\x7bqualified_name=\"Coin\"\x7d]"))
  directory := []
  environment := OrderedMap.empty

def shelfWithNotes : Workspace :=
  { shelf with files := shelf.files.put ["idx", "notes.json"] (.file (.text "Coin, Price")) }

theorem lawful_shelf : shelf.files.Lawful := by
  have hidx : (FileTree.empty.put ["idx"] .directory).Lawful :=
    FileTree.lawful_empty.put (rfl : FileTree.hasDirectory _ [] = true) "idx" .directory (by decide)
      (.inl rfl)
  have hsub : ((FileTree.empty.put ["idx"] .directory).put ["idx", "sub"] .directory).Lawful :=
    hidx.put (by with_unfolding_all rfl : FileTree.hasDirectory _ ["idx"] = true) "sub" .directory
      (by decide) (.inl rfl)
  have hfile := hsub.put (by with_unfolding_all rfl : FileTree.hasDirectory _ ["idx", "sub"] = true)
    "b.symbols.json" (.file (.text "[[[\"Price\"]]]")) (by decide) (.inr (by with_unfolding_all rfl))
  exact hfile.put (by with_unfolding_all rfl : FileTree.hasDirectory _ ["idx"] = true)
    "a.symbols.toml" _ (by decide) (.inr (by with_unfolding_all rfl))

theorem lawful_shelfWithNotes : shelfWithNotes.files.Lawful :=
  lawful_shelf.put (by with_unfolding_all rfl : FileTree.hasDirectory _ ["idx"] = true) "notes.json" _
    (by decide) (.inr (by with_unfolding_all rfl))

/-- The notes stand where nothing stood, and are no index file. -/
theorem sameButOthers_shelf : shelf.files.SameButOthers ["idx"] shelfWithNotes.files := by
  intro place
  by_cases hp : place = ["idx", "notes.json"]
  · subst hp
    exact .inr ⟨⟨["notes.json"], rfl, by decide⟩, by with_unfolding_all rfl, by with_unfolding_all rfl⟩
  · exact .inl (FileTree.node?_put_of_ne _ hp _).symm

/-- The two declarations of the shelf, in texts of other shares and in another order, with and without
the notes. -/
theorem load_distributed_shelf : ∃ index,
    load shelf ⟨"idx/"⟩ = .ok index ∧
      empty.mergeAll [⟨memoryOrigin, .json, "[[[\"Price\"],[\"Coin\"]]]"⟩] = .ok index ∧
      ofDeclarations [bareClass "Price", bareClass "Coin"] = .ok index ∧
      load shelfWithNotes ⟨"idx/"⟩ = .ok index := by
  have hresolve : shelf.files.resolve shelf.directory ⟨"idx/"⟩ = .ok ["idx"] := by
    with_unfolding_all rfl
  have hdirectory : shelf.files.hasDirectory ["idx"] = true := by with_unfolding_all rfl
  have hopen : shelf.files.closedBelow? ["idx"] = none := by with_unfolding_all rfl
  have hbelow : shelf.files.indexFilesBelow ["idx"] =
      [(["a.symbols.toml"], .text "declaration=[\x7bqualified_name=\"Coin\"\x7d]"),
        (["sub", "b.symbols.json"], .text "[[[\"Price\"]]]")] := by
    rw [FileTree.indexFilesBelow]
    exact List.mergeSort_of_pairwise (by decide +kernel)
  have htoml : FileHolds (["a.symbols.toml"], .text "declaration=[\x7bqualified_name=\"Coin\"\x7d]")
      [bareClass "Coin"] := by
    have hformat : formatOf ["a.symbols.toml"] = .toml := by decide
    refine ⟨_, rfl, ?_⟩
    rw [hformat]
    exact declarationsOf_of_outlines (by simp [bareClass]) (by decide +kernel)
  have hjson : FileHolds (["sub", "b.symbols.json"], .text "[[[\"Price\"]]]")
      [bareClass "Price"] := by
    have hformat : formatOf ["sub", "b.symbols.json"] = .json := by decide
    refine ⟨_, rfl, ?_⟩
    rw [hformat]
    exact declarationsOf_of_outlines (by simp [bareClass]) (by decide +kernel)
  have hfiles : List.Forall₂ FileHolds (shelf.files.indexFilesBelow ["idx"])
      [[bareClass "Coin"], [bareClass "Price"]] := by
    rw [hbelow]
    exact .cons htoml (.cons hjson .nil)
  have htext : IndexText.Holds ⟨memoryOrigin, .json, "[[[\"Price\"],[\"Coin\"]]]"⟩
      [bareClass "Price", bareClass "Coin"] :=
    declarationsOf_of_outlines (by simp [bareClass]) (by decide +kernel)
  have hacceptable : Acceptable [bareClass "Price", bareClass "Coin"] := by
    refine ⟨?_, by decide⟩
    simp only [List.forall_mem_cons]
    exact ⟨⟨by decide, by decide⟩, ⟨by decide, by decide⟩, fun _ h => absurd h List.not_mem_nil⟩
  have hnames : ∀ file ∈ shelf.files.indexFilesBelow ["idx"], FileTree.endsInText file.1 = true := by
    rw [hbelow]
    decide
  obtain ⟨hsame, -, hothers⟩ := load_distributed lawful_shelf hresolve hdirectory hopen hnames hfiles
    (.swap ..) (.cons htext .nil) (.refl [bareClass "Price", bareClass "Coin"])
  obtain ⟨index, hload, hmerge, hlist⟩ := hsame hacceptable
  have hother := hothers shelfWithNotes lawful_shelfWithNotes rfl sameButOthers_shelf
  exact ⟨index, hload, hmerge, hlist, hother.trans hload⟩

def coinText : String := "declaration=[\x7bqualified_name=\"Coin\"\x7d]"

/-- A shelf with one index file beside a directory that may not be listed. -/
def lockedShelf : Workspace where
  files := ((FileTree.empty.put ["idx"] .directory).put ["idx", "attic"] .closed).put
    ["idx", "a.symbols.toml"] (.file (.text coinText))
  directory := []
  environment := OrderedMap.empty

/-- A shelf with one index file, whose name begins with the byte 0xFF and so is no text. -/
def strayShelf : Workspace where
  files := (FileTree.empty.put ["idx"] .directory).put ["idx", "\x00\xff.symbols.toml"]
    (.file (.text coinText))
  directory := []
  environment := OrderedMap.empty

/-- Merging a text and a list of declarations may succeed where loading a directory with the same
declarations fails: a directory below it is closed, or the name of its index file is no text. -/
theorem load_refused_apart : ∃ index,
    ofDeclarations [bareClass "Coin"] = .ok index ∧
      empty.mergeAll [⟨memoryOrigin, .toml, coinText⟩] = .ok index ∧
      IndexText.Holds ⟨memoryOrigin, .toml, coinText⟩ [bareClass "Coin"] ∧
      List.Forall₂ FileHolds (lockedShelf.files.indexFilesBelow ["idx"]) [[bareClass "Coin"]] ∧
      load lockedShelf ⟨"idx"⟩ = .error (walkFailure ⟨"idx/attic"⟩ .permissionDenied) ∧
      List.Forall₂ FileHolds (strayShelf.files.indexFilesBelow ["idx"]) [[bareClass "Coin"]] ∧
      load strayShelf ⟨"idx"⟩ = .error (.index ⟨"idx/\x00\xff.symbols.toml"⟩ .unknownFormat) := by
  have hcoin : IndexText.Holds ⟨memoryOrigin, .toml, coinText⟩ [bareClass "Coin"] :=
    declarationsOf_of_outlines (by simp [bareClass]) (by decide +kernel)
  have hfile : ∀ name, formatOf [name] = .toml → FileHolds ([name], .text coinText) [bareClass "Coin"] :=
    fun name hformat => ⟨coinText, rfl, hformat ▸ hcoin⟩
  have hlocked : lockedShelf.files.indexFilesBelow ["idx"] = [(["a.symbols.toml"], .text coinText)] := by
    with_unfolding_all rfl
  have hstray : strayShelf.files.indexFilesBelow ["idx"] =
      [(["\x00\xff.symbols.toml"], .text coinText)] := by with_unfolding_all rfl
  have hacceptable : Acceptable [bareClass "Coin"] := by
    refine ⟨?_, by decide⟩
    simp only [List.forall_mem_cons]
    exact ⟨⟨by decide, by decide⟩, fun _ h => absurd h List.not_mem_nil⟩
  have hmerge : empty.Adds [bareClass "Coin"] (empty.mergeAll [⟨memoryOrigin, .toml, coinText⟩]) :=
    adds_mergeAll (.cons hcoin .nil) empty
  refine ⟨_, (adds_ofDeclarations _).eq_ok hacceptable, hmerge.eq_ok hacceptable, hcoin, ?_, ?_, ?_, ?_⟩
  · rw [hlocked]
    exact .cons (hfile _ (by decide)) .nil
  · with_unfolding_all rfl
  · rw [hstray]
    exact .cons (hfile _ (by decide)) .nil
  · with_unfolding_all rfl

end ConverterBuilders.SymbolIndex
