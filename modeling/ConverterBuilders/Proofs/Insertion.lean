import ConverterBuilders.Proofs.IndexInvariant
import ConverterBuilders.Proofs.MapEntries
import ConverterBuilders.Proofs.NameParts
import Mathlib.Data.List.Induction

/-!
# Inserting declarations

Declarations are inserted one by one.  The first that cannot be taken stops the insertion: its name is no
name, or it lies outside its package, or its name is taken, by the index or by a declaration in front of
it.  Those in front of it stay, and nothing else in the index changes.

Main statements:

* `refusal?_adding`: the test of one declaration behind others;
* `inserts_insertAll`: how far an insertion gets;
* `takes_iff`: when an index takes all of several declarations;
* `declarationsOf_of_outlines`: plain declarations are known by their outlines;
* `merge_adds_accepted`: what holds in every index, and what a merged text adds to it.
-/

namespace ConverterBuilders.SymbolIndex

open QualifiedName

/-! ## What is refused -/

/-- What is wrong with a declaration that comes to an index behind `earlier` ones: the first of three
faults. -/
inductive Refuses (index : SymbolIndex) (earlier : List Declaration) (declaration : Declaration) :
    IndexFault → Prop
  | invalidName (hname : ¬ Dotted declaration.qualifiedName) :
    Refuses index earlier declaration (.invalidName declaration.qualifiedName)
  | outsidePackage (hname : Dotted declaration.qualifiedName) (hpackage : ¬ declaration.InPackage) :
    Refuses index earlier declaration
      (.outsidePackage declaration.qualifiedName declaration.package)
  | listedTwice (hname : Dotted declaration.qualifiedName) (hpackage : declaration.InPackage)
    (htaken : (∃ other, index.get? declaration.qualifiedName = some other) ∨
      ∃ other ∈ earlier, other.qualifiedName = declaration.qualifiedName) :
    Refuses index earlier declaration (.listedTwice declaration.qualifiedName)

/-- Whether an index can take declarations one after the other: there is nothing wrong with any of them
behind those in front of it. -/
def Takes (index : SymbolIndex) (declarations : List Declaration) : Prop :=
  ∀ earlier declaration later, declarations = earlier ++ declaration :: later →
    ∀ fault, ¬ index.Refuses earlier declaration fault

def adding (index : SymbolIndex) (declarations : List Declaration) : SymbolIndex :=
  declarations.foldl
    (fun index declaration => ⟨index.declarations.insert declaration.qualifiedName declaration⟩) index

variable {index : SymbolIndex} {declaration : Declaration} {declarations : List Declaration}

theorem adding_concat (index : SymbolIndex) (declarations : List Declaration)
    (declaration : Declaration) :
    index.adding (declarations ++ [declaration]) =
      ⟨(index.adding declarations).declarations.insert declaration.qualifiedName declaration⟩ := by
  simp [adding]

/-- The names of an index with declarations added to it. -/
theorem exists_get?_adding {name : String} :
    (∃ other, (index.adding declarations).get? name = some other) ↔
      (∃ other, index.get? name = some other) ∨
        ∃ other ∈ declarations, other.qualifiedName = name := by
  induction declarations generalizing index with
  | nil => simp [adding]
  | cons declaration rest ih =>
    have hrest := @ih ⟨index.declarations.insert declaration.qualifiedName declaration⟩
    rw [adding, List.foldl_cons, ← adding, hrest]
    by_cases he : name = declaration.qualifiedName
    · have hself : get? ⟨index.declarations.insert declaration.qualifiedName declaration⟩ name =
          some declaration := by
        rw [he]
        exact OrderedMap.get?_insert_self ..
      constructor
      · intro _
        exact .inr ⟨declaration, List.mem_cons_self .., he.symm⟩
      · intro _
        exact .inl ⟨declaration, hself⟩
    · have hne : compare name declaration.qualifiedName ≠ .eq := fun hc =>
        he (Std.LawfulEqOrd.eq_of_compare hc)
      have hother : get? ⟨index.declarations.insert declaration.qualifiedName declaration⟩ name =
          index.get? name := OrderedMap.get?_insert_of_ne _ _ hne
      rw [hother]
      simp [Ne.symm he]

/-- **A declaration is refused behind others for the first fault that it has.** -/
theorem refusal?_adding {fault : IndexFault} :
    (index.adding declarations).refusal? declaration = some fault ↔
      index.Refuses declarations declaration fault := by
  have htaken : (index.adding declarations).declarations.contains declaration.qualifiedName = true ↔
      (∃ other, index.get? declaration.qualifiedName = some other) ∨
        ∃ other ∈ declarations, other.qualifiedName = declaration.qualifiedName := by
    rw [← exists_get?_adding]
    exact Option.isSome_iff_exists
  have hvalid : (!QualifiedName.isValid declaration.qualifiedName) = true ↔
      ¬ Dotted declaration.qualifiedName := by
    rw [← isValid_iff_dotted, Bool.not_eq_true', Bool.not_eq_true]
  have hinside : (!QualifiedName.isInside declaration.package declaration.qualifiedName) = true ↔
      ¬ declaration.InPackage := by
    rw [← Declaration.isInside_iff_inPackage, Bool.not_eq_true', Bool.not_eq_true]
  constructor
  · intro h
    unfold refusal? at h
    split at h
    · rename_i hname
      cases h
      exact .invalidName (hvalid.1 hname)
    · rename_i hname
      have hdotted : Dotted declaration.qualifiedName := not_not.1 (mt hvalid.2 hname)
      split at h
      · rename_i hpackage
        cases h
        exact .outsidePackage hdotted (hinside.1 hpackage)
      · rename_i hpackage
        split at h
        · rename_i hlisted
          cases h
          exact .listedTwice hdotted (not_not.1 (mt hinside.2 hpackage)) (htaken.1 hlisted)
        · cases h
  · intro h
    unfold refusal?
    cases h with
    | invalidName hname => rw [if_pos (hvalid.2 hname)]
    | outsidePackage hname hpackage =>
      rw [if_neg (mt hvalid.1 (not_not.2 hname)), if_pos (hinside.2 hpackage)]
    | listedTwice hname hpackage hlisted =>
      rw [if_neg (mt hvalid.1 (not_not.2 hname)), if_neg (mt hinside.1 (not_not.2 hpackage)),
        if_pos (htaken.2 hlisted)]

/-! ## How far an insertion gets -/

/-- What insertion makes of an index: it takes all declarations, or those in front of the first with which
something is wrong. -/
inductive Inserts (index : SymbolIndex) (origin : Path) (declarations : List Declaration) :
    SymbolIndex × Option Failure → Prop
  | all (htakes : index.Takes declarations) :
    Inserts index origin declarations (index.adding declarations, none)
  | stopped {accepted later : List Declaration} {declaration : Declaration} {fault : IndexFault}
    (hsplit : declarations = accepted ++ declaration :: later) (htakes : index.Takes accepted)
    (hrefuses : index.Refuses accepted declaration fault) :
    Inserts index origin declarations (index.adding accepted, some (.index origin fault))

theorem takes_nil (index : SymbolIndex) : index.Takes [] := by
  intro earlier declaration later h
  simp at h

/-- One more declaration can be taken if nothing is wrong with it. -/
theorem takes_concat (h : index.Takes declarations)
    (hd : ∀ fault, ¬ index.Refuses declarations declaration fault) :
    index.Takes (declarations ++ [declaration]) := by
  intro earlier other later hsplit
  rcases List.eq_nil_or_concat later with rfl | ⟨front, last, rfl⟩
  · obtain ⟨rfl, hlast⟩ := List.append_inj' hsplit rfl
    cases hlast
    exact hd
  · rw [List.concat_eq_append, ← List.cons_append, ← List.append_assoc] at hsplit
    exact h earlier other front (List.append_inj' hsplit rfl).1

/-- Insertion behind declarations that were taken. -/
theorem inserts_of_takes (origin : Path) {passed : List Declaration} (h : index.Takes passed) :
    index.Inserts origin (passed ++ declarations)
      (insertAll origin (index.adding passed) declarations) := by
  -- the declarations move one by one to those that were taken
  induction declarations generalizing passed with
  | nil =>
    rw [List.append_nil]
    exact .all h
  | cons declaration rest ih =>
    rw [insertAll]
    split
    · rename_i fault hf
      exact .stopped rfl h (refusal?_adding.1 hf)
    · rename_i hf
      have hnext : index.Takes (passed ++ [declaration]) := by
        refine takes_concat h fun fault hr => ?_
        rw [refusal?_adding.2 hr] at hf
        cases hf
      have hrest := ih hnext
      rwa [adding_concat, List.append_assoc, List.singleton_append] at hrest

/-- **Insertion takes declarations up to the first with which something is wrong.** -/
theorem inserts_insertAll (origin : Path) (index : SymbolIndex) (declarations : List Declaration) :
    index.Inserts origin declarations (insertAll origin index declarations) :=
  inserts_of_takes origin (takes_nil index)

theorem Inserts.takes_iff {origin : Path} {outcome : SymbolIndex × Option Failure}
    (h : index.Inserts origin declarations outcome) :
    outcome.2 = none ↔ index.Takes declarations := by
  cases h with
  | all htakes => exact iff_of_true rfl htakes
  | stopped hsplit _ hrefuses =>
    refine iff_of_false (fun he => by cases he) fun htakes => ?_
    exact htakes _ _ _ hsplit _ hrefuses

/-! ## Taking all declarations -/

/-- **An index takes declarations if each is well placed and all names are different and new.** -/
theorem takes_iff : index.Takes declarations ↔
    (∀ declaration ∈ declarations, declaration.WellPlaced) ∧
      (declarations.map Declaration.qualifiedName).Nodup ∧
      ∀ declaration ∈ declarations, index.get? declaration.qualifiedName = none := by
  have hplaced : ∀ declaration : Declaration, declaration.WellPlaced ↔
      Dotted declaration.qualifiedName ∧ declaration.InPackage := by
    intro declaration
    rw [← isValid_iff_dotted, ← Declaration.isInside_iff_inPackage]
    exact ⟨fun h => ⟨h.valid, h.inside⟩, fun h => ⟨h.1, h.2⟩⟩
  constructor
  · intro h
    have hgood : ∀ earlier declaration later, declarations = earlier ++ declaration :: later →
        declaration.WellPlaced ∧ index.get? declaration.qualifiedName = none ∧
          ∀ other ∈ earlier, other.qualifiedName ≠ declaration.qualifiedName := by
      intro earlier declaration later hsplit
      have hnone := h earlier declaration later hsplit
      have hname : Dotted declaration.qualifiedName := by
        by_contra hname
        exact hnone _ (.invalidName hname)
      have hpackage : declaration.InPackage := by
        by_contra hpackage
        exact hnone _ (.outsidePackage hname hpackage)
      refine ⟨(hplaced declaration).2 ⟨hname, hpackage⟩, ?_, ?_⟩
      · cases hg : index.get? declaration.qualifiedName with
        | none => rfl
        | some other => exact absurd (.listedTwice hname hpackage (.inl ⟨other, hg⟩)) (hnone _)
      · intro other ho he
        exact hnone _ (.listedTwice hname hpackage (.inr ⟨other, ho, he⟩))
    refine ⟨?_, ?_, ?_⟩
    · intro declaration hm
      obtain ⟨earlier, later, hsplit⟩ := List.append_of_mem hm
      exact (hgood earlier declaration later hsplit).1
    · rw [List.Nodup, List.pairwise_map, List.pairwise_iff_forall_sublist]
      intro first second hsublist he
      obtain ⟨earlier, later, rfl, hfirst, hsecond⟩ := List.cons_sublist_iff.1 hsublist
      obtain ⟨front, back, rfl⟩ := List.append_of_mem (List.singleton_sublist.1 hsecond)
      have hgood' := hgood (earlier ++ front) second back (by simp)
      exact hgood'.2.2 first (List.mem_append_left _ hfirst) he
    · intro declaration hm
      obtain ⟨earlier, later, hsplit⟩ := List.append_of_mem hm
      exact (hgood earlier declaration later hsplit).2.1
  · rintro ⟨hplace, hnodup, hnew⟩ earlier declaration later rfl fault hrefuses
    have hm : declaration ∈ earlier ++ declaration :: later := by simp
    obtain ⟨hname, hpackage⟩ := (hplaced declaration).1 (hplace declaration hm)
    cases hrefuses with
    | invalidName h => exact h hname
    | outsidePackage _ h => exact h hpackage
    | listedTwice _ _ htaken =>
      rcases htaken with ⟨other, ho⟩ | ⟨other, ho, he⟩
      · rw [hnew declaration hm] at ho
        cases ho
      · rw [List.map_append, List.map_cons, List.nodup_append] at hnodup
        exact hnodup.2.2 _ (List.mem_map_of_mem ho) _ (List.mem_cons_self ..) he

/-- The entries of an index that has taken declarations: those that it had, and one for each. -/
theorem entries_adding (h : index.Takes declarations) :
    (index.adding declarations).declarations.entries.Perm
      (index.declarations.entries ++
        declarations.map fun declaration => (declaration.qualifiedName, declaration)) := by
  induction declarations using List.reverseRecOn with
  | nil => simp [adding]
  | append_singleton front declaration ih =>
    have hfront : index.Takes front := by
      intro earlier other later hsplit
      exact h earlier other (later ++ [declaration]) (by simp [hsplit])
    have hfree : (index.adding front).get? declaration.qualifiedName = none := by
      cases hg : (index.adding front).get? declaration.qualifiedName with
      | none => rfl
      | some other =>
        obtain ⟨hplace, hnodup, hnew⟩ := takes_iff.1 h
        have hm : declaration ∈ front ++ [declaration] := by simp
        rcases exists_get?_adding.1 ⟨other, hg⟩ with ⟨found, hf⟩ | ⟨found, hf, he⟩
        · rw [hnew declaration hm] at hf
          cases hf
        · rw [List.map_append, List.nodup_append] at hnodup
          exact absurd he (hnodup.2.2 _ (List.mem_map_of_mem hf) _ (by simp))
    rw [adding_concat, List.map_append, ← List.append_assoc]
    exact ((OrderedMap.perm_insertEntry hfree).trans ((ih hfront).cons _)).trans (List.perm_append_singleton _ _).symm

/-! ## Texts of plain declarations -/

/-- What there is to a declaration, but of its supertypes and annotations only how many there are. -/
def outline (declaration : Declaration) : (String × String) × (Kind × Option String) × (Nat × Nat) :=
  ((declaration.qualifiedName, declaration.package), (declaration.kind, declaration.file?),
    (declaration.supertypes.length, declaration.annotations.length))

/-- A declaration without supertypes and annotations is known by its outline. -/
theorem eq_of_outline {declaration other : Declaration} (hs : other.supertypes = [])
    (ha : other.annotations = []) (h : outline declaration = outline other) : declaration = other := by
  obtain ⟨name, package, kind, file?, supertypes, annotations⟩ := declaration
  obtain ⟨name', package', kind', file?', supertypes', annotations'⟩ := other
  subst hs ha
  simp only [outline, Prod.mk.injEq, List.length_nil, List.length_eq_zero_iff] at h
  obtain ⟨⟨rfl, rfl⟩, ⟨rfl, rfl⟩, rfl, rfl⟩ := h
  rfl

theorem eq_of_outlines {found declarations : List Declaration}
    (hplain : ∀ declaration ∈ declarations, declaration.supertypes = [] ∧ declaration.annotations = [])
    (h : found.map outline = declarations.map outline) : found = declarations := by
  induction declarations generalizing found with
  | nil => exact List.map_eq_nil_iff.1 h
  | cons declaration declarations ih =>
    obtain ⟨first, rest, rfl, hfirst, hrest⟩ := List.map_eq_cons_iff.1 h
    obtain ⟨hs, ha⟩ := hplain declaration (List.mem_cons_self ..)
    rw [eq_of_outline hs ha hfirst, ih (fun other ho => hplain other (List.mem_cons_of_mem _ ho)) hrest]

/-- The plain declarations of a text are known by their outlines. -/
theorem declarationsOf_of_outlines {format : Format} {content : String} {declarations : List Declaration}
    (hplain : ∀ declaration ∈ declarations, declaration.supertypes = [] ∧ declaration.annotations = [])
    (h : (declarationsOf format content).map (List.map outline) = some (declarations.map outline)) :
    declarationsOf format content = some declarations := by
  obtain ⟨found, hfound, houtlines⟩ := Option.map_eq_some_iff.1 h
  rw [hfound, eq_of_outlines hplain houtlines]

/-! ## Merging texts -/

/-- Merging a text inserts the declarations in it. -/
theorem merge_of_readable {format : Format} {content : String}
    (h : declarationsOf format content = some declarations) (index : SymbolIndex) (origin : Path) :
    index.merge origin format content = insertAll origin index declarations := by
  rw [merge, h]

theorem WellFormed.composed (hw : index.WellFormed) :
    ∀ entry ∈ index.declarations.entries, entry.2.qualifiedName = entry.1 ∧ entry.2.Composed := by
  intro entry he
  obtain ⟨hname, hplaced⟩ := hw entry he
  exact ⟨hname, Declaration.composed_of_isInside hplaced.valid hplaced.inside⟩

/-- **What holds in every index that can be made, and what a text adds to it.**  Each declaration stands
under its own name, which is made of the identifiers of its package, of those around it and of its simple
name.  A text that is no index adds nothing.  Any other adds, to entries that stay as they are, its
declarations up to the first with which something is wrong, and then reports what that is and where the
text comes from; it adds all of them and reports nothing if there is no such declaration. -/
theorem merge_adds_accepted {index : SymbolIndex} (hr : index.Reachable) :
    (∀ entry ∈ index.declarations.entries, entry.2.qualifiedName = entry.1 ∧ entry.2.Composed) ∧
    ∀ origin format content,
      (declarationsOf format content = none →
        index.merge origin format content = (index, some (.index origin .unreadable))) ∧
      ∀ declarations, declarationsOf format content = some declarations →
        ((index.merge origin format content).2 = none ↔ index.Takes declarations) ∧
        ∃ accepted later, declarations = accepted ++ later ∧ index.Takes accepted ∧
          (index.merge origin format content).1.declarations.entries.Perm
            (index.declarations.entries ++
              accepted.map fun declaration => (declaration.qualifiedName, declaration)) ∧
          (later = [] ∧ (index.merge origin format content).2 = none ∨
            ∃ declaration rest fault, later = declaration :: rest ∧
              index.Refuses accepted declaration fault ∧
              (index.merge origin format content).2 = some (.index origin fault)) := by
  refine ⟨hr.wellFormed.composed, fun origin format content => ⟨fun hnone => ?_, ?_⟩⟩
  · exact merge_of_unreadable hnone index origin
  · intro declarations hsome
    have hinserts := inserts_insertAll origin index declarations
    rw [merge_of_readable hsome]
    refine ⟨hinserts.takes_iff, ?_⟩
    generalize insertAll origin index declarations = outcome at hinserts
    cases hinserts with
    | all htakes =>
      exact ⟨declarations, [], by simp, htakes, entries_adding htakes, .inl ⟨rfl, rfl⟩⟩
    | stopped hsplit htakes hrefuses =>
      exact ⟨_, _, hsplit, htakes, entries_adding htakes, .inr ⟨_, _, _, rfl, hrefuses, rfl⟩⟩

/-- A text with a new declaration, one that the shop has already, and one more. -/
def lateText : String := "[[[\"org.shop.till.Coin\",\"org.shop\"],[\"Price\"],[\"Later\"]]]"

/-- The shop takes the first declaration of the text and refuses the second. -/
theorem merge_adds_accepted_shop :
    (∀ entry ∈ shop.declarations.entries, entry.2.Composed) ∧
    ∀ origin, (shop.merge origin .json lateText).2 = some (.index origin (.listedTwice "Price")) ∧
      ((shop.merge origin .json lateText).1.declarations.entries.map Prod.fst).Perm
        ["Price", "org.shop.Money", "org.shop.till.Coin"] := by
  obtain ⟨hentries, hmerges⟩ := merge_adds_accepted reachable_shop
  refine ⟨fun entry he => (hentries entry he).2, fun origin => ?_⟩
  have hread : declarationsOf .json lateText =
      some [⟨"org.shop.till.Coin", "org.shop", .class, none, [], []⟩,
        ⟨"Price", "", .class, none, [], []⟩, ⟨"Later", "", .class, none, [], []⟩] :=
    declarationsOf_of_outlines (by simp) (by decide +kernel)
  have hfailure : (shop.merge origin .json lateText).2 =
      some (.index origin (.listedTwice "Price")) := by
    rw [merge, hread]
    with_unfolding_all rfl
  refine ⟨hfailure, ?_⟩
  obtain ⟨_, accepted, later, hsplit, _, hperm, hend⟩ := (hmerges origin .json lateText).2 _ hread
  rw [hfailure] at hend
  rcases hend with ⟨_, hnone⟩ | ⟨declaration, rest, fault, rfl, hrefuses, hfault⟩
  · cases hnone
  · cases hfault
    have hname : declaration.qualifiedName = "Price" := by
      generalize hf : IndexFault.listedTwice "Price" = fault at hrefuses
      cases hrefuses with
      | listedTwice => exact (IndexFault.listedTwice.inj hf).symm
      | _ => cases hf
    have haccepted : accepted.map Declaration.qualifiedName = ["org.shop.till.Coin"] := by
      rcases accepted with _ | ⟨first, _ | ⟨second, _ | ⟨third, accepted⟩⟩⟩
      · cases hsplit
        exact absurd hname (by decide)
      · cases hsplit
        rfl
      · cases hsplit
        exact absurd hname (by decide)
      · simp at hsplit
    have hnames := hperm.map Prod.fst
    rw [List.map_append, List.map_map] at hnames
    have hadded : accepted.map (Prod.fst ∘ fun declaration => (declaration.qualifiedName, declaration)) =
        ["org.shop.till.Coin"] := haccepted
    rw [hadded] at hnames
    exact hnames

end ConverterBuilders.SymbolIndex
