import ConverterBuilders.Configuration.Basic
import ConverterBuilders.Proofs.Pieces
import ConverterBuilders.Proofs.Running
import ConverterBuilders.SymbolIndex.Loading

/-!
# What holds in every symbol index

An index is made by merging texts into an empty one or from a list of declarations, and every insertion
checks the name and the package.  So in an index that can be made, each declaration is filed under its
own name, and the converters that it stands for have identifiers for names.

Main statements:

* `wellFormed_insertAll`: insertion keeps the invariant, also where it stops;
* `Reachable.wellFormed`: the invariant holds in every index that can be made;
* `reachable_of_load`: an index that was loaded can be made;
* `exists_of_resolve`, `wellNamed_of_resolve`: what the index answers as a resolver.
-/

namespace ConverterBuilders

/-- Whether a declaration has a valid name inside its package. -/
structure Declaration.WellPlaced (declaration : Declaration) : Prop where
  valid : QualifiedName.isValid declaration.qualifiedName = true
  inside : QualifiedName.isInside declaration.package declaration.qualifiedName = true

/-- Whether the package of a converter is empty or has identifiers between its points, and its simple name
is an identifier. -/
structure Converter.WellNamed (converter : Converter) : Prop where
  package : converter.package ≠ "" →
    ∀ piece ∈ Text.split '.' converter.package.toList, QualifiedName.isIdentifier piece = true
  simpleName : QualifiedName.isIdentifier converter.simpleName.toList = true

namespace SymbolIndex

/-- The indexes that can be made: from nothing or from a list of declarations, with any texts merged into
them, whether those are accepted or not. -/
inductive Reachable : SymbolIndex → Prop
  | empty : Reachable empty
  | ofDeclarations {declarations : List Declaration} {index : SymbolIndex}
    (h : SymbolIndex.ofDeclarations declarations = .ok index) : Reachable index
  | merge {index : SymbolIndex} (h : Reachable index) (origin : Path) (format : Format)
    (content : String) : Reachable (index.merge origin format content).1

/-- Whether each declaration is filed under its own name and well placed. -/
def WellFormed (index : SymbolIndex) : Prop :=
  ∀ entry ∈ index.declarations.entries, entry.2.qualifiedName = entry.1 ∧ entry.2.WellPlaced

theorem wellFormed_empty : WellFormed empty := fun _ h => by cases h

/-- A declaration that is not refused is well placed. -/
theorem wellPlaced_of_accepted {index : SymbolIndex} {declaration : Declaration}
    (h : index.refusal? declaration = none) : declaration.WellPlaced := by
  unfold refusal? at h
  split at h
  · cases h
  · rename_i hv
    split at h
    · cases h
    · rename_i hi
      exact ⟨by simpa using hv, by simpa using hi⟩

theorem wellFormed_insert {index : SymbolIndex} (hw : index.WellFormed) {declaration : Declaration}
    (h : declaration.WellPlaced) :
    WellFormed ⟨index.declarations.insert declaration.qualifiedName declaration⟩ := by
  intro entry he
  rcases OrderedMap.mem_insertEntry he with rfl | he
  · exact ⟨rfl, h⟩
  · exact hw entry he

/-- Insertion keeps the invariant, also where it stops. -/
theorem wellFormed_insertAll (origin : Path) {index : SymbolIndex} (hw : index.WellFormed)
    (declarations : List Declaration) : (insertAll origin index declarations).1.WellFormed := by
  induction declarations generalizing index with
  | nil => exact hw
  | cons declaration rest ih =>
    unfold insertAll
    split
    · exact hw
    · rename_i hr
      exact ih (wellFormed_insert hw (wellPlaced_of_accepted hr))

theorem wellFormed_merge {index : SymbolIndex} (hw : index.WellFormed) (origin : Path)
    (format : Format) (content : String) : (index.merge origin format content).1.WellFormed := by
  unfold merge
  split
  · exact hw
  · exact wellFormed_insertAll origin hw _

theorem wellFormed_ofDeclarations {declarations : List Declaration} {index : SymbolIndex}
    (h : SymbolIndex.ofDeclarations declarations = .ok index) : index.WellFormed := by
  have hw := wellFormed_insertAll memoryOrigin wellFormed_empty declarations
  unfold SymbolIndex.ofDeclarations at h
  split at h
  · rename_i made hm
    rw [hm] at hw
    cases h
    exact hw
  · cases h

/-- **The invariant holds in every index that can be made.** -/
theorem Reachable.wellFormed {index : SymbolIndex} (h : index.Reachable) : index.WellFormed := by
  induction h with
  | empty => exact wellFormed_empty
  | ofDeclarations h => exact wellFormed_ofDeclarations h
  | merge _ origin format content ih => exact wellFormed_merge ih origin format content

/-! ## A small index -/

/-- A class in a package that is marked as a converter with one builder function. -/
def markedClass (qualifiedName package : String) : Declaration where
  qualifiedName := qualifiedName
  package := package
  kind := .class
  file? := none
  supertypes :=
    [⟨"SingleConverter", some "com.kotlindiscord.kord.extensions.commands.converters.SingleConverter",
      [.resolved "kotlin.Long"]⟩]
  annotations := [⟨Configuration.default.annotationName,
    OrderedMap.ofList [("name", .text "amount"), ("types", .list [.text "SINGLE"])]⟩]

/-- The index of a converter in a package and of one without a package. -/
def shop : SymbolIndex :=
  ⟨(OrderedMap.empty.insert "org.shop.Money" (markedClass "org.shop.Money" "org.shop")).insert
    "Price" (markedClass "Price" "")⟩

theorem reachable_shop : shop.Reachable := by
  have h : SymbolIndex.ofDeclarations [markedClass "org.shop.Money" "org.shop", markedClass "Price" ""] =
      .ok shop := by with_unfolding_all rfl
  exact .ofDeclarations h

/-! ## Loading -/

theorem reachable_of_loadFile {workspace : Workspace} {index loaded : SymbolIndex} {path : Path}
    (hr : index.Reachable) (h : loadFile workspace index path = .ok loaded) : loaded.Reachable := by
  unfold loadFile at h
  split at h
  · cases h
  · rename_i format _
    obtain ⟨content, _, h⟩ := bind_eq_ok_iff.1 h
    split at h
    · rename_i merged hm
      cases h
      have := hr.merge path format content
      rwa [hm] at this
    · cases h

theorem reachable_of_loadFiles {workspace : Workspace} {paths : List Path} {index loaded : SymbolIndex}
    (hr : index.Reachable) (h : paths.foldlM (loadFile workspace) index = .ok loaded) :
    loaded.Reachable := by
  induction paths generalizing index with
  | nil =>
    cases h
    exact hr
  | cons path paths ih =>
    rw [List.foldlM_cons] at h
    obtain ⟨next, hn, h⟩ := bind_eq_ok_iff.1 h
    exact ih (reachable_of_loadFile hr hn) h

/-- **An index that was loaded can be made.** -/
theorem reachable_of_load {workspace : Workspace} {path : Path} {index : SymbolIndex}
    (h : load workspace path = .ok index) : index.Reachable := by
  unfold load at h
  split at h
  · cases h
  · split at h
    · obtain ⟨files, _, h⟩ := bind_eq_ok_iff.1 h
      exact reachable_of_loadFiles .empty h
    · exact reachable_of_loadFile .empty h

/-! ## Answers of the resolver -/

/-- What stands under a name has this name and is well placed. -/
theorem WellFormed.get? {index : SymbolIndex} (hw : index.WellFormed) {name : String}
    {declaration : Declaration} (h : index.get? name = some declaration) :
    declaration.qualifiedName = name ∧ declaration.WellPlaced :=
  hw (name, declaration) (OrderedMap.mem_of_lookup h)

theorem exists_of_resolve {index : SymbolIndex} {symbol : Symbol} {converter : Converter}
    (h : index.resolver.resolve symbol = some converter) :
    ∃ declaration, index.get? symbol.qualifiedName = some declaration ∧
      converter = ⟨declaration.qualifiedName, declaration.simpleName, declaration.package,
        declaration.supertypes, declaration.file?⟩ := by
  obtain ⟨declaration, hd, hc⟩ := Option.bind_eq_some_iff.1 h
  refine ⟨declaration, hd, ?_⟩
  unfold converterOf at hc
  split at hc
  · exact (Option.some.inj hc).symm
  · cases hc

/-- A resolved converter has the name of its symbol. -/
theorem WellFormed.name_of_resolve {index : SymbolIndex} (hw : index.WellFormed) {symbol : Symbol}
    {converter : Converter} (h : index.resolver.resolve symbol = some converter) :
    converter.qualifiedName = symbol.qualifiedName := by
  obtain ⟨declaration, hd, rfl⟩ := exists_of_resolve h
  exact (hw.get? hd).1

/-- **The converters of an index have identifiers for names.** -/
theorem WellFormed.wellNamed_of_resolve {index : SymbolIndex} (hw : index.WellFormed)
    {symbol : Symbol} {converter : Converter}
    (h : index.resolver.resolve symbol = some converter) : converter.WellNamed := by
  obtain ⟨declaration, hd, rfl⟩ := exists_of_resolve h
  obtain ⟨hv, hi⟩ := (hw.get? hd).2
  obtain ⟨hp, hs⟩ := QualifiedName.pieces_of_isInside hv hi
  exact ⟨hp, hs⟩

end SymbolIndex

end ConverterBuilders
