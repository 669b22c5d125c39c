import ConverterBuilders.Proofs.Partition

/-!
# Declarations beside others

More declarations in an index do not change what comes out for those that are there: a report over the
larger index, restricted to the declarations of the smaller one, is the report over the smaller one.  All
that a declaration can do to others is to collide with them.

Main statements:

* `isPart_insertAll`: an index is part of all that is made by adding to it;
* `IsPart.mem_annotated`, `IsPart.resolve_eq`, `IsPart.generate_eq`: the smaller index answers what the
  larger one answers for its declarations;
* `IsPart.valid_eq`, `IsPart.deferred_eq`, `IsPart.ignored_eq`: what a scan of it finds;
* `process_isolated`: what comes out for it.
-/

namespace ConverterBuilders

namespace SymbolIndex

/-! ## Parts of an index -/

/-- Whether all that stands in an index stands in another too. -/
def IsPart (small large : SymbolIndex) : Prop :=
  ∀ name declaration, small.get? name = some declaration → large.get? name = some declaration

def lists (index : SymbolIndex) (name : String) : Bool := index.declarations.contains name

theorem lists_of_get? {index : SymbolIndex} {name : String} {declaration : Declaration}
    (h : index.get? name = some declaration) : index.lists name = true :=
  Option.isSome_iff_exists.2 ⟨declaration, h⟩

theorem isPart_refl (index : SymbolIndex) : index.IsPart index := fun _ _ h => h

theorem isPart_insert {index : SymbolIndex} {declaration : Declaration}
    (h : index.refusal? declaration = none) :
    index.IsPart ⟨index.declarations.insert declaration.qualifiedName declaration⟩ := by
  intro name other ho
  have hnew : index.declarations.contains declaration.qualifiedName ≠ true := by
    intro hc
    simp only [refusal?, hc, if_true] at h
    split at h
    · cases h
    · split at h <;> cases h
  have hne : compare name declaration.qualifiedName ≠ .eq := by
    intro he
    rw [Std.LawfulEqOrd.eq_of_compare he] at ho
    exact hnew (lists_of_get? ho)
  exact (OrderedMap.get?_insert_of_ne _ _ hne).trans ho

/-- **An index is part of what it becomes when declarations are inserted**, also where the insertion stops. -/
theorem isPart_insertAll (origin : Path) (index : SymbolIndex) (declarations : List Declaration) :
    index.IsPart (insertAll origin index declarations).1 := by
  induction declarations generalizing index with
  | nil => exact isPart_refl index
  | cons declaration rest ih =>
    unfold insertAll
    split
    · exact isPart_refl index
    · rename_i hr
      exact fun name other ho => ih _ name other (isPart_insert hr name other ho)

namespace IsPart

variable {small large : SymbolIndex} {configuration : Configuration}

/-! ## Answers of a part -/

theorem get?_eq (h : small.IsPart large) {name : String} (hn : small.lists name = true) :
    small.get? name = large.get? name := by
  obtain ⟨declaration, hd⟩ := Option.isSome_iff_exists.1 hn
  exact hd.trans (h name declaration hd).symm

/-- A part keeps the invariant. -/
theorem wellFormed (h : small.IsPart large) (hw : large.WellFormed) : small.WellFormed := by
  intro entry he
  have hsmall : small.get? entry.1 = some entry.2 := (OrderedMap.get?_eq_some_iff _).2 he
  exact hw.get? (h _ _ hsmall)

theorem mem_annotated (h : small.IsPart large) (hw : large.WellFormed) {annotationName : String}
    {symbol : Symbol} :
    symbol ∈ small.annotated annotationName ↔
      symbol ∈ large.annotated annotationName ∧ small.lists symbol.qualifiedName = true := by
  rw [(h.wellFormed hw).mem_annotated, hw.mem_annotated]
  constructor
  · rintro ⟨declaration, hd, ha⟩
    exact ⟨⟨declaration, h _ _ hd, ha⟩, lists_of_get? hd⟩
  · rintro ⟨⟨declaration, hd, ha⟩, hn⟩
    exact ⟨declaration, (h.get?_eq hn).trans hd, ha⟩

theorem resolve_eq (h : small.IsPart large) {symbol : Symbol}
    (hn : small.lists symbol.qualifiedName = true) :
    small.resolver.resolve symbol = large.resolver.resolve symbol :=
  congrArg (fun found => found.bind converterOf) (h.get?_eq hn)

/-- **What comes out for a converter of a part is what comes out for it anyway.** -/
theorem generate_eq (h : small.IsPart large) {converter : Converter}
    (hn : small.lists converter.qualifiedName = true) :
    Report.generate small.resolver configuration converter =
      Report.generate large.resolver configuration converter := by
  have harguments : small.arguments converter = large.arguments converter := by
    funext annotationName
    unfold arguments
    rw [h.get?_eq hn]
  have hrequest : Request.ofConverter small.resolver configuration.annotationName converter =
      Request.ofConverter large.resolver configuration.annotationName converter := by
    simp only [Request.ofConverter, resolver, harguments, Request.readValueType]
  rw [Report.generate, Report.generate, hrequest]

/-! ## Scans of a part -/

/-- **The converters of a part are found, and no others.** -/
theorem valid_eq (h : small.IsPart large) (hw : large.WellFormed) (annotationName : String) :
    (Scan.of small.resolver annotationName).valid =
      (Scan.of large.resolver annotationName).valid.filter fun converter =>
        small.lists converter.qualifiedName := by
  refine OrderedMap.eq_of_ascending Converter.qualifiedName
    (Scan.valid_ascending ((h.wellFormed hw).keepsNames _))
    ((Scan.valid_ascending (hw.keepsNames _)).filter _) fun converter => ?_
  rw [Scan.mem_valid, List.mem_filter, Scan.mem_valid]
  constructor
  · rintro ⟨symbol, hs, hk, hr⟩
    obtain ⟨hlarge, hn⟩ := (h.mem_annotated hw).1 hs
    refine ⟨⟨symbol, hlarge, hk, (h.resolve_eq hn).symm.trans hr⟩, ?_⟩
    rw [(h.wellFormed hw).name_of_resolve hr, hn]
  · rintro ⟨⟨symbol, hs, hk, hr⟩, hn⟩
    rw [hw.name_of_resolve hr] at hn
    exact ⟨symbol, (h.mem_annotated hw).2 ⟨hs, hn⟩, hk, (h.resolve_eq hn).trans hr⟩

theorem deferred_eq (h : small.IsPart large) (hw : large.WellFormed) (annotationName : String) :
    (Scan.of small.resolver annotationName).deferred =
      (Scan.of large.resolver annotationName).deferred.filter fun symbol =>
        small.lists symbol.qualifiedName := by
  refine OrderedMap.eq_of_ascending id (Scan.deferred_ascending _ _)
    ((Scan.deferred_ascending _ _).filter _) fun symbol => ?_
  rw [List.mem_filter, Scan.mem_deferred, Scan.mem_deferred]
  constructor
  · rintro ⟨hs, hk, hr⟩
    obtain ⟨hlarge, hn⟩ := (h.mem_annotated hw).1 hs
    exact ⟨⟨hlarge, hk, (h.resolve_eq hn).symm.trans hr⟩, hn⟩
  · rintro ⟨⟨hs, hk, hr⟩, hn⟩
    exact ⟨(h.mem_annotated hw).2 ⟨hs, hn⟩, hk, (h.resolve_eq hn).trans hr⟩

theorem ignored_eq (h : small.IsPart large) (hw : large.WellFormed) (annotationName : String) :
    (Scan.of small.resolver annotationName).ignored =
      (Scan.of large.resolver annotationName).ignored.filter fun symbol =>
        small.lists symbol.qualifiedName := by
  refine OrderedMap.eq_of_ascending id (Scan.ignored_ascending _ _)
    ((Scan.ignored_ascending _ _).filter _) fun symbol => ?_
  rw [List.mem_filter, Scan.mem_ignored, Scan.mem_ignored, and_right_comm]
  exact and_congr_left fun _ => h.mem_annotated hw

end IsPart

end SymbolIndex

/-! ## Reports over a part -/

namespace Report

def restrict (report : Report) (index : SymbolIndex) : Report where
  artifacts := report.artifacts.filter fun artifact => index.lists artifact.declaration
  empty := report.empty.filter index.lists
  failures := report.failures.filter fun failed => index.lists failed.declaration
  deferred := report.deferred.filter fun symbol => index.lists symbol.qualifiedName
  ignored := report.ignored.filter fun symbol => index.lists symbol.qualifiedName
  written := report.written

variable {small large : SymbolIndex} {configuration : Configuration}

/-- **A part has the report of the larger index, restricted to its declarations.** -/
theorem process_of_isPart (h : small.IsPart large) (hw : large.WellFormed) {report : Report}
    (hp : process large.resolver configuration = .ok report) :
    process small.resolver configuration = .ok (report.restrict small) := by
  obtain ⟨hn, rfl⟩ := eq_of_process hp
  have hvalid : (scan small.resolver configuration).valid =
      (scan large.resolver configuration).valid.filter fun converter =>
        small.lists converter.qualifiedName := h.valid_eq hw _
  have hdeferred : (scan small.resolver configuration).deferred = _ := h.deferred_eq hw _
  have hignored : (scan small.resolver configuration).ignored = _ := h.ignored_eq hw _
  have houtcomes : outcomes small.resolver configuration (scan small.resolver configuration).valid =
      outcomes large.resolver configuration (scan small.resolver configuration).valid := by
    rw [hvalid]
    exact outcomes_congr fun converter hc => h.generate_eq (List.mem_filter.1 hc).2
  have hshared := (sharesOut_ofOutcomes large.resolver configuration
    (scan large.resolver configuration) (scan large.resolver configuration).valid).filter small.lists
  rw [process_of_nodup]
  · rw [houtcomes, hvalid, hshared.ofOutcomes_eq, hdeferred, hignored]
    rfl
  · rw [hvalid]
    exact hn.sublist (List.filter_sublist.map _)

end Report

/-- **Declarations do not touch what comes out for others, unless they collide.**  Let an index be part of
one that can be made.  Then generating for the larger index is refused because of a collision, or both
have reports, and the one for the part is the other one restricted to its declarations, in each list and
in the same order. -/
theorem process_isolated {small large : SymbolIndex} (hl : large.Reachable) (h : small.IsPart large)
    (configuration : Configuration) :
    (∃ artifact first second,
      Report.process large.resolver configuration = .error (.collision artifact first second)) ∨
    ∃ report, Report.process large.resolver configuration = .ok report ∧
      Report.process small.resolver configuration = .ok (report.restrict small) := by
  rcases Report.process_cases large.resolver configuration with
    ⟨artifact, first, second, hp, _⟩ | ⟨_, hp, _⟩
  · exact .inl ⟨artifact, first, second, hp⟩
  · exact .inr ⟨_, hp, Report.process_of_isPart h hl.wellFormed hp⟩

/-- The shop has the same two artifacts alone as in the market, and nothing of the stalls beside it. -/
theorem process_isolated_shop :
    ∃ report, Report.process SymbolIndex.market.resolver .default = .ok report ∧
      report.artifacts.map Artifact.declaration = ["Price", "org.shop.Money"] ∧
      report.failures ≠ [] ∧ report.empty ≠ [] ∧
      Report.process SymbolIndex.shop.resolver .default = .ok (report.restrict SymbolIndex.shop) ∧
      (report.restrict SymbolIndex.shop).artifacts = report.artifacts ∧
      (report.restrict SymbolIndex.shop).failures = [] ∧
      (report.restrict SymbolIndex.shop).empty = [] := by
  have hpart : SymbolIndex.shop.IsPart SymbolIndex.market :=
    SymbolIndex.isPart_insertAll SymbolIndex.memoryOrigin _ SymbolIndex.stalls
  have hlisted : ∀ name ∈ ["Price", "org.shop.Money"], SymbolIndex.shop.lists name = true := by
    decide +kernel
  have hforeign : ∀ name ∈ ["org.shop.Range", "org.shop.Color"],
      ¬ SymbolIndex.shop.lists name = true := by
    decide +kernel
  obtain ⟨report, hprocess, hartifacts, hempty, hfailures, _, _⟩ := SymbolIndex.process_market
  rcases process_isolated SymbolIndex.reachable_market hpart .default with
    ⟨_, _, _, hp⟩ | ⟨found, hp, hshop⟩
  · rw [hprocess] at hp
    cases hp
  · rw [hprocess] at hp
    cases hp
    refine ⟨report, hprocess, hartifacts, ?_, ?_, hshop, ?_, ?_, ?_⟩
    · intro h
      simp [h] at hfailures
    · simp [hempty]
    · refine List.filter_eq_self.2 fun artifact ha => hlisted _ ?_
      rw [← hartifacts]
      exact List.mem_map_of_mem ha
    · refine List.filter_eq_nil_iff.2 fun failed hf => hforeign _ ?_
      have hname := List.mem_map_of_mem (f := DeclarationFailure.declaration) hf
      rw [hfailures, List.mem_singleton] at hname
      rw [hname]
      exact List.mem_cons_self ..
    · simpa [Report.restrict, hempty] using hforeign "org.shop.Color" (by simp)

end ConverterBuilders
