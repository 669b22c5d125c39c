import ConverterBuilders.Proofs.Filling

/-!
# How a report shares out the annotated symbols

A scan sends each annotated symbol one way: to the ignored ones, to the deferred ones or to a converter.
Each converter goes on to one list of the report, as its outcome tells.  No step changes the order, so each
list is in the order of the names.

Main statements:

* `sharesOut_ofOutcomes`, `SharesOut.ofOutcomes_eq`: each converter goes to one list, and that is the report;
* `SharesOut.artifacts_sublist`, `empty_sublist`, `failures_sublist`: each list keeps the order;
* `SharesOut.filter`: some of the converters go where they go among all;
* `partitions_of_process`: a report accounts for each annotated symbol once;
* `process_of_same_symbols`: the order and the repetitions of the symbols do not count;
* `process_of_parallel`: nor does it count whether converters are taken in parallel;
* `process_partitions`: what a report is, and what it does not hang on.
-/

namespace ConverterBuilders

namespace Report

/-! ## Converters -/

/-- How converters are shared out, one after the other, among artifacts, names without builder functions and
failures. -/
inductive SharesOut (resolver : Resolver) (configuration : Configuration) :
    List Converter → List Artifact → List String → List DeclarationFailure → Prop
  | nil : SharesOut resolver configuration [] [] [] []
  | artifact {converter : Converter} {converters : List Converter} {artifact : Artifact}
    {artifacts : List Artifact} {empty : List String} {failures : List DeclarationFailure}
    (h : generate resolver configuration converter = .ok (some artifact))
    (rest : SharesOut resolver configuration converters artifacts empty failures) :
    SharesOut resolver configuration (converter :: converters) (artifact :: artifacts) empty failures
  | empty {converter : Converter} {converters : List Converter} {artifacts : List Artifact}
    {empty : List String} {failures : List DeclarationFailure}
    (h : generate resolver configuration converter = .ok none)
    (rest : SharesOut resolver configuration converters artifacts empty failures) :
    SharesOut resolver configuration (converter :: converters) artifacts
      (converter.qualifiedName :: empty) failures
  | failure {converter : Converter} {converters : List Converter} {fault : RequestError}
    {artifacts : List Artifact} {empty : List String} {failures : List DeclarationFailure}
    (h : generate resolver configuration converter = .error fault)
    (rest : SharesOut resolver configuration converters artifacts empty failures) :
    SharesOut resolver configuration (converter :: converters) artifacts empty
      (⟨converter.qualifiedName, fault⟩ :: failures)

/-- **Each converter goes to one list of the report.** -/
theorem sharesOut_ofOutcomes (resolver : Resolver) (configuration : Configuration) (found : Scan)
    (converters : List Converter) :
    SharesOut resolver configuration converters
      (ofOutcomes found (outcomes resolver configuration converters)).artifacts
      (ofOutcomes found (outcomes resolver configuration converters)).empty
      (ofOutcomes found (outcomes resolver configuration converters)).failures := by
  rw [outcomes_eq]
  induction converters with
  | nil => exact .nil
  | cons converter rest ih =>
    simp only [ofOutcomes, List.map_cons] at ih ⊢
    cases hg : generate resolver configuration converter with
    | error fault => exact .failure hg ih
    | ok artifact? =>
      cases artifact? with
      | none => exact .empty hg ih
      | some artifact => exact .artifact hg ih

namespace SharesOut

variable {resolver : Resolver} {configuration : Configuration} {converters : List Converter}
  {artifacts : List Artifact} {empty : List String} {failures : List DeclarationFailure}

/-- Artifacts keep the order of their converters. -/
theorem artifacts_sublist
    (h : SharesOut resolver configuration converters artifacts empty failures) :
    (artifacts.map Artifact.declaration).Sublist (converters.map Converter.qualifiedName) := by
  induction h with
  | nil => exact .slnil
  | artifact h _ ih =>
    rw [List.map_cons, List.map_cons, (isFor_of_generate h).declaration]
    exact ih.cons_cons _
  | empty _ _ ih => exact ih.cons _
  | failure _ _ ih => exact ih.cons _

theorem empty_sublist
    (h : SharesOut resolver configuration converters artifacts empty failures) :
    empty.Sublist (converters.map Converter.qualifiedName) := by
  induction h with
  | nil => exact .slnil
  | artifact _ _ ih => exact ih.cons _
  | empty _ _ ih => exact ih.cons_cons _
  | failure _ _ ih => exact ih.cons _

/-- Failures keep the order of their converters. -/
theorem failures_sublist
    (h : SharesOut resolver configuration converters artifacts empty failures) :
    (failures.map DeclarationFailure.declaration).Sublist
      (converters.map Converter.qualifiedName) := by
  induction h with
  | nil => exact .slnil
  | artifact _ _ ih => exact ih.cons _
  | empty _ _ ih => exact ih.cons _
  | failure _ _ ih => exact ih.cons_cons _

/-- How converters are shared out tells the report. -/
theorem ofOutcomes_eq
    (h : SharesOut resolver configuration converters artifacts empty failures) (found : Scan) :
    ofOutcomes found (outcomes resolver configuration converters) =
      ⟨artifacts, empty, failures, found.deferred, found.ignored, []⟩ := by
  rw [outcomes_eq]
  induction h with
  | nil => rfl
  | artifact h _ ih =>
    simp only [ofOutcomes, List.map_cons, h] at ih ⊢
    cases ih
    rfl
  | empty h _ ih =>
    simp only [ofOutcomes, List.map_cons, h] at ih ⊢
    cases ih
    rfl
  | failure h _ ih =>
    simp only [ofOutcomes, List.map_cons, h] at ih ⊢
    cases ih
    rfl

/-- Some of the converters are shared out as they are among all. -/
theorem filter (h : SharesOut resolver configuration converters artifacts empty failures)
    (keep : String → Bool) :
    SharesOut resolver configuration
      (converters.filter fun converter => keep converter.qualifiedName)
      (artifacts.filter fun artifact => keep artifact.declaration) (empty.filter keep)
      (failures.filter fun failed => keep failed.declaration) := by
  induction h with
  | nil => exact .nil
  | @artifact converter _ artifact _ _ _ h _ ih =>
    have hname := (isFor_of_generate h).declaration
    rw [List.filter_cons, List.filter_cons, hname]
    split
    · exact .artifact h ih
    · exact ih
  | empty h _ ih =>
    rw [List.filter_cons, List.filter_cons]
    split
    · exact .empty h ih
    · exact ih
  | failure h _ ih =>
    rw [List.filter_cons, List.filter_cons]
    split
    · exact .failure h ih
    · exact ih

end SharesOut

/-! ## Symbols -/

/-- Whether the names in the lists of a report are ordered in some way. -/
structure NamesOrdered (report : Report) (order : String → String → Prop) : Prop where
  artifacts : (report.artifacts.map Artifact.declaration).Pairwise order
  empty : report.empty.Pairwise order
  failures : (report.failures.map DeclarationFailure.declaration).Pairwise order

/-- Whether a report accounts for each annotated symbol once: those that are no classes are ignored, classes
that cannot be resolved are deferred, and the converters that the other classes stand for are shared out.
All lists are in order. -/
structure Partitions (report : Report) (resolver : Resolver) (configuration : Configuration) :
    Prop where
  ignored : ∀ symbol, symbol ∈ report.ignored ↔
    symbol ∈ resolver.annotated configuration.annotationName ∧ symbol.kind ≠ .class
  deferred : ∀ symbol, symbol ∈ report.deferred ↔
    symbol ∈ resolver.annotated configuration.annotationName ∧ symbol.kind = .class ∧
      resolver.resolve symbol = none
  shared : ∃ (classes : List Symbol) (converters : List Converter), classes.Nodup ∧
    (∀ symbol, symbol ∈ classes ↔
      symbol ∈ resolver.annotated configuration.annotationName ∧ symbol.kind = .class) ∧
    converters.Perm (classes.filterMap resolver.resolve) ∧
    SharesOut resolver configuration converters report.artifacts report.empty report.failures
  ignored_ascending : report.ignored.Pairwise fun a b => compare a b = .lt
  deferred_ascending : report.deferred.Pairwise fun a b => compare a b = .lt
  sorted : report.NamesOrdered fun a b => (compare a b).isLE = true
  ascending : resolver.KeepsNames configuration.annotationName →
    report.NamesOrdered fun a b => compare a b = .lt

theorem SharesOut.namesOrdered {resolver : Resolver} {configuration : Configuration}
    {converters : List Converter} {report : Report}
    (h : SharesOut resolver configuration converters report.artifacts report.empty report.failures)
    {order : String → String → Prop}
    (ho : converters.Pairwise fun a b => order a.qualifiedName b.qualifiedName) :
    report.NamesOrdered order := by
  have hnames := List.pairwise_map.2 ho
  exact ⟨hnames.sublist h.artifacts_sublist, hnames.sublist h.empty_sublist,
    hnames.sublist h.failures_sublist⟩

variable {resolver : Resolver} {configuration : Configuration}

/-- **A report accounts for each annotated symbol once.** -/
theorem partitions_of_process {report : Report} (h : process resolver configuration = .ok report) :
    report.Partitions resolver configuration := by
  rw [(eq_of_process h).2]
  have hshared := sharesOut_ofOutcomes resolver configuration (scan resolver configuration)
    (scan resolver configuration).valid
  exact
    { ignored := fun _ => Scan.mem_ignored
      deferred := fun _ => Scan.mem_deferred
      shared := ⟨_, _, Scan.classes_nodup resolver configuration.annotationName,
        fun _ => Scan.mem_classes, Scan.valid_perm _ _, hshared⟩
      ignored_ascending := Scan.ignored_ascending resolver _
      deferred_ascending := Scan.deferred_ascending resolver _
      sorted := hshared.namesOrdered (Scan.valid_sorted _ _)
      ascending := fun hnames => hshared.namesOrdered (Scan.valid_ascending hnames) }

/-- **The order and the repetitions of the annotated symbols do not count.** -/
theorem process_of_same_symbols {annotated : String → List Symbol}
    (h : ∀ symbol, symbol ∈ annotated configuration.annotationName ↔
      symbol ∈ resolver.annotated configuration.annotationName) :
    process { resolver with annotated := annotated } configuration =
      process resolver configuration := by
  have hscan : scan { resolver with annotated := annotated } configuration =
      scan resolver configuration :=
    congrArg (Scan.ofSymbols resolver) (Scan.distinct_congr h)
  exact process_congr hscan fun _ _ => rfl

/-- Taking converters in parallel gives the same report as taking them one after the other. -/
theorem process_of_parallel (resolver : Resolver) (configuration : Configuration) (parallel : Bool) :
    process resolver { configuration with parallel := parallel } = process resolver configuration := by
  simp only [process, outcomes_eq]
  rfl

end Report

/-! ## A market -/

namespace SymbolIndex

/-- A class in the package of the shop that asks for builder functions of some types. -/
def askingClass (qualifiedName : String) (types : List String) : Declaration :=
  { markedClass qualifiedName "org.shop" with
    annotations := [⟨Configuration.default.annotationName,
      OrderedMap.ofList [("name", .text "amount"), ("types", .list (types.map .text))]⟩] }

/-- What the market has beside the shop: a class with nothing to generate, one that asks for a list in
choice form, one that is not resolved yet and an interface. -/
def stalls : List Declaration :=
  [askingClass "org.shop.Color" ["CHOICE"], askingClass "org.shop.Range" ["LIST", "CHOICE"],
    { markedClass "org.shop.Later" "org.shop" with supertypes := [⟨"SingleConverter", none, []⟩] },
    { markedClass "org.shop.Shape" "org.shop" with kind := .interface }]

/-- The shop with more declarations beside it, of each kind that a scan tells apart. -/
def market : SymbolIndex := (insertAll memoryOrigin shop stalls).1

theorem reachable_market : market.Reachable := by
  have h : SymbolIndex.ofDeclarations
      ([markedClass "org.shop.Money" "org.shop", markedClass "Price" ""] ++ stalls) = .ok market := by
    with_unfolding_all rfl
  exact .ofDeclarations h

/-- The converters of the market in the order of their names. -/
def marketConverters : List Converter :=
  [markedClass "Price" "", askingClass "org.shop.Color" ["CHOICE"],
    markedClass "org.shop.Money" "org.shop",
    askingClass "org.shop.Range" ["LIST", "CHOICE"]].filterMap converterOf

theorem valid_market : (Report.scan market.resolver .default).valid = marketConverters :=
  Scan.valid_of_ascending (by decide +kernel) (by with_unfolding_all rfl) (by decide +kernel)

/-- What comes out for the market, by the names. -/
theorem process_market :
    ∃ report, Report.process market.resolver .default = .ok report ∧
      report.artifacts.map Artifact.declaration = ["Price", "org.shop.Money"] ∧
      report.empty = ["org.shop.Color"] ∧
      report.failures.map DeclarationFailure.declaration = ["org.shop.Range"] ∧
      report.deferred = [⟨"org.shop.Later", .class⟩] ∧
      report.ignored = [⟨"org.shop.Shape", .interface⟩] := by
  have hprocess := Report.process_of_valid valid_market (by decide +kernel)
  rw [Report.scan, Scan.of_ascending (by decide +kernel)] at hprocess
  exact ⟨_, hprocess, by decide +kernel⟩

end SymbolIndex

/-! ## Reports -/

/-- **A report is an ordered partition of the annotated symbols.**  Whatever a resolver answers, and whether
converters are taken in parallel or not, a report ignores the annotated symbols that are no classes, defers
the classes that cannot be resolved, and shares the converters of the others out among artifacts, names
without builder functions and failures, one entry for each.  Ignored and deferred symbols ascend strictly,
the other lists by name, and strictly if converters have the names of their classes, as those of an index
have.  The result, also a collision, is the same for the same symbols in another order or with other
repetitions. -/
theorem process_partitions (resolver : Resolver) (configuration : Configuration) :
    (∀ report, Report.process resolver configuration = .ok report →
      report.Partitions resolver configuration) ∧
    (∀ index : SymbolIndex, index.Reachable →
      index.resolver.KeepsNames configuration.annotationName) ∧
    ∀ annotated : String → List Symbol,
      (∀ symbol, symbol ∈ annotated configuration.annotationName ↔
        symbol ∈ resolver.annotated configuration.annotationName) →
      Report.process { resolver with annotated := annotated } configuration =
        Report.process resolver configuration :=
  ⟨fun _ h => Report.partitions_of_process h, fun _ hi => hi.wellFormed.keepsNames _,
    fun _ h => Report.process_of_same_symbols h⟩

/-- A report over the market has something in each of its lists, and it is the same if the symbols come
the other way round and twice. -/
theorem process_partitions_market :
    ∃ report, Report.process SymbolIndex.market.resolver .default = .ok report ∧
      report.Partitions SymbolIndex.market.resolver .default ∧
      report.NamesOrdered (fun a b => compare a b = .lt) ∧
      report.artifacts.map Artifact.declaration = ["Price", "org.shop.Money"] ∧
      report.empty = ["org.shop.Color"] ∧
      report.failures.map DeclarationFailure.declaration = ["org.shop.Range"] ∧
      report.deferred = [⟨"org.shop.Later", .class⟩] ∧
      report.ignored = [⟨"org.shop.Shape", .interface⟩] ∧
      Report.process { SymbolIndex.market.resolver with
        annotated := fun name => (SymbolIndex.market.annotated name).reverse ++
          SymbolIndex.market.annotated name } .default = .ok report := by
  obtain ⟨report, hprocess, hartifacts, hempty, hfailures, hdeferred, hignored⟩ :=
    SymbolIndex.process_market
  obtain ⟨hpartitions, hnames, hsame⟩ :=
    process_partitions SymbolIndex.market.resolver .default
  have hreport := hpartitions _ hprocess
  refine ⟨report, hprocess, hreport, hreport.ascending (hnames _ SymbolIndex.reachable_market),
    hartifacts, hempty, hfailures, hdeferred, hignored, ?_⟩
  rw [hsame _ (by simp [SymbolIndex.resolver]), hprocess]

end ConverterBuilders
