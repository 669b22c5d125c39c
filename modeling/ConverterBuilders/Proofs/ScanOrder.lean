import ConverterBuilders.Proofs.IndexInvariant
import ConverterBuilders.Proofs.MapEntries
import ConverterBuilders.Report

/-!
# Scans of an index

A scan takes each symbol once and sorts the converters by name.  Classes are told apart by their names, so
if converters have the names of their classes, as those of an index have, their names ascend strictly.

Main statements:

* `ascending_dropRepeats`: sorted symbols without repetitions strictly ascend;
* `distinct_ascending`, `mem_distinct`, `distinct_congr`: each symbol once, in order;
* `mem_valid`, `mem_deferred`, `mem_ignored`: what is found among the annotated symbols;
* `valid_perm`, `valid_sorted`: each converter that was resolved, in the order of the names;
* `valid_ascending`: converters with the names of their symbols in strict order;
* `WellFormed.mem_annotated`, `WellFormed.keepsNames`: the symbols of an index.
-/

namespace ConverterBuilders

namespace Scan

theorem mem_dropRepeats {symbols : List Symbol} {symbol : Symbol} :
    symbol ∈ dropRepeats symbols ↔ symbol ∈ symbols := by
  fun_induction dropRepeats symbols with
  | case1 => rfl
  | case2 => rfl
  | case3 next rest ih => simp [ih]
  | case4 first next rest _ ih => simp [ih]

/-- **What is in order strictly ascends without repetitions.** -/
theorem ascending_dropRepeats {symbols : List Symbol}
    (h : symbols.Pairwise fun a b => (compare a b).isLE = true) :
    (dropRepeats symbols).Pairwise fun a b => compare a b = .lt := by
  fun_induction dropRepeats symbols with
  | case1 => exact .nil
  | case2 symbol => exact List.pairwise_singleton _ symbol
  | case3 next rest ih => exact ih (List.pairwise_cons.1 h).2
  | case4 first next rest hne ih =>
    obtain ⟨hfirst, hrest⟩ := List.pairwise_cons.1 h
    have hlt : compare first next = .lt := by
      have hle := hfirst next (List.mem_cons_self ..)
      cases hc : compare first next with
      | lt => rfl
      | eq => exact absurd (Std.LawfulEqOrd.eq_of_compare hc) hne
      | gt => simp [hc] at hle
    refine List.pairwise_cons.2 ⟨fun other ho => ?_, ih hrest⟩
    rcases List.mem_cons.1 (mem_dropRepeats.1 ho) with rfl | ho
    · exact hlt
    · exact Std.TransCmp.lt_of_lt_of_isLE hlt ((List.pairwise_cons.1 hrest).1 other ho)

theorem mem_distinct {symbols : List Symbol} {symbol : Symbol} :
    symbol ∈ distinct symbols ↔ symbol ∈ symbols := by
  rw [distinct, mem_dropRepeats, List.mem_mergeSort]

/-- Each symbol once, in order. -/
theorem distinct_ascending (symbols : List Symbol) :
    (distinct symbols).Pairwise fun a b => compare a b = .lt := by
  refine ascending_dropRepeats (List.pairwise_mergeSort ?_ ?_ symbols)
  · intro a b c hab hbc
    exact Std.TransCmp.isLE_trans hab hbc
  · intro a b
    have hswap : compare b a = (compare a b).swap := Std.OrientedCmp.eq_swap
    rw [hswap]
    cases compare a b <;> rfl

/-- The order and the repetitions of symbols do not count. -/
theorem distinct_congr {left right : List Symbol} (h : ∀ symbol, symbol ∈ left ↔ symbol ∈ right) :
    distinct left = distinct right := by
  refine OrderedMap.eq_of_ascending id (distinct_ascending left) (distinct_ascending right) fun symbol => ?_
  rw [mem_distinct, mem_distinct, h]

/-- What is found among symbols that strictly ascend already. -/
theorem distinct_of_ascending {symbols : List Symbol}
    (h : symbols.Pairwise fun a b => compare a b = .lt) : distinct symbols = symbols :=
  OrderedMap.eq_of_ascending id (distinct_ascending symbols) h fun _ => mem_distinct

theorem distinct_nodup (symbols : List Symbol) : (distinct symbols).Nodup := by
  refine (distinct_ascending symbols).imp fun {a b} h he => ?_
  have hself : compare b b = .eq := Std.ReflCmp.compare_self
  rw [he, hself] at h
  cases h

section Members

variable {resolver : Resolver} {annotationName : String}

/-- The annotated classes, each once. -/
def classes (resolver : Resolver) (annotationName : String) : List Symbol :=
  (distinct (resolver.annotated annotationName)).filter fun symbol => symbol.kind = .class

theorem mem_classes {symbol : Symbol} :
    symbol ∈ classes resolver annotationName ↔
      symbol ∈ resolver.annotated annotationName ∧ symbol.kind = .class := by
  simp [classes, mem_distinct]

theorem classes_nodup (resolver : Resolver) (annotationName : String) :
    (classes resolver annotationName).Nodup :=
  (distinct_nodup _).filter _

/-- The converters that are found are those that the classes stand for, one for each. -/
theorem valid_perm (resolver : Resolver) (annotationName : String) :
    (Scan.of resolver annotationName).valid.Perm
      ((classes resolver annotationName).filterMap resolver.resolve) :=
  List.mergeSort_perm _ inOrder

theorem mem_valid {converter : Converter} :
    converter ∈ (Scan.of resolver annotationName).valid ↔ ∃ symbol ∈ resolver.annotated annotationName,
      symbol.kind = .class ∧ resolver.resolve symbol = some converter := by
  rw [(valid_perm resolver annotationName).mem_iff, List.mem_filterMap]
  simp only [mem_classes, and_assoc]

theorem mem_deferred {symbol : Symbol} :
    symbol ∈ (Scan.of resolver annotationName).deferred ↔
      symbol ∈ resolver.annotated annotationName ∧ symbol.kind = .class ∧
        resolver.resolve symbol = none := by
  have hdeferred : (Scan.of resolver annotationName).deferred =
      (classes resolver annotationName).filter fun symbol => (resolver.resolve symbol).isNone := rfl
  rw [hdeferred, List.mem_filter, mem_classes, Option.isNone_iff_eq_none, and_assoc]

theorem mem_ignored {symbol : Symbol} :
    symbol ∈ (Scan.of resolver annotationName).ignored ↔
      symbol ∈ resolver.annotated annotationName ∧ symbol.kind ≠ .class := by
  have hignored : (Scan.of resolver annotationName).ignored =
      (distinct (resolver.annotated annotationName)).filter fun symbol => symbol.kind ≠ .class := rfl
  rw [hignored, List.mem_filter, mem_distinct, decide_eq_true_iff]

theorem deferred_ascending (resolver : Resolver) (annotationName : String) :
    (Scan.of resolver annotationName).deferred.Pairwise fun a b => compare a b = .lt :=
  ((distinct_ascending _).filter _).filter _

theorem ignored_ascending (resolver : Resolver) (annotationName : String) :
    (Scan.of resolver annotationName).ignored.Pairwise fun a b => compare a b = .lt :=
  (distinct_ascending _).filter _

end Members

theorem exists_of_mem_valid {resolver : Resolver} {annotationName : String} {converter : Converter}
    (h : converter ∈ (Scan.of resolver annotationName).valid) :
    ∃ symbol ∈ resolver.annotated annotationName, resolver.resolve symbol = some converter := by
  obtain ⟨symbol, hs, _, hr⟩ := mem_valid.1 h
  exact ⟨symbol, hs, hr⟩

/-- Converters are found in the order of their names. -/
theorem valid_sorted (resolver : Resolver) (annotationName : String) :
    (Scan.of resolver annotationName).valid.Pairwise fun a b => inOrder a b = true := by
  apply List.pairwise_mergeSort
  · intro a b c hab hbc
    exact Std.TransCmp.isLE_trans hab hbc
  · intro a b
    have hswap : compare b.qualifiedName a.qualifiedName =
        (compare a.qualifiedName b.qualifiedName).swap := Std.OrientedCmp.eq_swap
    unfold inOrder
    rw [hswap]
    cases compare a.qualifiedName b.qualifiedName <;> rfl

/-- A scan of symbols that are in order already. -/
theorem of_ascending {resolver : Resolver} {annotationName : String}
    (h : (resolver.annotated annotationName).Pairwise fun a b => compare a b = .lt) :
    Scan.of resolver annotationName = ofSymbols resolver (resolver.annotated annotationName) := by
  rw [Scan.of, distinct_of_ascending h]

/-- What is found if symbols and converters are in order already. -/
theorem valid_of_ascending {resolver : Resolver} {annotationName : String} {converters : List Converter}
    (hsymbols : (resolver.annotated annotationName).Pairwise fun a b => compare a b = .lt)
    (h : ((resolver.annotated annotationName).filter fun symbol => symbol.kind = .class).filterMap
      resolver.resolve = converters)
    (hs : converters.Pairwise fun a b => inOrder a b = true) :
    (Scan.of resolver annotationName).valid = converters := by
  rw [of_ascending hsymbols]
  exact (congrArg (fun found => found.mergeSort inOrder) h).trans (List.mergeSort_of_pairwise hs)

end Scan

/-- Whether annotated classes stand for converters of the same names. -/
def Resolver.KeepsNames (resolver : Resolver) (annotationName : String) : Prop :=
  ∀ symbol ∈ resolver.annotated annotationName, symbol.kind = .class →
    ∀ converter, resolver.resolve symbol = some converter →
      converter.qualifiedName = symbol.qualifiedName

namespace Scan

variable {resolver : Resolver} {annotationName : String}

/-- Classes are told apart by their names. -/
theorem classes_names_ne (resolver : Resolver) (annotationName : String) :
    (classes resolver annotationName).Pairwise fun a b => a.qualifiedName ≠ b.qualifiedName := by
  refine (List.Pairwise.and_mem.1 (classes_nodup resolver annotationName)).imp fun {a b} h he => ?_
  have hkind : a.kind = b.kind := (mem_classes.1 h.1).2.trans (mem_classes.1 h.2.1).2.symm
  cases a
  cases b
  cases he
  cases hkind
  exact h.2.2 rfl

theorem valid_names_nodup (h : resolver.KeepsNames annotationName) :
    ((Scan.of resolver annotationName).valid.map Converter.qualifiedName).Nodup := by
  refine ((valid_perm resolver annotationName).map Converter.qualifiedName).nodup_iff.2 ?_
  rw [List.Nodup, List.pairwise_map, List.pairwise_filterMap]
  refine (List.Pairwise.and_mem.1 (classes_names_ne resolver annotationName)).imp ?_
  intro a b hab c hc d hd he
  have ha := mem_classes.1 hab.1
  have hb := mem_classes.1 hab.2.1
  rw [h a ha.1 ha.2 c hc, h b hb.1 hb.2 d hd] at he
  exact hab.2.2 he

/-- **If classes stand for converters of the same names, the names of the converters that are found
ascend strictly.** -/
theorem valid_ascending (h : resolver.KeepsNames annotationName) :
    (Scan.of resolver annotationName).valid.Pairwise fun a b =>
      compare a.qualifiedName b.qualifiedName = .lt := by
  have hnames := List.pairwise_map.1 (valid_names_nodup h)
  refine ((valid_sorted resolver annotationName).and hnames).imp fun {a b} hab => ?_
  have hle : (compare a.qualifiedName b.qualifiedName).isLE = true := hab.1
  have hne : compare a.qualifiedName b.qualifiedName ≠ .eq := fun e =>
    hab.2 (Std.LawfulEqOrd.eq_of_compare e)
  cases hc : compare a.qualifiedName b.qualifiedName <;> simp_all

end Scan

namespace SymbolIndex

variable {index : SymbolIndex}

/-- The annotated symbols of an index are those of its annotated declarations. -/
theorem WellFormed.mem_annotated (hw : index.WellFormed) {annotationName : String} {symbol : Symbol} :
    symbol ∈ index.annotated annotationName ↔
      ∃ declaration, index.get? symbol.qualifiedName = some declaration ∧
        declaration.isAnnotatedWith annotationName = true ∧ declaration.kind = symbol.kind := by
  constructor
  · intro h
    obtain ⟨declaration, hm, rfl⟩ := List.mem_map.1 h
    obtain ⟨hv, ha⟩ := List.mem_filter.1 hm
    obtain ⟨entry, he, rfl⟩ := List.mem_map.1 hv
    refine ⟨entry.2, ?_, ha, rfl⟩
    show index.declarations.get? entry.2.qualifiedName = some entry.2
    rw [(hw entry he).1, OrderedMap.get?_eq_some_iff]
    exact he
  · rintro ⟨declaration, hd, ha, hk⟩
    have hentry := (OrderedMap.get?_eq_some_iff index.declarations).1 hd
    have hname : declaration.qualifiedName = symbol.qualifiedName := (hw _ hentry).1
    refine List.mem_map.2 ⟨declaration, List.mem_filter.2 ⟨List.mem_map_of_mem hentry, ha⟩, ?_⟩
    rw [hname, hk]

theorem WellFormed.keepsNames (hw : index.WellFormed) (annotationName : String) :
    index.resolver.KeepsNames annotationName :=
  fun _ _ _ _ h => hw.name_of_resolve h

/-- The converters of the small index in the order of their names. -/
def shopConverters : List Converter :=
  [markedClass "Price" "", markedClass "org.shop.Money" "org.shop"].filterMap converterOf

theorem valid_shop : (Report.scan shop.resolver .default).valid = shopConverters :=
  Scan.valid_of_ascending (by decide +kernel) (by with_unfolding_all rfl) (by decide +kernel)

end SymbolIndex

end ConverterBuilders
