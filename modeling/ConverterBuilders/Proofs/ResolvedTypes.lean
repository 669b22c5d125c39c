import ConverterBuilders.Proofs.Agreement
import ConverterBuilders.Proofs.Extraction
import ConverterBuilders.Proofs.Partition
import ConverterBuilders.Proofs.Planning

/-!
# Types that an index resolves

An index resolves a class if every type in its supertypes is known by its qualified name, at every depth.
A class that is not resolved is deferred.  So what a run over an index takes for a converter is annotated,
and the type of its values is known: no converter fails because one of these is missing.

Main statements:

* `TypeReference.isFullyResolved_iff_parts`: a type is resolved if all its parts are;
* `SymbolIndex.exists_resolve_iff`: which symbols an index resolves;
* `Report.fault_cases`: where the fault of a converter comes from;
* `index_resolves`: what runs over an index never report, and what they take for the type of the values.
-/

namespace ConverterBuilders

/-! ## Parts of types -/

namespace TypeReference

/-- Whether a reference is a type itself or stands among its arguments at some depth. -/
inductive IsPartOf : TypeReference → TypeReference → Prop
  | whole (type : TypeReference) : IsPartOf type type
  | argument {part argument type : TypeReference} (hm : argument ∈ type.arguments)
    (h : IsPartOf part argument) : IsPartOf part type

theorem IsPartOf.isResolved {part type : TypeReference} (h : part.IsPartOf type)
    (ht : type.isFullyResolved = true) : part.isResolved = true := by
  induction h with
  | whole => exact ((isFullyResolved_iff part).1 ht).1
  | @argument argument type hm _ ih => exact ih (((isFullyResolved_iff type).1 ht).2 argument hm)

mutual

theorem isFullyResolved_of_parts : (type : TypeReference) →
    (∀ part : TypeReference, part.IsPartOf type → part.isResolved = true) → type.isFullyResolved = true
  | ⟨_, _, arguments⟩, h =>
    (isFullyResolved_iff _).2 ⟨h _ (.whole _), allFullyResolved_of_parts arguments
      fun _ hm part hp => h part (.argument hm hp)⟩

theorem allFullyResolved_of_parts : (types : List TypeReference) →
    (∀ type ∈ types, ∀ part : TypeReference, part.IsPartOf type → part.isResolved = true) →
      ∀ type ∈ types, type.isFullyResolved = true
  | [], _ => by simp
  | type :: types, h => by
    rw [List.forall_mem_cons] at h ⊢
    exact ⟨isFullyResolved_of_parts type h.1, allFullyResolved_of_parts types h.2⟩

end

/-- **A type is resolved at every depth if each of its parts is known by its qualified name.** -/
theorem isFullyResolved_iff_parts {type : TypeReference} :
    type.isFullyResolved = true ↔
      ∀ part : TypeReference, part.IsPartOf type → ∃ qualifiedName, part.qualifiedName? = some qualifiedName := by
  simp only [← Option.isSome_iff_exists]
  exact ⟨fun ht _ h => h.isResolved ht, isFullyResolved_of_parts type⟩

end TypeReference

/-! ## Resolved declarations -/

/-- Whether every type in the supertypes is known by its qualified name, at every depth. -/
def Declaration.IsResolved (declaration : Declaration) : Prop :=
  ∀ supertype ∈ declaration.supertypes, ∀ part : TypeReference, part.IsPartOf supertype →
    ∃ qualifiedName, part.qualifiedName? = some qualifiedName

namespace SymbolIndex

theorem exists_converterOf_iff {declaration : Declaration} :
    (∃ converter, converterOf declaration = some converter) ↔ declaration.IsResolved := by
  unfold converterOf Declaration.IsResolved
  simp only [← TypeReference.isFullyResolved_iff_parts, ← List.all_eq_true]
  split
  · rename_i h
    exact iff_of_true ⟨_, rfl⟩ h
  · rename_i h
    exact iff_of_false nofun h

/-- **An index resolves the symbols of the declarations whose types it knows.** -/
theorem exists_resolve_iff {index : SymbolIndex} {symbol : Symbol} :
    (∃ converter, index.resolver.resolve symbol = some converter) ↔
      ∃ declaration, index.get? symbol.qualifiedName = some declaration ∧ declaration.IsResolved := by
  simp only [← exists_converterOf_iff]
  constructor
  · rintro ⟨converter, h⟩
    obtain ⟨declaration, hd, hc⟩ := Option.bind_eq_some_iff.1 h
    exact ⟨declaration, hd, converter, hc⟩
  · rintro ⟨declaration, hd, converter, hc⟩
    exact ⟨converter, Option.bind_eq_some_iff.2 ⟨declaration, hd, hc⟩⟩

/-- All types in the supertypes of a converter are known. -/
theorem supertypes_of_resolve {index : SymbolIndex} {symbol : Symbol} {converter : Converter}
    (h : index.resolver.resolve symbol = some converter) :
    ∀ supertype ∈ converter.supertypes, supertype.isFullyResolved = true := by
  obtain ⟨declaration, hd, hresolved⟩ := exists_resolve_iff.1 ⟨converter, h⟩
  obtain ⟨found, hf, rfl⟩ := exists_of_resolve h
  obtain rfl := Option.some.inj (hd.symm.trans hf)
  exact fun supertype hm => TypeReference.isFullyResolved_iff_parts.2 (hresolved supertype hm)

/-- The type of the values of a converter is an argument of its first supertype, and it is known at every
depth. -/
theorem isFullyResolved_firstValueType {index : SymbolIndex} {symbol : Symbol} {converter : Converter}
    (h : index.resolver.resolve symbol = some converter) {type : TypeReference}
    (ht : converter.firstValueType = some type) :
    type.isFullyResolved = true ∧ ∃ supertype supertypes arguments,
      converter.supertypes = supertype :: supertypes ∧ supertype.arguments = type :: arguments := by
  obtain ⟨supertype, hs, ha⟩ := Option.bind_eq_some_iff.1 ht
  obtain ⟨supertypes, hsupertypes⟩ := List.head?_eq_some_iff.1 hs
  obtain ⟨arguments, harguments⟩ := List.head?_eq_some_iff.1 ha
  have hm : supertype ∈ converter.supertypes := List.mem_of_mem_head? hs
  have hresolved := (TypeReference.isFullyResolved_iff supertype).1 (supertypes_of_resolve h supertype hm)
  exact ⟨hresolved.2 type (List.mem_of_mem_head? ha), supertype, supertypes, arguments, hsupertypes,
    harguments⟩

/-- What is annotated in an index has arguments of its annotation. -/
theorem WellFormed.exists_arguments {index : SymbolIndex} (hw : index.WellFormed) {annotationName : String}
    {symbol : Symbol} (hs : symbol ∈ index.annotated annotationName) {converter : Converter}
    (hr : index.resolver.resolve symbol = some converter) :
    ∃ arguments, index.arguments converter annotationName = some arguments := by
  obtain ⟨declaration, hd, ha, -⟩ := hw.mem_annotated.1 hs
  obtain ⟨entry, hentry⟩ := Option.isSome_iff_exists.1 (List.find?_isSome.2 (List.any_eq_true.1 ha))
  refine ⟨entry.arguments, ?_⟩
  simp only [arguments, hw.name_of_resolve hr, hd, hentry, Option.bind_eq_bind, Option.bind_some]

end SymbolIndex

/-! ## Faults of converters -/

theorem Artifact.fault_of_ofPlan {request : Request} {profile : Profile} {plan : List Planned}
    {fault : RequestError} (h : ofPlan request profile plan = .error fault) :
    fault = listChoiceConflict := by
  rcases bind_eq_error_iff.1 h with hemit | ⟨emitted, -, h⟩
  · exact (functionsOf_eq_error_iff.1 (emit_eq_error_iff.1 hemit)).1
  · split at h <;> cases h

theorem Outcome.eq_error {outcome : Outcome} {fault : RequestError} (h : outcome.fault? = some fault) :
    outcome = .error fault := by
  cases outcome with
  | error other => rw [Option.some.inj h]
  | ok artifact? => cases h

namespace Report

variable {resolver : Resolver} {configuration : Configuration} {converter : Converter}

/-- A converter fails for the first fault of its annotation or for a list in choice form. -/
theorem fault_cases {fault : RequestError} (h : generate resolver configuration converter = .error fault) :
    Request.FirstFault resolver configuration.annotationName converter fault ∨
      fault = listChoiceConflict := by
  rcases bind_eq_error_iff.1 h with hrequest | ⟨request, -, h⟩
  · exact .inl (((Request.settles_ofConverter _ _ _).error_iff fault).1 hrequest)
  · rcases bind_eq_error_iff.1 h with hplan | ⟨plan, -, hartifact⟩
    · exact .inr ((Plan.ofRequest_eq_error_iff.1 hplan).1)
    · exact .inr (Artifact.fault_of_ofPlan hartifact)

/-- A failure is that of a converter. -/
theorem exists_of_mem_failures {found : Scan} {converters : List Converter} {failed : DeclarationFailure}
    (h : failed ∈ (ofOutcomes found (outcomes resolver configuration converters)).failures) :
    ∃ converter ∈ converters, generate resolver configuration converter = .error failed.fault := by
  obtain ⟨outcome, ho, hf⟩ := List.mem_filterMap.1 h
  rw [outcomes_eq] at ho
  obtain ⟨converter, hc, rfl⟩ := List.mem_map.1 ho
  obtain ⟨fault, hfault, rfl⟩ := Option.map_eq_some_iff.1 hf
  exact ⟨converter, hc, Outcome.eq_error hfault⟩

end Report

/-- The fault that a summary shows is that of a converter. -/
theorem Summary.exists_of_mem_inspect {resolver : Resolver} {configuration : Configuration}
    {summaries : List Summary} (h : inspect resolver configuration = .ok summaries) {summary : Summary}
    (hm : summary ∈ summaries) {fault : RequestError} (hf : summary.fault? = some fault) :
    ∃ converter ∈ (Report.scan resolver configuration).valid,
      Report.generate resolver configuration converter = .error fault := by
  rcases Report.process_cases resolver configuration with ⟨_, _, _, -, hcollision⟩ | ⟨-, -, hinspect⟩
  · rw [hcollision] at h
    cases h
  · rw [hinspect] at h
    rw [← Except.ok.inj h] at hm
    obtain ⟨converter, hc, rfl⟩ := List.mem_map.1 hm
    rw [(agreesWith_generate resolver configuration converter).fault?_eq] at hf
    exact ⟨converter, hc, Outcome.eq_error hf⟩

/-! ## Runs over an index -/

/-- Whether a fault says that a converter is not annotated or that the type of its values is unknown. -/
inductive RequestError.IsOfResolution : RequestError → Prop
  | notAnnotated (annotationName : String) : IsOfResolution (.notAnnotated annotationName)
  | unresolvedValueType (name : String) : IsOfResolution (.unresolvedValueType name)

section Arguments

variable {value? : Option AnnotationValue} {fault : RequestError}

theorem NameFault.not_isOfResolution (h : NameFault value? fault) : ¬ fault.IsOfResolution := by
  intro hresolution
  cases h <;> cases hresolution

theorem TypesFault.not_isOfResolution (h : TypesFault value? fault) : ¬ fault.IsOfResolution := by
  intro hresolution
  cases h <;> cases hresolution

theorem ImportsFault.not_isOfResolution (h : ImportsFault value? fault) : ¬ fault.IsOfResolution := by
  intro hresolution
  cases h <;> cases hresolution

end Arguments

namespace SymbolIndex

variable {index : SymbolIndex} {configuration : Configuration}

/-- **No converter of an index fails because something is missing from the index.** -/
theorem WellFormed.not_isOfResolution (hw : index.WellFormed) {converter : Converter}
    (hc : converter ∈ (Report.scan index.resolver configuration).valid) {fault : RequestError}
    (h : Report.generate index.resolver configuration converter = .error fault) :
    ¬ fault.IsOfResolution := by
  obtain ⟨symbol, hs, hr⟩ := Scan.exists_of_mem_valid hc
  obtain ⟨arguments, harguments⟩ := hw.exists_arguments hs hr
  rcases Report.fault_cases h with hfirst | rfl
  · cases hfirst with
    | notAnnotated ha =>
      rw [show index.arguments converter configuration.annotationName = none from ha] at harguments
      cases harguments
    | name _ hf => exact hf.not_isOfResolution
    | types _ _ hf => exact hf.not_isOfResolution
    | imports _ _ _ hf => exact hf.not_isOfResolution
    | valueType _ _ _ _ hf =>
      generalize htype : index.resolver.valueType converter = type? at hf
      cases hf with
      | noSupertype =>
        intro hresolution
        cases hresolution
      | unresolved hq =>
        have hresolved := (isFullyResolved_firstValueType hr htype).1
        rw [TypeReference.isFullyResolved_iff, TypeReference.isResolved, hq] at hresolved
        cases hresolved.1
  · intro hresolution
    cases hresolution

/-- The class of a declaration that is not resolved. -/
theorem resolve_eq_none {declaration : Declaration}
    (hd : index.get? declaration.qualifiedName = some declaration) (hno : ¬ declaration.IsResolved)
    (kind : Kind) : index.resolver.resolve ⟨declaration.qualifiedName, kind⟩ = none := by
  rw [Option.eq_none_iff_forall_ne_some]
  intro converter hr
  obtain ⟨found, hf, hresolved⟩ := exists_resolve_iff.1 ⟨converter, hr⟩
  obtain rfl := Option.some.inj (hd.symm.trans hf)
  exact hno hresolved

/-- No converter has the name of a declaration that is not resolved. -/
theorem WellFormed.name_ne_of_mem_valid (hw : index.WellFormed) {declaration : Declaration}
    (hd : index.get? declaration.qualifiedName = some declaration) (hno : ¬ declaration.IsResolved) :
    declaration.qualifiedName ∉
      (Report.scan index.resolver configuration).valid.map Converter.qualifiedName := by
  intro hm
  obtain ⟨converter, hc, hname⟩ := List.mem_map.1 hm
  obtain ⟨symbol, -, hr⟩ := Scan.exists_of_mem_valid hc
  have hsymbol : symbol = ⟨declaration.qualifiedName, symbol.kind⟩ := by
    rw [← hname, hw.name_of_resolve hr]
  rw [hsymbol, resolve_eq_none hd hno] at hr
  cases hr

/-- What an index holds stands under its own name. -/
theorem WellFormed.get?_of_mem (hw : index.WellFormed) {declaration : Declaration}
    (hm : declaration ∈ index.declarations.values) :
    index.get? declaration.qualifiedName = some declaration := by
  obtain ⟨entry, he, rfl⟩ := List.mem_map.1 hm
  show index.declarations.get? entry.2.qualifiedName = some entry.2
  rw [(hw entry he).1, OrderedMap.get?_eq_some_iff]
  exact he

end SymbolIndex

/-- Whether a report defers a class and has it in no other list. -/
structure Report.Defers (report : Report) (declaration : Declaration) : Prop where
  deferred : ⟨declaration.qualifiedName, .class⟩ ∈ report.deferred
  artifacts : declaration.qualifiedName ∉ report.artifacts.map Artifact.declaration
  empty : declaration.qualifiedName ∉ report.empty
  failures : declaration.qualifiedName ∉ report.failures.map DeclarationFailure.declaration
  ignored : declaration.qualifiedName ∉ report.ignored.map Symbol.qualifiedName

/-- **A class of an index that is not resolved is deferred.** -/
theorem SymbolIndex.WellFormed.defers {index : SymbolIndex} (hw : index.WellFormed)
    {configuration : Configuration} {report : Report}
    (h : Report.process index.resolver configuration = .ok report) {declaration : Declaration}
    (hm : declaration ∈ index.declarations.values) (hk : declaration.kind = .class)
    (ha : declaration.isAnnotatedWith configuration.annotationName = true)
    (hno : ¬ declaration.IsResolved) : report.Defers declaration := by
  have hd := hw.get?_of_mem hm
  have hname : declaration.qualifiedName ∉
      (Report.scan index.resolver configuration).valid.map Converter.qualifiedName :=
    hw.name_ne_of_mem_valid hd hno
  have hreport := (Report.eq_of_process h).2
  have hshared := Report.sharesOut_ofOutcomes index.resolver configuration
    (Report.scan index.resolver configuration) (Report.scan index.resolver configuration).valid
  rw [hreport]
  refine ⟨?_, fun hin => hname (hshared.artifacts_sublist.subset hin),
    fun hin => hname (hshared.empty_sublist.subset hin),
    fun hin => hname (hshared.failures_sublist.subset hin), fun hin => ?_⟩
  · have hannotated : ⟨declaration.qualifiedName, .class⟩ ∈
        index.resolver.annotated configuration.annotationName :=
      hw.mem_annotated.2 ⟨declaration, hd, ha, hk⟩
    exact Scan.mem_deferred.2 ⟨hannotated, rfl, resolve_eq_none hd hno _⟩
  · obtain ⟨symbol, hs, hsymbol⟩ := List.mem_map.1 hin
    obtain ⟨hannotated, hkind⟩ := Scan.mem_ignored.1 hs
    obtain ⟨found, hf, -, hfound⟩ := hw.mem_annotated.1 hannotated
    rw [hsymbol, hd] at hf
    rw [← hfound, ← Option.some.inj hf] at hkind
    exact hkind hk

/-- Whether the type of the values of a request is known at every depth, and where it comes from. -/
structure Request.KnowsValueType (request : Request) (converter : Converter) : Prop where
  imported : request.valueType.qualifiedName? = some request.valueTypeImport
  parts : ∀ part : TypeReference, part.IsPartOf request.valueType →
    ∃ qualifiedName, part.qualifiedName? = some qualifiedName
  first : ∃ supertype supertypes arguments, converter.supertypes = supertype :: supertypes ∧
    supertype.arguments = request.valueType :: arguments

theorem SymbolIndex.knowsValueType {index : SymbolIndex} {configuration : Configuration}
    {converter : Converter} (hc : converter ∈ (Report.scan index.resolver configuration).valid)
    {annotationName : String} {request : Request}
    (h : Request.ofConverter index.resolver annotationName converter = .ok request) :
    request.KnowsValueType converter := by
  obtain ⟨symbol, -, hr⟩ := Scan.exists_of_mem_valid hc
  obtain ⟨_, _, hreflects⟩ :=
    (((Request.settles_ofConverter _ _ _).ok_iff request).1 h).reflects
  obtain ⟨hresolved, hfirst⟩ := isFullyResolved_firstValueType hr hreflects.valueType.1
  have hparts := TypeReference.isFullyResolved_iff_parts.1 hresolved
  obtain ⟨qualifiedName, hq⟩ := hparts _ (.whole _)
  exact ⟨by rw [Request.valueTypeImport, hq, Option.getD_some], hparts, hfirst⟩

/-- **Runs over an index never miss an annotation or the type of the values.**  An index resolves the
symbols of the declarations whose types are known at every depth.  No failure of a report and no fault of a
summary says that a converter is not annotated or that the type of its values is unknown; a class that is not
resolved is deferred and nothing else; and the type of the values of a request is the first argument of the
first supertype and known at every depth. -/
theorem index_resolves {index : SymbolIndex} (hi : index.Reachable) :
    (∀ symbol, (∃ converter, index.resolver.resolve symbol = some converter) ↔
      ∃ declaration, index.get? symbol.qualifiedName = some declaration ∧ declaration.IsResolved) ∧
    (∀ configuration report, Report.process index.resolver configuration = .ok report →
      (∀ failed ∈ report.failures, ¬ failed.fault.IsOfResolution) ∧
      ∀ declaration ∈ index.declarations.values, declaration.kind = .class →
        declaration.isAnnotatedWith configuration.annotationName = true →
        ¬ declaration.IsResolved → report.Defers declaration) ∧
    (∀ configuration summaries, Summary.inspect index.resolver configuration = .ok summaries →
      ∀ summary ∈ summaries, ∀ fault, summary.fault? = some fault → ¬ fault.IsOfResolution) ∧
    ∀ configuration, ∀ converter ∈ (Report.scan index.resolver configuration).valid,
      ∀ annotationName request, Request.ofConverter index.resolver annotationName converter = .ok request →
        request.KnowsValueType converter := by
  have hw := hi.wellFormed
  refine ⟨fun _ => SymbolIndex.exists_resolve_iff, fun configuration report h => ⟨?_, ?_⟩, ?_,
    fun _ _ hc _ _ h => SymbolIndex.knowsValueType hc h⟩
  · intro failed hm
    rw [(Report.eq_of_process h).2] at hm
    obtain ⟨converter, hc, hg⟩ := Report.exists_of_mem_failures hm
    exact hw.not_isOfResolution hc hg
  · exact fun declaration hm hk ha hno => hw.defers h hm hk ha hno
  · intro configuration summaries h summary hm fault hf
    obtain ⟨converter, hc, hg⟩ := Summary.exists_of_mem_inspect h hm hf
    exact hw.not_isOfResolution hc hg

/-- On the market one class waits for a type, and the converter that fails does so for what it asks. -/
theorem index_resolves_market :
    SymbolIndex.market.Reachable ∧
    SymbolIndex.market.resolver.resolve ⟨"org.shop.Later", .class⟩ = none ∧
    ∃ report, Report.process SymbolIndex.market.resolver .default = .ok report ∧
      report.failures.map DeclarationFailure.declaration = ["org.shop.Range"] ∧
      (∀ failed ∈ report.failures, ¬ failed.fault.IsOfResolution) ∧
      ∃ declaration, SymbolIndex.market.get? "org.shop.Later" = some declaration ∧
        report.Defers declaration := by
  obtain ⟨hresolve, hreports, -, -⟩ := index_resolves SymbolIndex.reachable_market
  obtain ⟨report, hprocess, -, -, hfailures, -, -⟩ := SymbolIndex.process_market
  obtain ⟨hfaults, hdefers⟩ := hreports .default report hprocess
  have hnone : SymbolIndex.market.resolver.resolve ⟨"org.shop.Later", .class⟩ = none := by
    with_unfolding_all rfl
  have hlater : SymbolIndex.market.get? "org.shop.Later" =
      some { SymbolIndex.markedClass "org.shop.Later" "org.shop" with
        supertypes := [⟨"SingleConverter", none, []⟩] } := by
    with_unfolding_all rfl
  refine ⟨SymbolIndex.reachable_market, hnone, report, hprocess, hfailures, hfaults, _, hlater,
    hdefers _ ?_ rfl (by decide +kernel) fun hresolved => ?_⟩
  · exact List.mem_map.2 ⟨_, (OrderedMap.get?_eq_some_iff _).1 hlater, rfl⟩
  · obtain ⟨_, hsome⟩ := (hresolve ⟨"org.shop.Later", .class⟩).2 ⟨_, hlater, hresolved⟩
    rw [hnone] at hsome
    cases hsome

end ConverterBuilders
