import ConverterBuilders.Proofs.Components
import ConverterBuilders.Proofs.Generation
import ConverterBuilders.Proofs.IndexInvariant

/-!
# Identities and paths of artifacts

For converters with identifiers for names, the identity of an artifact and its path say the same: the
package and the simple name.  A path is then the names of the package and behind them the names of the
file, of which the first is the only one with a point in it.

Main statements:

* `artifactIdentity_eq_iff`: what the identity of an artifact tells;
* `components_relativePath`: the path of an artifact holds names only;
* `eq_of_prefix`: no path of an artifact begins with another one;
* `relativePath_iff_identity`: identity and path of the artifacts of an index.
-/

namespace ConverterBuilders

open Text QualifiedName

namespace Converter

/-! ## Identities -/

variable {converter left right : Converter}

theorem isIdentifier_artifactBaseName (h : converter.WellNamed) :
    isIdentifier converter.artifactBaseName.toList = true := by
  rw [artifactBaseName, String.toList_append]
  exact isIdentifier_append h.simpleName (by decide)

theorem simpleName_of_artifactBaseName (h : left.artifactBaseName = right.artifactBaseName) :
    left.simpleName = right.simpleName := by
  have hl := congrArg String.toList h
  rw [artifactBaseName, artifactBaseName, String.toList_append, String.toList_append] at hl
  exact String.toList_inj.1 (List.append_cancel_right hl)

theorem artifactIdentity_of_package (h : converter.package ≠ "") :
    converter.artifactIdentity.toList =
      converter.package.toList ++ '.' :: converter.artifactBaseName.toList := by
  rw [artifactIdentity, if_neg (by simpa using h), String.toList_append, String.toList_append,
    List.append_assoc]
  rfl

theorem artifactIdentity_of_no_package (h : converter.package = "") :
    converter.artifactIdentity = converter.artifactBaseName := by
  rw [artifactIdentity, if_pos (by simpa using h)]

/-- The last part of an identity is the base name. -/
theorem afterLast_artifactIdentity (h : converter.WellNamed) :
    afterLast '.' converter.artifactIdentity.toList = converter.artifactBaseName.toList := by
  have hdot := (not_mem_of_isIdentifier (isIdentifier_artifactBaseName h)).1
  by_cases hp : converter.package = ""
  · rw [artifactIdentity_of_no_package hp, afterLast_of_not_mem hdot]
  · rw [artifactIdentity_of_package hp, afterLast_append _ hdot]

/-- **The identity of an artifact tells the package and the simple name.** -/
theorem artifactIdentity_eq_iff (hl : left.WellNamed) (hr : right.WellNamed) :
    left.artifactIdentity = right.artifactIdentity ↔
      left.package = right.package ∧ left.simpleName = right.simpleName := by
  constructor
  · intro h
    have hbase : left.artifactBaseName.toList = right.artifactBaseName.toList := by
      rw [← afterLast_artifactIdentity hl, ← afterLast_artifactIdentity hr, h]
    refine ⟨?_, simpleName_of_artifactBaseName (String.toList_inj.1 hbase)⟩
    have hlist := congrArg String.toList h
    have hdot := (not_mem_of_isIdentifier (isIdentifier_artifactBaseName hl)).1
    by_cases hpl : left.package = "" <;> by_cases hpr : right.package = ""
    · rw [hpl, hpr]
    · rw [artifactIdentity_of_no_package hpl, artifactIdentity_of_package hpr] at hlist
      exact absurd (by rw [hlist]; simp) hdot
    · rw [artifactIdentity_of_package hpl, artifactIdentity_of_no_package hpr, ← hbase] at hlist
      exact absurd (by rw [← hlist]; simp) hdot
    · rw [artifactIdentity_of_package hpl, artifactIdentity_of_package hpr, hbase] at hlist
      exact String.toList_inj.1 (List.append_cancel_right hlist)
  · rintro ⟨hp, hs⟩
    simp [artifactIdentity, artifactBaseName, hp, hs]

end Converter

namespace Artifact

/-! ## The directory of a package -/

variable {converter left right : Converter}

theorem plain_of_isIdentifier {cs : List Char} (h : isIdentifier cs = true) : Path.Plain cs where
  ne_nil := ne_nil_of_isIdentifier h
  ne_dot := fun he => (not_mem_of_isIdentifier h).1 (by simp [he])
  ne_dots := fun he => (not_mem_of_isIdentifier h).1 (by simp [he])
  no_slash := (not_mem_of_isIdentifier h).2

theorem isIdentifier_of_mem_packageParts (h : converter.WellNamed) {part : String}
    (hp : part ∈ packageParts converter.package) : isIdentifier part.toList = true := by
  simp only [packageParts, splitText, List.mem_filter, List.mem_map] at hp
  obtain ⟨⟨piece, hm, rfl⟩, hne⟩ := hp
  rw [String.toList_ofList]
  refine h.package (fun he => ?_) piece hm
  rw [he] at hm
  have hnil : piece = [] := by simpa [split] using hm
  simp [hnil] at hne

/-- The parts of a package, joined by points, are the package again. -/
theorem intercalate_packageParts (h : converter.WellNamed) :
    List.intercalate ['.'] ((packageParts converter.package).map String.toList) =
      converter.package.toList := by
  by_cases he : converter.package = ""
  · rw [he]
    rfl
  · have hall : (splitText '.' converter.package).filter (fun part => !part.isEmpty) =
        splitText '.' converter.package := by
      rw [List.filter_eq_self]
      intro part hp
      obtain ⟨piece, hm, rfl⟩ := List.mem_map.mp hp
      have := ne_nil_of_isIdentifier (h.package he piece hm)
      simpa [String.isEmpty_iff] using this
    have hmap : (splitText '.' converter.package).map String.toList =
        split '.' converter.package.toList := by
      simp [splitText, Function.comp_def]
    rw [packageParts, hall, hmap, intercalate_split]

theorem package_of_packageParts (hl : left.WellNamed) (hr : right.WellNamed)
    (h : packageParts left.package = packageParts right.package) : left.package = right.package := by
  rw [← String.toList_inj, ← intercalate_packageParts hl, ← intercalate_packageParts hr, h]

/-! ## The names of a file -/

/-- The names of a file; the extension may hold slashes. -/
def fileNames (base extension : String) : List String :=
  match split '/' extension.toList with
  | [] => []
  | first :: rest =>
    String.ofList (base.toList ++ '.' :: first) ::
      (rest.filter fun piece => !Path.isIdle piece).map String.ofList

/-- A piece without points is idle or a name. -/
theorem ofPiece_of_no_point {piece : List Char} (h : '.' ∉ piece) :
    Path.Component.ofPiece piece = .name (String.ofList piece) := by
  rw [Path.Component.ofPiece, if_neg]
  rintro rfl
  exact h (List.mem_cons_self ..)

/-- The file of an artifact has names only for components. -/
theorem bodyComponents_file {base extension : String} (hb : isIdentifier base.toList = true)
    (he : '.' ∉ extension.toList) :
    Path.bodyComponents (base.toList ++ '.' :: extension.toList) =
      (fileNames base extension).map Path.Component.name := by
  have hslash : '/' ∉ base.toList ++ ['.'] := by simp [(not_mem_of_isIdentifier hb).2]
  obtain ⟨first, rest, hp, hs⟩ := split_append_of_not_mem hslash extension.toList
  simp only [List.append_assoc, List.singleton_append] at hs
  have hlong : ∀ tail : List Char, base.toList ++ '.' :: tail ≠ [] ∧
      base.toList ++ '.' :: tail ≠ ['.'] ∧ base.toList ++ '.' :: tail ≠ ['.', '.'] := by
    intro tail
    have hdot := (not_mem_of_isIdentifier hb).1
    cases hc : base.toList with
    | nil => exact absurd hc (ne_nil_of_isIdentifier hb)
    | cons c cs =>
      rw [hc] at hdot
      have hne : c ≠ '.' := fun he => hdot (by simp [he])
      simp [hne]
  have hfirst : Path.isIdle (base.toList ++ '.' :: first) = false := by
    simp [Path.isIdle, (hlong first).2.1]
  have hrest : ∀ piece ∈ rest, Path.Component.ofPiece piece = .name (String.ofList piece) := by
    intro piece hm
    apply ofPiece_of_no_point
    exact fun hc => he (mem_of_mem_split (by rw [hp]; exact List.mem_cons_of_mem _ hm) hc)
  have hmap : (rest.filter fun piece => !Path.isIdle piece).map Path.Component.ofPiece =
      ((rest.filter fun piece => !Path.isIdle piece).map String.ofList).map Path.Component.name := by
    rw [List.map_map]
    apply List.map_congr_left
    exact fun piece hm => hrest piece (List.mem_filter.mp hm).1
  rw [Path.bodyComponents, hs, List.filter_cons_of_pos (by simp [hfirst]), List.map_cons, hmap,
    Path.Component.ofPiece, if_neg (hlong first).2.2, fileNames, hp]
  rfl

/-! ## The whole path -/

def pathNames (converter : Converter) (extension : String) : List String :=
  packageParts converter.package ++ fileNames converter.artifactBaseName extension

theorem lead_of_isIdentifier {front : List Char} (h : isIdentifier front = true) (back : List Char) :
    (Path.lead (front ++ back)).1 = none := by
  have hnot := not_mem_of_isIdentifier h
  cases front with
  | nil => cases h
  | cons c rest =>
    have hd : c ≠ '.' := fun he => hnot.1 (by simp [he])
    have hs : c ≠ '/' := fun he => hnot.2 (by simp [he])
    simp [Path.lead, hd, hs]

/-- **The path of an artifact holds names only: those of the package and those of the file.** -/
theorem components_relativePath {artifact : Artifact} (hf : artifact.IsFor converter)
    (hw : converter.WellNamed) {extension : String} (he : '.' ∉ extension.toList) :
    (artifact.relativePath extension).components =
      (pathNames converter extension).map Path.Component.name := by
  have hbase := Converter.isIdentifier_artifactBaseName hw
  have htext : (converter.artifactBaseName ++ "." ++ extension).toList =
      converter.artifactBaseName.toList ++ '.' :: extension.toList := by
    simp [String.toList_append]
  have hlead : (Path.lead (converter.artifactBaseName ++ "." ++ extension).toList).1 = none := by
    rw [htext]
    exact lead_of_isIdentifier hbase _
  have hdirectory : (packageDirectory converter.package).components =
      (packageParts converter.package).map Path.Component.name :=
    Path.components_foldl_join
      (fun part hp => plain_of_isIdentifier (isIdentifier_of_mem_packageParts hw hp)) ⟨""⟩
  have hfile : (Path.mk (converter.artifactBaseName ++ "." ++ extension)).components =
      (fileNames converter.artifactBaseName extension).map Path.Component.name := by
    rw [Path.components_eq, Path.componentsOf_of_none hlead, htext, bodyComponents_file hbase he]
  rw [relativePath, hf.package, hf.fileBaseName, Path.components_join _ hlead, hdirectory, hfile,
    pathNames, List.map_append]

/-- A path of names only, whose one name with a point stands in front of the same names as that of
another path, is no front part of the other path unless it is the other path. -/
theorem eq_of_prefix {left right rest : List String} {a b : String}
    (h : left ++ a :: rest <+: right ++ b :: rest) (ha : '.' ∈ a.toList)
    (hr : ∀ name ∈ right, '.' ∉ name.toList) : left = right ∧ a = b := by
  induction left generalizing right with
  | nil =>
    cases right with
    | nil => exact ⟨rfl, (List.cons_prefix_cons.1 h).1⟩
    | cons name right =>
      have hname := (List.cons_prefix_cons.1 h).1
      exact absurd (hname ▸ ha) (hr name (List.mem_cons_self ..))
  | cons name left ih =>
    cases right with
    | nil =>
      have hlen := h.length_le
      simp only [List.length_append, List.length_cons, List.cons_append, List.nil_append] at hlen
      omega
    | cons other right =>
      obtain ⟨hn, ht⟩ := List.cons_prefix_cons.1 h
      obtain ⟨hl, hab⟩ := ih ht fun name hm => hr name (List.mem_cons_of_mem _ hm)
      exact ⟨by rw [hn, hl], hab⟩

/-- The names of a file: the first ends the base name with a point, and the others hang on the extension
alone. -/
theorem exists_fileNames (extension : String) :
    ∃ first rest, ∀ base, fileNames base extension =
      String.ofList (base.toList ++ '.' :: first) :: rest := by
  obtain ⟨first, pieces, hp⟩ := List.exists_cons_of_ne_nil (split_ne_nil '/' extension.toList)
  exact ⟨first, _, fun base => by rw [fileNames, hp]⟩

/-- **No path of an artifact begins with another one.** -/
theorem artifactIdentity_of_prefix (hl : left.WellNamed) (hr : right.WellNamed) {extension : String}
    (h : pathNames left extension <+: pathNames right extension) :
    left.artifactIdentity = right.artifactIdentity := by
  obtain ⟨first, rest, hnames⟩ := exists_fileNames extension
  rw [pathNames, pathNames, hnames, hnames] at h
  obtain ⟨hparts, hfile⟩ := eq_of_prefix h (by simp) fun part hp =>
    (not_mem_of_isIdentifier (isIdentifier_of_mem_packageParts hr hp)).1
  have hbase : left.artifactBaseName.toList = right.artifactBaseName.toList := by
    have hfile := congrArg String.toList hfile
    rw [String.toList_ofList, String.toList_ofList] at hfile
    exact List.append_cancel_right hfile
  rw [Converter.artifactIdentity_eq_iff hl hr]
  exact ⟨package_of_packageParts hl hr hparts,
    Converter.simpleName_of_artifactBaseName (String.toList_inj.1 hbase)⟩

theorem pathNames_of_artifactIdentity (hl : left.WellNamed) (hr : right.WellNamed)
    (h : left.artifactIdentity = right.artifactIdentity) (extension : String) :
    pathNames left extension = pathNames right extension := by
  obtain ⟨hp, hs⟩ := (Converter.artifactIdentity_eq_iff hl hr).1 h
  simp [pathNames, Converter.artifactBaseName, hp, hs]

end Artifact

/-- **The identity of an artifact and its path are the same notion for the converters of an index, and
paths stay below the root.**  Two artifacts have the same path exactly if they have the same identity, and
so exactly if they have the same package and simple name; else neither path is a front part of the other.
A path is relative and holds names only, so below a root it stands behind the components of the root. -/
theorem relativePath_iff_identity {index : SymbolIndex} (hi : index.Reachable)
    {left right : Symbol} {c d : Converter} (hc : index.resolver.resolve left = some c)
    (hd : index.resolver.resolve right = some d) {a b : Artifact} (ha : a.IsFor c) (hb : b.IsFor d)
    {extension : String} (he : '.' ∉ extension.toList) :
    ((a.relativePath extension).components = (b.relativePath extension).components ↔
      c.artifactIdentity = d.artifactIdentity) ∧
    (c.artifactIdentity = d.artifactIdentity ↔
      c.package = d.package ∧ c.simpleName = d.simpleName) ∧
    ((a.relativePath extension).components ≠ (b.relativePath extension).components →
      ¬ (a.relativePath extension).components <+: (b.relativePath extension).components ∧
      ¬ (b.relativePath extension).components <+: (a.relativePath extension).components) ∧
    (a.relativePath extension).isAbsolute = false ∧
    (∀ component ∈ (a.relativePath extension).components, ∃ name, component = .name name) ∧
    ∀ root, (a.pathUnder root extension).components =
      root.components ++ (a.relativePath extension).components := by
  have hw := hi.wellFormed
  have hcw := hw.wellNamed_of_resolve hc
  have hdw := hw.wellNamed_of_resolve hd
  have hca := Artifact.components_relativePath ha hcw he
  have hcb := Artifact.components_relativePath hb hdw he
  have hnames : ∀ component ∈ (a.relativePath extension).components, ∃ name, component = .name name := by
    intro component hm
    rw [hca] at hm
    obtain ⟨name, _, hn⟩ := List.mem_map.mp hm
    exact ⟨name, hn.symm⟩
  have hlead := Path.lead_of_names hnames
  have hinj : Function.Injective Path.Component.name := fun _ _ h => Path.Component.name.inj h
  have hiff : (a.relativePath extension).components = (b.relativePath extension).components ↔
      c.artifactIdentity = d.artifactIdentity := by
    rw [hca, hcb, List.map_inj_right fun _ _ h => hinj h]
    constructor
    · intro h
      exact Artifact.artifactIdentity_of_prefix hcw hdw ⟨[], (List.append_nil _).trans h⟩
    · exact fun h => Artifact.pathNames_of_artifactIdentity hcw hdw h extension
  refine ⟨hiff, Converter.artifactIdentity_eq_iff hcw hdw, ?_, Path.not_isAbsolute_of_none hlead,
    hnames, fun root => Path.components_join root hlead⟩
  intro hne
  rw [Ne, hiff] at hne
  rw [hca, hcb, List.prefix_map_iff_of_injective hinj, List.prefix_map_iff_of_injective hinj]
  constructor
  · exact fun h => hne (Artifact.artifactIdentity_of_prefix hcw hdw h)
  · exact fun h => hne (Artifact.artifactIdentity_of_prefix hdw hcw h).symm

/-- The artifacts of two converters of an index, one of them without a package, go to different paths, and
neither is in the way of the other. -/
theorem relativePath_shop :
    ∃ c d a b, SymbolIndex.shop.resolver.resolve ⟨"org.shop.Money", .class⟩ = some c ∧
      SymbolIndex.shop.resolver.resolve ⟨"Price", .class⟩ = some d ∧
      Report.generate SymbolIndex.shop.resolver .default c = .ok (some a) ∧
      Report.generate SymbolIndex.shop.resolver .default d = .ok (some b) ∧
      c.artifactIdentity = "org.shop.MoneyFunctions" ∧ d.artifactIdentity = "PriceFunctions" ∧
      ¬ (a.relativePath "kt").components <+: (b.relativePath "kt").components ∧
      ¬ (b.relativePath "kt").components <+: (a.relativePath "kt").components := by
  have hmade : ∀ symbol identity,
      ((SymbolIndex.shop.resolver.resolve symbol).bind fun converter =>
        (Outcome.artifact? (Report.generate SymbolIndex.shop.resolver .default converter)).map
          fun _ => converter.artifactIdentity) = some identity →
      ∃ c a, SymbolIndex.shop.resolver.resolve symbol = some c ∧
        Report.generate SymbolIndex.shop.resolver .default c = .ok (some a) ∧
        c.artifactIdentity = identity := by
    intro symbol identity h
    obtain ⟨c, hc, h⟩ := Option.bind_eq_some_iff.1 h
    obtain ⟨a, ha, hidentity⟩ := Option.map_eq_some_iff.1 h
    exact ⟨c, a, hc, Report.generate_of_artifact? ha, hidentity⟩
  obtain ⟨c, a, hc, ha, hmoney⟩ :=
    hmade ⟨"org.shop.Money", .class⟩ "org.shop.MoneyFunctions" (by decide +kernel)
  obtain ⟨d, b, hd, hb, hprice⟩ := hmade ⟨"Price", .class⟩ "PriceFunctions" (by decide +kernel)
  have hextension : '.' ∉ "kt".toList := by decide
  obtain ⟨hpath, _, hfront, _⟩ := relativePath_iff_identity SymbolIndex.reachable_shop hc hd
    (Report.isFor_of_generate ha) (Report.isFor_of_generate hb) hextension
  have hne : (a.relativePath "kt").components ≠ (b.relativePath "kt").components := by
    intro h
    have hidentity := hpath.1 h
    rw [hmoney, hprice] at hidentity
    exact absurd hidentity (by decide)
  exact ⟨c, d, a, b, hc, hd, ha, hb, hmoney, hprice, hfront hne⟩

end ConverterBuilders
