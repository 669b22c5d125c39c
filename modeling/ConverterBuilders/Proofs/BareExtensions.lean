import ConverterBuilders.Proofs.DiskRun
import ConverterBuilders.Proofs.Inputs
import ConverterBuilders.Proofs.LastComponents

/-!
# Files in the directories of their packages

The check of a configuration keeps points out of the file extension, and nothing else.  So the name of a file, a
point and the extension are the last step of a path exactly if the extension holds no slash.  Then the file of an
artifact stands directly in the directory of its package.

Main statements:

* `exists_segments`: the steps of the path of an artifact, by the segments of its package;
* `components_eq_iff`: when the extension is part of the last step;
* `artifact_in_package`: the file of an artifact stands in the directory of its package.
-/

namespace ConverterBuilders

open QualifiedName

namespace Artifact

variable {base extension : String}

/-! ## The names of a file -/

/-- A bare extension makes one name with the base. -/
theorem fileNames_of_bare (h : '/' ∉ extension.toList) :
    fileNames base extension = [base ++ "." ++ extension] := by
  rw [fileNames, Text.split_of_not_mem h]
  simp [← String.toList_inj, String.toList_append]

/-- **The extension is part of the last step** exactly if it is bare. -/
theorem components_eq_iff {path : Path} {segments : List String}
    (h : path.components = (segments ++ fileNames base extension).map Path.Component.name) :
    path.components = (segments ++ [base ++ "." ++ extension]).map Path.Component.name ↔
      '/' ∉ extension.toList := by
  constructor
  · intro heq hslash
    have hlast : Path.Component.name (base ++ "." ++ extension) ∈ path.components := by
      rw [heq]
      exact List.mem_map_of_mem (List.mem_append_right _ (List.mem_singleton_self _))
    refine Path.not_mem_of_mem_components hlast ?_
    rw [String.toList_append]
    exact List.mem_append_right _ hslash
  · intro hbare
    rw [h, fileNames_of_bare hbare]

end Artifact

namespace Report

variable {index : SymbolIndex} {configuration : Configuration} {report : Report} {artifact : Artifact}

/-! ## The package of an artifact -/

/-- **The path of an artifact by the segments of its package**, which are those of its declaration. -/
theorem exists_segments (hi : index.Reachable) (he : '.' ∉ configuration.fileExtension.toList)
    (hp : process index.resolver configuration = .ok report) (ha : artifact ∈ report.artifacts) :
    ∃ declaration segments, index.get? artifact.declaration = some declaration ∧
      (∀ segment ∈ segments, Identifier segment.toList) ∧
      declaration.package = joined (segments.map String.toList) ∧
      (artifact.relativePath configuration.fileExtension).components =
        (segments ++ Artifact.fileNames (declaration.simpleName ++ "Functions")
          configuration.fileExtension).map Path.Component.name := by
  obtain ⟨symbol, converter, hr, hf⟩ := exists_converter hp ha
  have hw := hi.wellFormed.wellNamed_of_resolve hr
  have hname := hi.wellFormed.name_of_resolve hr
  have hpath := Artifact.components_relativePath hf hw he
  have hparts := Artifact.intercalate_packageParts hw
  have hidentifiers : ∀ part ∈ Artifact.packageParts converter.package, Identifier part.toList :=
    fun part hm => isIdentifier_iff.1 (Artifact.isIdentifier_of_mem_packageParts hw hm)
  obtain ⟨declaration, hd, rfl⟩ := SymbolIndex.exists_of_resolve hr
  refine ⟨declaration, Artifact.packageParts declaration.package, ?_, hidentifiers, ?_, hpath⟩
  · rw [hf.declaration, hname]
    exact hd
  · rw [joined, hparts, String.ofList_toList]

end Report

/-- **The file of an artifact stands in the directory of its package.**  For a configuration that was read and an
index, the path of an artifact has the segments of the package of its declaration for steps, and then, as one last
step, the simple name, `Functions`, a point and the extension, exactly if there is no slash in the extension.  If
there is none, then below every root the directory of the file is that of the package, and this is where a run
to files puts its text. -/
theorem artifact_in_package {environment : Environment} {path : Path} {content : String}
    {configuration : Configuration} (hc : Configuration.read environment path content = .ok configuration)
    {index : SymbolIndex} (hi : index.Reachable) {report : Report}
    (hp : Report.process index.resolver configuration = .ok report) {artifact : Artifact}
    (ha : artifact ∈ report.artifacts) :
    ∃ declaration segments, index.get? artifact.declaration = some declaration ∧
      (∀ segment ∈ segments, Identifier segment.toList) ∧
      declaration.package = joined (segments.map String.toList) ∧
      ((artifact.relativePath configuration.fileExtension).components =
          (segments ++ [declaration.simpleName ++ "Functions" ++ "." ++ configuration.fileExtension]).map
            Path.Component.name ↔
        '/' ∉ configuration.fileExtension.toList) ∧
      ('/' ∉ configuration.fileExtension.toList → ∀ root,
        (∃ directory, (artifact.pathUnder root configuration.fileExtension).parent = some directory ∧
          directory.components = root.components ++ segments.map Path.Component.name) ∧
        ∀ workspace after written,
          (Report.run index.resolver configuration
            (Destination.write ⟨root, configuration.fileExtension⟩)).run.run workspace =
              (.ok written, after) →
          after.files.node? (FileTree.locationOf workspace.directory root ++ segments ++
              [declaration.simpleName ++ "Functions" ++ "." ++ configuration.fileExtension]) =
            some (.file (.text artifact.text))) := by
  have he := (Configuration.fileExtension_of_read hc).2
  obtain ⟨declaration, segments, hd, hidentifiers, hpackage, hpath⟩ :=
    Report.exists_segments hi he hp ha
  refine ⟨declaration, segments, hd, hidentifiers, hpackage, Artifact.components_eq_iff hpath,
    fun hbare root => ⟨?_, ?_⟩⟩
  · have hlead := Path.lead_of_names (Report.exists_name_of_mem_artifacts hi he hp ha)
    have hunder : (artifact.pathUnder root configuration.fileExtension).components =
        (root.components ++ segments.map Path.Component.name) ++
          [.name (declaration.simpleName ++ "Functions" ++ "." ++ configuration.fileExtension)] := by
      rw [Artifact.pathUnder, Path.components_join root hlead, hpath, Artifact.fileNames_of_bare hbare,
        List.map_append, List.append_assoc]
      rfl
    exact Path.exists_parent hunder
  · intro workspace after written hrun
    have hfile := Report.node?_of_run hi he hrun hp ha
    rw [Path.names_of_components hpath, Artifact.fileNames_of_bare hbare, ← List.append_assoc] at hfile
    exact hfile

/-! ## A class in a package -/

/-- The configuration of a file that sets the extension and nothing else. -/
def onlyExtension (extension : String) : Configuration :=
  { Configuration.default with fileExtension := extension, base? := some ⟨""⟩ }

/-- What is generated for the class in a package of the small index does not depend on the extension. -/
theorem exists_artifact_of_money (extension : String) :
    ∃ report artifact, Report.process SymbolIndex.shop.resolver (onlyExtension extension) = .ok report ∧
      artifact ∈ report.artifacts ∧ artifact.declaration = "org.shop.Money" ∧
      artifact.package = "org.shop" ∧ artifact.fileBaseName = "MoneyFunctions" := by
  have hsame : Report.process SymbolIndex.shop.resolver (onlyExtension extension) =
      Report.process SymbolIndex.shop.resolver .default := rfl
  have hprocess := Report.process_of_valid SymbolIndex.valid_shop (by decide +kernel)
  have hmoney : ((Report.outcomes SymbolIndex.shop.resolver .default
      SymbolIndex.shopConverters).filterMap fun outcome => outcome.2.artifact?).any (fun artifact =>
        artifact.declaration = "org.shop.Money" ∧ artifact.package = "org.shop" ∧
          artifact.fileBaseName = "MoneyFunctions") = true := by decide +kernel
  obtain ⟨artifact, hm, hnames⟩ := List.any_eq_true.1 hmoney
  exact ⟨_, artifact, hsame.trans hprocess, hm, of_decide_eq_true hnames⟩

/-- A class in a package has its file in the directory of the package. -/
theorem artifact_in_package_money :
    ∃ report artifact,
      Configuration.read OrderedMap.empty ⟨"convgen.toml"⟩ "[output]\nfile_extension = \"kts\"\n" =
        .ok (onlyExtension "kts") ∧
      SymbolIndex.shop.Reachable ∧
      Report.process SymbolIndex.shop.resolver (onlyExtension "kts") = .ok report ∧
      artifact ∈ report.artifacts ∧
      artifact.declaration = "org.shop.Money" ∧
      ∃ declaration segments, SymbolIndex.shop.get? artifact.declaration = some declaration ∧
        declaration.package = joined (segments.map String.toList) ∧
        (artifact.relativePath "kts").components =
          (segments ++ [declaration.simpleName ++ "Functions" ++ "." ++ "kts"]).map
            Path.Component.name ∧
        ∃ directory, (artifact.pathUnder ⟨"out"⟩ "kts").parent = some directory ∧
          directory.components = ("out" :: segments).map Path.Component.name := by
  have hread : Configuration.read OrderedMap.empty ⟨"convgen.toml"⟩
      "[output]\nfile_extension = \"kts\"\n" = .ok (onlyExtension "kts") := by decide +kernel
  obtain ⟨report, artifact, hp, ha, hname, -, -⟩ := exists_artifact_of_money "kts"
  obtain ⟨declaration, segments, hd, -, hpackage, hpath, hbelow⟩ :=
    artifact_in_package hread SymbolIndex.reachable_shop hp ha
  have hbare : '/' ∉ (onlyExtension "kts").fileExtension.toList := by decide
  obtain ⟨⟨directory, hparent, hdirectory⟩, -⟩ := hbelow hbare ⟨"out"⟩
  exact ⟨report, artifact, hread, SymbolIndex.reachable_shop, hp, ha, hname, declaration, segments, hd,
    hpackage, hpath.2 hbare, directory, hparent, hdirectory⟩

/-- An extension with a slash passes the check.  The file of a class in a package then gets into a directory of its
own below that of the package, and has its name from what stands behind the slash. -/
theorem artifact_beside_package :
    ∃ report artifact,
      Configuration.read OrderedMap.empty ⟨"convgen.toml"⟩ "[output]\nfile_extension = \"kt/x\"\n" =
        .ok (onlyExtension "kt/x") ∧
      SymbolIndex.shop.Reachable ∧
      Report.process SymbolIndex.shop.resolver (onlyExtension "kt/x") = .ok report ∧
      artifact ∈ report.artifacts ∧
      artifact.declaration = "org.shop.Money" ∧ artifact.package = "org.shop" ∧
      (artifact.relativePath "kt/x").components =
        ["org", "shop", "MoneyFunctions.kt", "x"].map Path.Component.name ∧
      (artifact.relativePath "kt/x").components.getLast? ≠ some (.name "MoneyFunctions.kt/x") ∧
      (artifact.relativePath "kt/x").components.dropLast ≠ ["org", "shop"].map Path.Component.name := by
  have hread : Configuration.read OrderedMap.empty ⟨"convgen.toml"⟩
      "[output]\nfile_extension = \"kt/x\"\n" = .ok (onlyExtension "kt/x") := by decide +kernel
  obtain ⟨report, artifact, hp, ha, hname, hpackage, hbase⟩ := exists_artifact_of_money "kt/x"
  have hpath : (artifact.relativePath "kt/x").components =
      ["org", "shop", "MoneyFunctions.kt", "x"].map Path.Component.name := by
    rw [Artifact.relativePath, hpackage, hbase]
    decide
  refine ⟨report, artifact, hread, SymbolIndex.reachable_shop, hp, ha, hname, hpackage, hpath, ?_, ?_⟩
  · rw [hpath]
    decide
  · rw [hpath]
    decide

end ConverterBuilders
