import ConverterBuilders.Program
import ConverterBuilders.Proofs.LoadingAgain
import ConverterBuilders.Proofs.Stopping
import ConverterBuilders.Proofs.Validation
import ConverterBuilders.Proofs.WritingAgain

/-!
# Generating twice

A run that gets through all its writes leaves its inputs alone, and running the same command again ends
alike and changes nothing.  The search for a configuration file must not begin behind a step up from a
directory that the run makes: there it finds other files once the directory stands.

Main statements:

* `yields_writing`, `exists_of_generate`: what a run comes to that gets through all its writes;
* `yields_writing_again`: what the second of two runs comes to;
* `generate_repeats`: such a run may be repeated;
* `generate_differs_lane`: a search that begins behind such a step up finds another configuration.
-/

namespace ConverterBuilders

/-- What grew is what it was, with other files. -/
theorem Workspace.GrowsTo.eq {before after : Workspace} (h : before.GrowsTo after) :
    { before with files := after.files } = after := by
  obtain ⟨files, directory, environment⟩ := after
  obtain ⟨rfl, rfl, -⟩ := h
  rfl

/-- Loading an index looks at files only. -/
theorem SymbolIndex.load_of_files {workspace other : Workspace} (hf : other.files = workspace.files)
    (hd : other.directory = workspace.directory) (root : Path) :
    load other root = load workspace root := by
  obtain ⟨files, directory, environment⟩ := other
  obtain ⟨rfl, rfl⟩ := And.intro hf hd
  rfl

namespace Session

/-! ## The parts of a run -/

/-- A run to files with the configuration and the index of a command. -/
def writing (configuration : Configuration) (index : SymbolIndex) : Workspace.Task Report :=
  Report.run index.resolver configuration (Destination.ofConfiguration configuration).write

/-- Options are the same where the working directory is the same and stands. -/
theorem withOptions_of_directory {workspace other : Workspace}
    (h : other.directory = workspace.directory)
    (hd : workspace.files.hasDirectory workspace.directory = true)
    (ho : other.files.hasDirectory other.directory = true) (output? index? : Option Path)
    (configuration : Configuration) :
    withOptions other output? index? configuration =
      withOptions workspace output? index? configuration := by
  have hhere : other.currentDirectory = workspace.currentDirectory := by
    rw [Workspace.currentDirectory_eq ho, Workspace.currentDirectory_eq hd, Workspace.directoryPath,
      Workspace.directoryPath, h]
  have habsolute : other.absolute = workspace.absolute := by
    funext path
    rw [Workspace.absolute, Workspace.absolute, hhere]
  have hsetting : settingOr other = settingOr workspace := by
    funext path? setting
    rw [settingOr.eq_def, settingOr.eq_def, habsolute]
  rw [withOptions, withOptions, hsetting]

section Writing

variable {invocation : Invocation} {index? : Option Path} {workspace reached after : Workspace}
  {loaded configuration : Configuration}
  (hload : (Configuration.load invocation.config?).run.run workspace = (.ok loaded, reached))
  (hoptions : withOptions reached invocation.output? index? loaded = .ok configuration)

include hload hoptions

theorem yields_options (output : String) :
    Yields (loadConfiguration invocation index?) workspace output (.ok configuration) reached output :=
  hoptions ▸ yields_loadConfiguration hload

/-- **What a run comes to that gets through all its writes.** -/
theorem yields_writing {index : SymbolIndex} {report : Report}
    (hindex : SymbolIndex.load reached configuration.index = .ok index)
    (hwriting : (writing configuration index).run.run reached = (.ok report, after)) (output : String) :
    Yields (generate invocation false index?) workspace output (firstFailure report.failures) after
      output := by
  have hsecond := yields_loadIndex reached output configuration
  rw [hindex] at hsecond
  rw [generate]
  exact (yields_options hload hoptions output).bind
    (hsecond.bind ((yields_inWorkspace hwriting).bind (yields_summarize report)))

/-- **A run that ended well or with the failure of a converter got through all its writes.** -/
theorem exists_of_generate {result : Except Failure Unit} {session : Session}
    (hrun : (generate invocation false index?).run.run (start workspace) = (result, session))
    (hthrough : ∀ failure, result = .error failure → failure.isRequest = true) :
    ∃ index report after,
      SymbolIndex.load reached configuration.index = .ok index ∧
      (writing configuration index).run.run reached = (.ok report, after) := by
  obtain ⟨log, hconfiguration⟩ := yields_options hload hoptions "" []
  rw [generate, start, run_bind_of_ok hconfiguration] at hrun
  obtain ⟨index, second, hindex, hrun⟩ := exists_of_run_bind hrun fun failure s' hfails he => by
    rw [run_loadIndex] at hfails
    have hspared := SymbolIndex.isRequest_of_load (Prod.mk.inj hfails).1
    rw [hthrough failure he] at hspared
    cases hspared
  rw [run_loadIndex] at hindex
  obtain ⟨hfound, rfl⟩ := Prod.mk.inj hindex
  obtain ⟨report, third, hwriting, -⟩ := exists_of_run_bind hrun fun failure s' hfails he => by
    have hfailed := (run_inWorkspace (writing configuration index) _).symm.trans hfails
    have hspared := Report.sparesRequests_run (Destination.sparesRequests_write _) _ _ _ _ _
      (Prod.ext (Prod.mk.inj hfailed).1 rfl)
    rw [hthrough failure he] at hspared
    cases hspared
  have hwritten := (run_inWorkspace (writing configuration index) _).symm.trans hwriting
  exact ⟨index, report, _, hfound, Prod.ext (Prod.mk.inj hwritten).1 rfl⟩

/-- **The second of two runs** finds the inputs of the first as they were, and writes the same. -/
theorem yields_writing_again (hfiles : workspace.files.Lawful)
    (hdirectory : workspace.files.hasDirectory workspace.directory = true)
    (hnamed : ∀ path, invocation.config? = some path → path.fileName = some Configuration.fileName)
    (hsearch : invocation.config? = none →
      ∀ start, Configuration.searchStart workspace.loadEnvironment = .ok start →
        workspace.files.ClimbsAlike after.files workspace.directory start)
    (hplace : workspace.isDirectory configuration.index = true) {index : SymbolIndex} {report : Report}
    (hindex : SymbolIndex.load reached configuration.index = .ok index)
    (hwriting : (writing configuration index).run.run reached = (.ok report, after)) :
    workspace.files.GrowsTo after.files ∧ SymbolIndex.load after configuration.index = .ok index ∧
      Yields (generate invocation false index?) { workspace with files := after.files } ""
        (firstFailure report.failures) after "" := by
  obtain ⟨hkept, hsame⟩ := Configuration.kept_of_load hload
  have hextension : '.' ∉ configuration.fileExtension.toList := by
    rw [(eq_of_withOptions hoptions).2.2]
    exact (Configuration.fileExtension_of_load hload).2
  rw [Workspace.isDirectory, ← hkept, ← hsame] at hplace
  have hstands : reached.files.hasDirectory reached.directory = true := by
    rw [hkept, hsame]
    exact hdirectory
  obtain ⟨hgrows, hagain⟩ := Report.run_again (hkept ▸ hfiles) (SymbolIndex.reachable_of_load hindex)
    hextension hwriting
  have hgrown : workspace.files.GrowsTo after.files := hkept ▸ hgrows.files
  have hstill : after.files.hasDirectory after.directory = true := by
    rw [hgrows.directory]
    exact hgrows.files.hasDirectory hstands
  have hloaded := Configuration.load_of_growsTo hgrown hfiles hdirectory hnamed hsearch hload
  have hfound := SymbolIndex.load_of_growsTo hgrows.files (hkept ▸ hfiles) hplace hindex
  rw [hgrows.eq] at hloaded hfound
  have hchosen := (withOptions_of_directory hgrows.directory hstands hstill invocation.output? index?
    loaded).trans hoptions
  exact ⟨hgrown, hfound, yields_writing hloaded hchosen hfound hagain ""⟩

end Writing

end Session

/-! ## Running again -/

/-- **A run that got through all its writes may be repeated.**  Let the working directory exist, let the
configuration come from a file `convgen.toml`, let the index lie in a directory, and let the run end well
or with the failure of a converter.  If a configuration file is searched for, let no step up in the path
where the search begins begin in a directory that the run has made.  Then no input is changed or added, the
same index is loaded, and the same command ends again with the same result and changes nothing. -/
theorem generate_repeats {invocation : Invocation} {dryRun : Bool} {index? : Option Path}
    (hcommand : invocation.command = .generate dryRun index?) {workspace reached : Workspace}
    {loaded configuration : Configuration} {result : Except Failure Unit} {session : Session}
    (hfiles : workspace.files.Lawful)
    (hdirectory : workspace.files.hasDirectory workspace.directory = true)
    (hload : (Configuration.load invocation.config?).run.run workspace = (.ok loaded, reached))
    (hoptions : Session.withOptions reached invocation.output? index? loaded = .ok configuration)
    (hnamed : ∀ path, invocation.config? = some path → path.fileName = some Configuration.fileName)
    (hsearch : invocation.config? = none →
      ∀ start, Configuration.searchStart workspace.loadEnvironment = .ok start →
        workspace.files.ClimbsAlike session.workspace.files workspace.directory start)
    (hindex : workspace.isDirectory configuration.index = true)
    (hrun : invocation.run workspace = (result, session))
    (hthrough : ∀ failure, result = .error failure → failure.isRequest = true) :
    (∀ location name content, FileTree.isInputName name = true →
      (session.workspace.files.node? (location ++ [name]) = some (.file content) ↔
        workspace.files.node? (location ++ [name]) = some (.file content))) ∧
    SymbolIndex.load session.workspace configuration.index =
      SymbolIndex.load workspace configuration.index ∧
    ∃ again, invocation.run { workspace with files := session.workspace.files } = (result, again) ∧
      again.workspace = session.workspace := by
  obtain ⟨hkept, hplace⟩ := Configuration.kept_of_load hload
  have hgenerate : ∀ other : Workspace, invocation.run other =
      (Session.generate invocation dryRun index?).run.run (Session.start other) := fun other => by
    rw [Invocation.run, Session.perform, hcommand]
  cases dryRun with
  | true =>
    obtain ⟨log, hdry⟩ := Session.yields_dryRun invocation index? workspace "" []
    have hsession := congrArg (fun outcome => outcome.2.workspace)
      (hrun.symm.trans ((hgenerate workspace).trans hdry))
    simp only [Session.reached, hload] at hsession
    have hsame : session.workspace.files = workspace.files := by rw [hsession, hkept]
    rw [hsame]
    exact ⟨fun _ _ _ _ => Iff.rfl, SymbolIndex.load_of_files hsame (by rw [hsession, hplace]) _, session,
      hrun, rfl⟩
  | false =>
    rw [hgenerate] at hrun
    obtain ⟨index, report, after, hi, hwriting⟩ :=
      Session.exists_of_generate hload hoptions hrun hthrough
    obtain ⟨messages, hends⟩ := Session.yields_writing hload hoptions hi hwriting "" []
    obtain ⟨rfl, rfl⟩ := Prod.mk.inj (hrun.symm.trans hends)
    obtain ⟨hgrown, hfound, hagain⟩ := Session.yields_writing_again hload hoptions hfiles hdirectory
      hnamed hsearch hindex hi hwriting
    obtain ⟨log, hrerun⟩ := hagain []
    refine ⟨fun location name content hname => hgrown.input location name hname content, ?_, _,
      (hgenerate _).trans hrerun, rfl⟩
    exact hfound.trans (hi.symm.trans (SymbolIndex.load_of_files hkept hplace _))

/-- The command `generate` without options. -/
def plainGenerate : Invocation := ⟨none, 0, false, none, .generate false none⟩

/-- Whether a command ended well and left a session of which something holds. -/
def endedWell (check : Session → Bool) (outcome : Except Failure Unit × Session) : Bool :=
  outcome.1.isOk && check outcome.2

/-- The configuration that a run without options has, if it has one. -/
def plainConfiguration (workspace : Workspace) : Except Failure Configuration := do
  let (result, reached) := (Configuration.load none).run.run workspace
  Session.withOptions reached none none (← result)

/-- Whether a run without options has a configuration whose index lies in a directory. -/
def findsIndex (workspace : Workspace) : Bool :=
  (plainConfiguration workspace).toOption.any fun configuration =>
    workspace.isDirectory configuration.index

theorem exists_of_findsIndex {workspace : Workspace} (h : findsIndex workspace = true) :
    ∃ loaded reached configuration,
      (Configuration.load none).run.run workspace = (.ok loaded, reached) ∧
      Session.withOptions reached none none loaded = .ok configuration ∧
      workspace.isDirectory configuration.index = true := by
  rw [findsIndex] at h
  cases hc : plainConfiguration workspace with
  | error failure =>
    rw [hc] at h
    cases h
  | ok configuration =>
    rw [hc] at h
    cases hl : (Configuration.load none).run.run workspace with
    | mk result reached =>
      rw [plainConfiguration, hl] at hc
      obtain ⟨loaded, rfl, hoptions⟩ := bind_eq_ok_iff.1 hc
      exact ⟨loaded, reached, configuration, rfl, hoptions, h⟩

/-- A configuration that looks for the index in `idx`. -/
def stallSettings (outputPath : String) : String :=
  "[general]\nannotation = \"Conv\"\n[scan]\nindex_path = \"idx\"\n[output]\noutput_path = \"" ++
    outputPath ++ "\"\n"

def stallIndex : String :=
  "[[[\"Money\",\"\",\"class\",null,[[\"SingleConverter\",\"s.SingleConverter\",[[\"Long\",\"kotlin.Long\"]]]]," ++
    "[[\"Conv\",\x7b\"name\":\"amount\",\"types\":[\"SINGLE\"]\x7d]]]]]"

def stallFiles (outputPath : String) : FileTree :=
  ((FileTree.empty.put ["convgen.toml"] (.file (.text (stallSettings outputPath)))).put ["idx"]
    .directory).put ["idx", "a.symbols.json"] (.file (.text stallIndex))

theorem lawful_stallFiles (outputPath : String) : (stallFiles outputPath).Lawful := by
  have hsettings := FileTree.lawful_empty.put (by rfl : FileTree.hasDirectory _ [] = true)
    "convgen.toml" (.file (.text (stallSettings outputPath))) (by decide) (.inr (by rfl))
  have hidx := hsettings.put (by rfl : FileTree.hasDirectory _ [] = true) "idx" .directory (by decide)
    (.inl rfl)
  exact hidx.put (by with_unfolding_all rfl : FileTree.hasDirectory _ ["idx"] = true) "a.symbols.json" _
    (by decide) (.inr (by with_unfolding_all rfl))

def stall : Workspace := ⟨stallFiles "idx", [], OrderedMap.empty⟩

/-- A run that writes into the directory of its index leaves the index alone and may be repeated. -/
theorem generate_repeats_stall : ∃ session again,
    plainGenerate.run stall = (.ok (), session) ∧
      (session.workspace.files.node? ["idx", "MoneyFunctions.kt"]).isSome = true ∧
      plainGenerate.run { stall with files := session.workspace.files } = (.ok (), again) ∧
      again.workspace = session.workspace := by
  have hcommand : plainGenerate.command = .generate false none := rfl
  have hlawful : stall.files.Lawful := lawful_stallFiles "idx"
  have hdirectory : stall.files.hasDirectory stall.directory = true := rfl
  have hstart : Configuration.searchStart stall.loadEnvironment = .ok stall.directoryPath := by
    decide +kernel
  have hsearch : ∀ after, plainGenerate.config? = none →
      ∀ start, Configuration.searchStart stall.loadEnvironment = .ok start →
        stall.files.ClimbsAlike after stall.directory start := by
    intro after _ start hs
    obtain rfl : stall.directoryPath = start := Except.ok.inj (hstart.symm.trans hs)
    exact Workspace.climbs_directoryPath hlawful hdirectory after
  have hrun : endedWell (fun session =>
      (session.workspace.files.node? ["idx", "MoneyFunctions.kt"]).isSome)
      (plainGenerate.run stall) = true := by decide +kernel
  obtain ⟨loaded, reached, configuration, hload, hoptions, hindex⟩ :=
    exists_of_findsIndex (by decide +kernel : findsIndex stall = true)
  cases hr : plainGenerate.run stall with
  | mk result session =>
    rw [hr] at hrun
    cases result with
    | error failure => cases hrun
    | ok =>
      obtain ⟨-, -, again, hagain, hsame⟩ := generate_repeats hcommand hlawful hdirectory hload hoptions
        (fun _ he => by cases he) (hsearch _) hindex hr (fun _ he => by cases he)
      exact ⟨session, again, rfl, hrun, hagain, hsame⟩

/-- A search that begins behind a step up from a directory that is made. -/
def lane : Workspace where
  files := ((stallFiles "gen").put ["sub"] .directory).put ["sub", "convgen.toml"] (.file (.text "x"))
  directory := []
  environment := OrderedMap.ofList [("CARGO_MANIFEST_DIR", "gen/../sub")]

theorem lawful_lane : lane.files.Lawful :=
  ((lawful_stallFiles "gen").put (by rfl : FileTree.hasDirectory _ [] = true) "sub" .directory
    (by decide) (.inl rfl)).put (by with_unfolding_all rfl : FileTree.hasDirectory _ ["sub"] = true)
      "convgen.toml" _ (by decide) (.inr (by with_unfolding_all rfl))

/-- **A search that begins behind such a step up finds another configuration.**  At first `gen/..` leads
nowhere, and the search comes to `convgen.toml` in the working directory.  Once the run has made `gen`, the
search finds `gen/../sub/convgen.toml`, and the same command fails. -/
theorem generate_differs_lane :
    lane.files.Lawful ∧ lane.files.hasDirectory lane.directory = true ∧
    (Configuration.searchStart lane.loadEnvironment >>= Configuration.find lane.loadEnvironment) =
      .ok ⟨"convgen.toml"⟩ ∧
    ∃ loaded reached configuration session,
      (Configuration.load none).run.run lane = (.ok loaded, reached) ∧
      Session.withOptions reached none none loaded = .ok configuration ∧
      lane.isDirectory configuration.index = true ∧
      plainGenerate.run lane = (.ok (), session) ∧
      (plainGenerate.run { lane with files := session.workspace.files }).1 ≠ .ok () := by
  have hfind : (Configuration.searchStart lane.loadEnvironment >>=
      Configuration.find lane.loadEnvironment) = .ok ⟨"convgen.toml"⟩ := by
    with_unfolding_all rfl
  have hrun : endedWell (fun session =>
      !(plainGenerate.run { lane with files := session.workspace.files }).1.isOk)
      (plainGenerate.run lane) = true := by decide +kernel
  obtain ⟨loaded, reached, configuration, hload, hoptions, hindex⟩ :=
    exists_of_findsIndex (by decide +kernel : findsIndex lane = true)
  cases hr : plainGenerate.run lane with
  | mk result session =>
    rw [hr] at hrun
    cases result with
    | error failure => cases hrun
    | ok =>
      refine ⟨lawful_lane, rfl, hfind, loaded, reached, configuration, session, hload, hoptions, hindex, rfl,
        fun hok => ?_⟩
      simp [endedWell, hok, Except.isOk, Except.toBool] at hrun

end ConverterBuilders
