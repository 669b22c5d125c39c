import ConverterBuilders.CommandLine.Parser
import ConverterBuilders.Proofs.LoadingAgain

/-!
# Where the paths of a configuration lead

A path of the command line is meant in the working directory, and a path of a configuration file in the
directory of this file.  Both stand in the same setting, which is read in the directory of the file.  That does
no harm to a path of the command line, since it is made absolute before.  But a setting is a text, so that a path
of the command line, with the working directory in front, is only kept if it is one.

Main statements:

* `exists_parent_of_readText`: a file that was read has a directory;
* `chosen_of_settingOr`: where a path leads, with an option or without;
* `loadConfiguration_anchored`: where the paths of a loaded configuration lead;
* `loadConfiguration_stray`: a working directory whose name is no text is lost.
-/

namespace ConverterBuilders

open Text

namespace Path

/-- A path as it is meant in a directory: an absolute one stands by itself, and a relative one is put behind the
directory. -/
def anchored (directory path : Path) : Path :=
  if path.isAbsolute then path else directory.join path

theorem join_eq_anchored (directory path : Path) : directory.join path = directory.anchored path := by
  unfold anchored
  split
  · rename_i h
    exact join_absolute directory h
  · rfl

theorem isAbsolute_join {base : Path} (h : base.isAbsolute = true) (sub : Path) :
    (base.join sub).isAbsolute = true := by
  have hbegins : ∃ rest, base.text.toList = '/' :: rest := by
    rw [isAbsolute, decide_eq_true_eq] at h
    exact List.head?_eq_some_iff.1 h
  obtain ⟨rest, hbase⟩ := hbegins
  unfold join
  split
  · assumption
  · split <;> simp [isAbsolute, String.toList_append, hbase]

/-- What is meant in a directory whose path is absolute is absolute. -/
theorem isAbsolute_anchored {directory : Path} (h : directory.isAbsolute = true) (path : Path) :
    (directory.anchored path).isAbsolute = true := by
  rw [← join_eq_anchored]
  exact isAbsolute_join h path

/-- What is shown of an absolute path is absolute. -/
theorem isAbsolute_display {path : Path} (h : path.isAbsolute = true) :
    (Path.mk path.display).isAbsolute = true := by
  obtain ⟨rest, hpath⟩ : ∃ rest, path.text.toList = '/' :: rest := by
    rw [isAbsolute, decide_eq_true_eq] at h
    exact List.head?_eq_some_iff.1 h
  have hunits : unitsOf ('/' :: rest) = .char '/' :: unitsOf rest := by simp [unitsOf]
  rw [isAbsolute, display, lossy, hpath, hunits, lossyFrom]
  simp

theorem display_of_isText {path : Path} (h : path.isText = true) : Path.mk path.display = path :=
  congrArg Path.mk (lossy_of_isText h)

end Path

/-! ## The directory of a file -/

/-- **A file that was read has a directory.** -/
theorem FileTree.exists_parent_of_readText {tree : FileTree} {directory : Location} {path : Path}
    {text : String} (h : tree.readText directory path = .ok text) : ∃ up, path.parent = some up := by
  rw [← Option.ne_none_iff_exists']
  intro hnone
  obtain ⟨location, hr, hfile⟩ := at?_eq_some_iff.1 (readText_eq_ok_iff.1 h)
  rcases Path.components_of_no_parent hnone with hc | hc
  · have hempty := (resolve_eq_ok_iff.1 hr).1
    rw [Path.text_of_no_components hc] at hempty
    cases hempty
  · rw [eq_of_resolve hr, Path.locationOf_eq_foldl, hc] at hfile
    cases hfile

namespace Workspace

theorem exists_parent_of_readText {workspace : Workspace} {path : Path} {content : String}
    (h : workspace.readText path = .ok content) : ∃ up, path.parent = some up := by
  rw [readText] at h
  cases hr : workspace.files.readText workspace.directory path with
  | ok text => exact FileTree.exists_parent_of_readText hr
  | error fault =>
    rw [hr] at h
    cases h

theorem isAbsolute_of_currentDirectory {workspace : Workspace} {here : Path}
    (h : workspace.currentDirectory = .ok here) : here.isAbsolute = true := by
  unfold currentDirectory at h
  split at h
  · cases h
    simp [directoryPath, Path.isAbsolute, String.toList_append]
  · cases h

/-- **A path of the command line becomes the text of the path that it means.** -/
theorem absolute_eq {workspace : Workspace} {here : Path} (h : workspace.currentDirectory = .ok here)
    (path : Path) : workspace.absolute path = .ok (here.anchored path).display := by
  unfold absolute Path.anchored
  rw [h]
  split <;> rfl

end Workspace

/-! ## Options -/

/-- Where the path of a setting leads.  A path of the command line, if there is one, is meant in the working
directory `here`, and the text that it is shown as counts; or else the text of the configuration file, with its
references replaced, is meant in the directory of this file. -/
inductive Chosen (here : Path) (environment : Environment) (directory : Path) (text : String) :
    Option Path → Path → Prop
  | option (path : Path) :
    Chosen here environment directory text (some path) ⟨(here.anchored path).display⟩
  | setting {replaced : String} (h : environment.substitute text = .ok replaced) :
    Chosen here environment directory text none (directory.anchored ⟨replaced⟩)

/-- A path of the command line is kept if it is a text. -/
theorem Chosen.eq_anchored {here directory path target : Path} {environment : Environment} {text : String}
    (h : Chosen here environment directory text (some path) target)
    (ht : (here.anchored path).isText = true) : target = here.anchored path := by
  cases h
  exact Path.display_of_isText ht

theorem Configuration.resolve_of_base {configuration : Configuration} {directory : Path}
    (h : configuration.base? = some directory) (text : String) :
    configuration.resolve text = directory.anchored ⟨text⟩ := by
  rw [resolve, h]
  exact Path.join_eq_anchored directory ⟨text⟩

namespace Session

variable {workspace : Workspace} {here : Path} (hhere : workspace.currentDirectory = .ok here)

include hhere

theorem exists_settingOr (path? : Option Path) (setting : String) :
    ∃ chosen, settingOr workspace path? setting = .ok chosen := by
  cases path? with
  | none => exact ⟨setting, rfl⟩
  | some path => exact ⟨_, Workspace.absolute_eq hhere path⟩

theorem exists_withOptions (output? index? : Option Path) (loaded : Configuration) :
    ∃ configuration, withOptions workspace output? index? loaded = .ok configuration := by
  obtain ⟨outputPath, houtput⟩ := exists_settingOr hhere output? loaded.outputPath
  obtain ⟨indexPath, hindex⟩ := exists_settingOr hhere index? loaded.indexPath
  exact ⟨_, by rw [withOptions, houtput, hindex]; rfl⟩

/-- **Where a path leads**, with an option or without. -/
theorem chosen_of_settingOr {configuration : Configuration} {environment : Environment} {directory : Path}
    {text setting chosen : String} {path? : Option Path}
    (hbase : configuration.base? = some directory) (htext : environment.substitute text = .ok setting)
    (h : settingOr workspace path? setting = .ok chosen) :
    Chosen here environment directory text path? (configuration.resolve chosen) := by
  cases path? with
  | none =>
    obtain rfl : setting = chosen := Except.ok.inj h
    rw [Configuration.resolve_of_base hbase]
    exact .setting htext
  | some path =>
    have hchosen : chosen = (here.anchored path).display :=
      Except.ok.inj (h.symm.trans (Workspace.absolute_eq hhere path))
    have habsolute := Path.isAbsolute_display
      (Path.isAbsolute_anchored (Workspace.isAbsolute_of_currentDirectory hhere) path)
    rw [hchosen, Configuration.resolve_absolute configuration habsolute]
    exact .option path

end Session

/-! ## Loading -/

/-- **What loading with options comes to**, if loading without them succeeds: the same session, and the options
laid over the same configuration. -/
theorem Session.run_loadConfiguration_of_plain {invocation : Invocation} {session ended : Session}
    {loaded : Configuration}
    (h : (loadConfiguration { invocation with output? := none } none).run.run session =
      (.ok loaded, ended)) :
    (Configuration.load invocation.config?).run.run session.workspace = (.ok loaded, ended.workspace) ∧
    ∀ output? index?, (loadConfiguration { invocation with output? := output? } index?).run.run session =
      (withOptions ended.workspace output? index? loaded, ended) := by
  obtain ⟨workspace, output, log⟩ := session
  cases hload : (Configuration.load invocation.config?).run.run workspace with
  | mk result after =>
    have hrun : ∀ output? index?, (loadConfiguration { invocation with output? := output? }
        index?).run.run ⟨workspace, output, log⟩ =
          (result >>= withOptions after output? index?,
            ⟨after, output, log ++ announcement invocation.config?⟩) := by
      intro output? index?
      have hoption : (Configuration.load { invocation with output? := output? }.config?).run.run
          workspace = (result, after) := hload
      exact run_loadConfiguration hoption index? output log
    rw [hrun] at h
    obtain ⟨hresult, rfl⟩ := Prod.mk.inj h
    cases result with
    | error failure => cases hresult
    | ok found =>
      obtain rfl : found = loaded := Except.ok.inj hresult
      exact ⟨rfl, hrun⟩

/-- **Where the paths of a loaded configuration lead.**  Let a configuration load without options, in a working
directory that stands.  Then with any options the same file is read and the same is said.  A path of the command
line is meant in the working directory, whatever it looks like and whatever the file says, and is kept if it is a
text; without one, the path of the file, with its references replaced, is meant in the directory of the file.  All
other settings are those without options, and those of the file. -/
theorem loadConfiguration_anchored {invocation : Invocation} {session ended : Session}
    {loaded : Configuration} {here : Path} (hhere : session.workspace.currentDirectory = .ok here)
    (h : (Session.loadConfiguration { invocation with output? := none } none).run.run session =
      (.ok loaded, ended)) (output? index? : Option Path) :
    ∃ configuration,
      (Session.loadConfiguration { invocation with output? := output? } index?).run.run session =
        (.ok configuration, ended) ∧
      configuration = { loaded with
        outputPath := configuration.outputPath
        indexPath := configuration.indexPath } ∧
      (∀ path, output? = some path → (here.anchored path).isText = true →
        configuration.output = here.anchored path) ∧
      (∀ path, index? = some path → (here.anchored path).isText = true →
        configuration.index = here.anchored path) ∧
      ∃ file directory content settings,
        Configuration.located session.workspace invocation.config? = .ok file ∧
        file.parent = some directory ∧
        ended.workspace.readText file = .ok content ∧
        Configuration.settingsOf content = .ok settings ∧
        loaded = { settings with
          indexPath := loaded.indexPath
          outputPath := loaded.outputPath
          base? := some directory } ∧
        Chosen here ended.workspace.environment directory settings.outputPath output?
          configuration.output ∧
        Chosen here ended.workspace.environment directory settings.indexPath index?
          configuration.index := by
  obtain ⟨hload, hrun⟩ := Session.run_loadConfiguration_of_plain h
  obtain ⟨file, content, hlocated, hread, hok⟩ := Configuration.exists_of_load hload
  obtain ⟨settings, hsettings, hindex, houtput, hloaded, -⟩ := Configuration.exists_of_read hok
  obtain ⟨directory, hdirectory⟩ := Workspace.exists_parent_of_readText hread
  rw [hdirectory] at hloaded
  have hended : ended.workspace.currentDirectory = .ok here := by
    obtain ⟨hfiles, hplace⟩ := Configuration.kept_of_load hload
    rw [← hhere, Workspace.currentDirectory, Workspace.currentDirectory, Workspace.directoryPath,
      Workspace.directoryPath, hfiles, hplace]
  obtain ⟨configuration, hoptions⟩ := Session.exists_withOptions hended output? index? loaded
  obtain ⟨hsetOutput, hsetIndex, hsame⟩ := Session.eq_of_withOptions hoptions
  have hbase : configuration.base? = some directory := by rw [hsame, hloaded]
  have hchosenOutput := Session.chosen_of_settingOr hended hbase houtput hsetOutput
  have hchosenIndex := Session.chosen_of_settingOr hended hbase hindex hsetIndex
  refine ⟨configuration, by rw [hrun, hoptions], hsame, ?_, ?_, file, directory, content, settings, hlocated,
    hdirectory, hread, hsettings, hloaded, hchosenOutput, hchosenIndex⟩
  · rintro path rfl ht
    exact hchosenOutput.eq_anchored ht
  · rintro path rfl ht
    exact hchosenIndex.eq_anchored ht

/-- A configuration that looks for its index below a variable. -/
def deskText : String := "[scan]\nindex_path = \"$\x7bIDX\x7d/all\"\n"

def deskEnvironment : Environment := OrderedMap.ofList [("IDX", "idx"), ("OUT", "lost")]

def deskFiles : FileTree :=
  (FileTree.empty.put ["etc"] .directory).put ["etc", "convgen.toml"] (.file (.text deskText))

/-- A desk in a directory of this name, with the configuration in a directory of its own. -/
def deskIn (name : String) : Workspace where
  files := deskFiles.put [name] .directory
  directory := [name]
  environment := deskEnvironment

/-- The command `validate` with the configuration of the desk. -/
def deskCommand : Invocation := ⟨some ⟨"/etc/convgen.toml"⟩, 0, false, none, .validate none⟩

def deskConfiguration : Configuration :=
  { Configuration.default with indexPath := "idx/all", base? := some ⟨"/etc"⟩ }

theorem load_deskIn {name : String}
    (habsent : (deskIn name).environmentFile? (deskIn name).directoryPath.ancestors = none)
    (hhere : (deskIn name).currentDirectory = .ok (deskIn name).directoryPath)
    (hread : (deskIn name).readText ⟨"/etc/convgen.toml"⟩ = .ok deskText) (output : String)
    (log : List LogEntry) :
    (Session.loadConfiguration { deskCommand with output? := none } none).run.run ⟨deskIn name, output, log⟩ =
      (.ok deskConfiguration,
        ⟨deskIn name, output, log ++ Session.announcement deskCommand.config?⟩) := by
  have hsame : (deskIn name).loadEnvironment = deskIn name := by
    rw [Workspace.loadEnvironment, hhere]
    simp only [habsent]
  have hsettings : Configuration.read deskEnvironment ⟨"/etc/convgen.toml"⟩ deskText =
      .ok deskConfiguration := by decide +kernel
  have hload : (Configuration.load deskCommand.config?).run.run (deskIn name) =
      (.ok deskConfiguration, deskIn name) := by
    refine (Configuration.run_loadFile (deskIn name) ⟨"/etc/convgen.toml"⟩).trans ?_
    rw [hsame, hread]
    exact congrArg (·, deskIn name) hsettings
  exact Session.run_loadConfiguration hload none output log

theorem currentDirectory_deskIn (name : String) :
    (deskIn name).currentDirectory = .ok ⟨"/" ++ name⟩ := by
  have hput := FileTree.node?_put_self deskFiles (List.cons_ne_nil name []) .directory
  have hd : (deskIn name).files.hasDirectory (deskIn name).directory = true := by
    rw [FileTree.hasDirectory, show (deskIn name).directory = [name] from rfl, deskIn, hput]
    rfl
  rw [Workspace.currentDirectory_eq hd, Workspace.directoryPath]
  simp [deskIn]

/-- An output path that looks like a reference leads on from the working directory as it stands.  The path to
the index, which is from the file, has its reference replaced and leads on from the directory of the file. -/
theorem loadConfiguration_anchored_desk :
    ∃ configuration ended,
      (Session.loadConfiguration { deskCommand with output? := none } none).run.run
        (Session.start (deskIn "work")) = (.ok deskConfiguration, ended) ∧
      (Session.loadConfiguration { deskCommand with output? := some ⟨"$\x7bOUT\x7d/gen"⟩ } none).run.run
        (Session.start (deskIn "work")) = (.ok configuration, ended) ∧
      configuration.output = ⟨"/work/$\x7bOUT\x7d/gen"⟩ ∧ configuration.index = ⟨"/etc/idx/all"⟩ ∧
      configuration.profile = Profile.default := by
  have hread : (deskIn "work").readText ⟨"/etc/convgen.toml"⟩ = .ok deskText := by decide +kernel
  have hhere := currentDirectory_deskIn "work"
  have hplain := load_deskIn (by with_unfolding_all rfl) hhere hread "" []
  obtain ⟨configuration, hrun, heq, hkept, -, file, directory, content, settings, hfile, hdirectory, hcontent,
    hsettings, -, -, hindex⟩ := loadConfiguration_anchored hhere hplain (some ⟨"$\x7bOUT\x7d/gen"⟩) none
  refine ⟨configuration, _, hplain, hrun, ?_, ?_, by rw [heq]; rfl⟩
  · exact (hkept _ rfl (by decide)).trans (by decide)
  · obtain rfl : file = ⟨"/etc/convgen.toml"⟩ := (Except.ok.inj hfile).symm
    obtain rfl : directory = ⟨"/etc"⟩ := Option.some.inj (hdirectory.symm.trans (by decide))
    obtain rfl : content = deskText := Except.ok.inj (hcontent.symm.trans hread)
    have hpath : (Configuration.settingsOf deskText).map Configuration.indexPath =
        .ok "$\x7bIDX\x7d/all" := by decide +kernel
    have hreplaced : (deskIn "work").environment.substitute "$\x7bIDX\x7d/all" = .ok "idx/all" := by
      decide +kernel
    rw [hsettings] at hpath
    rw [← Except.ok.inj hpath] at hreplaced
    generalize configuration.index = target at hindex ⊢
    cases hindex with
    | setting hmade =>
      rw [Except.ok.inj (hmade.symm.trans hreplaced)]
      decide

/-- In a working directory whose name ends in the byte 0xFE, which belongs to no character, an output path leads
elsewhere.  An output path without text is not even accepted. -/
theorem loadConfiguration_stray :
    ∃ configuration ended,
      (Session.loadConfiguration { deskCommand with output? := none } none).run.run
        (Session.start (deskIn "work\x00\xfe")) = (.ok deskConfiguration, ended) ∧
      (Session.loadConfiguration { deskCommand with output? := some ⟨"out"⟩ } none).run.run
        (Session.start (deskIn "work\x00\xfe")) = (.ok configuration, ended) ∧
      (deskIn "work\x00\xfe").currentDirectory = .ok ⟨"/work\x00\xfe"⟩ ∧
      configuration.output = ⟨"/work\uFFFD/out"⟩ ∧
      configuration.output ≠ Path.join ⟨"/work\x00\xfe"⟩ ⟨"out"⟩ ∧
      CommandLine.read (deskIn "work\x00\xfe").environment ["--output", "", "validate"] =
        .error .invalidValue := by
  have hread : (deskIn "work\x00\xfe").readText ⟨"/etc/convgen.toml"⟩ = .ok deskText := by decide +kernel
  have hhere := currentDirectory_deskIn "work\x00\xfe"
  have hplain := load_deskIn (by with_unfolding_all rfl) hhere hread "" []
  obtain ⟨-, hwith⟩ := Session.run_loadConfiguration_of_plain hplain
  have hrun := hwith (some ⟨"out"⟩) none
  obtain ⟨configuration, hoptions⟩ := Session.exists_withOptions hhere (some ⟨"out"⟩) none deskConfiguration
  obtain ⟨hset, -, hsame⟩ := Session.eq_of_withOptions hoptions
  have hsubstitute : deskEnvironment.substitute deskConfiguration.outputPath =
      .ok deskConfiguration.outputPath := by decide +kernel
  have hbase : configuration.base? = some ⟨"/etc"⟩ := by rw [hsame]; rfl
  have hchosen := Session.chosen_of_settingOr hhere hbase hsubstitute hset
  have houtput : configuration.output = ⟨"/work\uFFFD/out"⟩ := by
    rw [Configuration.output]
    generalize configuration.resolve configuration.outputPath = target at hchosen ⊢
    cases hchosen
    decide
  refine ⟨configuration, _, hplain, hrun.trans (by rw [hoptions]), hhere, houtput, ?_, by decide +kernel⟩
  rw [houtput]
  decide

end ConverterBuilders
