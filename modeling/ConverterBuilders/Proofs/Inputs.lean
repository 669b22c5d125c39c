import ConverterBuilders.Proofs.IndexInvariant
import ConverterBuilders.Proofs.Sessions

/-!
# What all commands begin with

Every command that looks at converters loads a configuration and then the symbol index that it names.  The
configuration has passed its check, and the index is one that can be made.

Main statements:

* `exists_of_read`, `exists_of_load`: what a configuration that was loaded comes from;
* `fileExtension_of_read`, `fileExtension_of_load`: the file extension of a configuration;
* `run_loadConfiguration`, `run_loadIndex`: what the first steps of a command come to;
* `yields_of_inputs_error`, `yields_of_inputs_ok`: how a command goes on from there.
-/

namespace ConverterBuilders

namespace Workspace

theorem run_inspect {α : Type} (look : Workspace → Except Failure α) (workspace : Workspace) :
    (inspect look).run.run workspace = (look workspace, workspace) := by
  have hget : (get : Task Workspace).run.run workspace = (.ok workspace, workspace) := rfl
  rw [inspect, run_bind_of_ok hget]
  cases look workspace <;> rfl

end Workspace

namespace Configuration

variable {workspace after : Workspace} {configuration : Configuration}

/-! ## What a configuration comes from -/

/-- **A configuration that was read is what its file says**, with the references in its two paths replaced and
the directory of the file for a base, and it has passed the check. -/
theorem exists_of_read {environment : Environment} {path : Path} {content : String}
    (h : read environment path content = .ok configuration) :
    ∃ settings, settingsOf content = .ok settings ∧
      environment.substitute settings.indexPath = .ok configuration.indexPath ∧
      environment.substitute settings.outputPath = .ok configuration.outputPath ∧
      configuration = { settings with
        indexPath := configuration.indexPath
        outputPath := configuration.outputPath
        base? := path.parent } ∧
      validate configuration = .ok () := by
  unfold read at h
  obtain ⟨settings, hparsed, h⟩ := bind_eq_ok_iff.1 h
  obtain ⟨indexPath, hindex, h⟩ := bind_eq_ok_iff.1 h
  obtain ⟨outputPath, houtput, h⟩ := bind_eq_ok_iff.1 h
  obtain ⟨_, hvalid, h⟩ := bind_eq_ok_iff.1 h
  cases h
  cases hsettings : settingsOf content with
  | error fault =>
    rw [hsettings] at hparsed
    cases hparsed
  | ok found =>
    rw [hsettings] at hparsed
    cases hparsed
    exact ⟨settings, rfl, hindex, houtput, rfl, hvalid⟩

/-- The file extension of a configuration that was read is not empty and has no point in it. -/
theorem fileExtension_of_read {environment : Environment} {path : Path} {content : String}
    (h : read environment path content = .ok configuration) :
    configuration.fileExtension.isEmpty = false ∧ '.' ∉ configuration.fileExtension.toList := by
  obtain ⟨_, -, -, -, -, hvalid⟩ := exists_of_read h
  exact ((validate_eq_ok_iff configuration).1 hvalid).2.2

/-- What reading a configuration file comes to. -/
theorem run_loadFile (workspace : Workspace) (path : Path) :
    (loadFile path).run.run workspace =
      (workspace.loadEnvironment.readText path >>= read workspace.loadEnvironment.environment path,
        workspace.loadEnvironment) := by
  have hmodify : (modify Workspace.loadEnvironment : Workspace.Task Unit).run.run workspace =
      (.ok (), workspace.loadEnvironment) := rfl
  rw [loadFile, run_bind_of_ok hmodify]
  cases hread : workspace.loadEnvironment.readText path with
  | error failure =>
    refine run_bind_of_error ?_
    rw [Workspace.run_inspect, hread]
  | ok content =>
    refine (run_bind_of_ok ?_).trans (Workspace.run_inspect _ _)
    rw [Workspace.run_inspect, hread]

/-- What finding and reading a configuration file comes to. -/
theorem run_discover (workspace : Workspace) :
    discover.run.run workspace =
      match searchStart workspace.loadEnvironment >>= find workspace.loadEnvironment with
      | .error failure => (.error failure, workspace.loadEnvironment)
      | .ok path => (loadFile path).run.run workspace.loadEnvironment := by
  have hmodify : (modify Workspace.loadEnvironment : Workspace.Task Unit).run.run workspace =
      (.ok (), workspace.loadEnvironment) := rfl
  rw [discover, run_bind_of_ok hmodify]
  cases hfind : searchStart workspace.loadEnvironment >>= find workspace.loadEnvironment with
  | error failure =>
    refine run_bind_of_error ?_
    rw [Workspace.run_inspect, hfind]
  | ok path =>
    refine run_bind_of_ok ?_
    rw [Workspace.run_inspect, hfind]

/-- The configuration file that is read: the one that is named, or else the one that a search finds. -/
def located (workspace : Workspace) : Option Path → Except Failure Path
  | some path => .ok path
  | none => searchStart workspace.loadEnvironment >>= find workspace.loadEnvironment

/-- **A configuration that was loaded was read from one file**, with the variables that were set by then. -/
theorem exists_of_load {config? : Option Path}
    (h : (load config?).run.run workspace = (.ok configuration, after)) :
    ∃ path content, located workspace config? = .ok path ∧ after.readText path = .ok content ∧
      read after.environment path content = .ok configuration := by
  have hfile : ∀ before path, (loadFile path).run.run before = (.ok configuration, after) →
      ∃ content, after.readText path = .ok content ∧
        read after.environment path content = .ok configuration := by
    intro before path hload
    rw [run_loadFile] at hload
    obtain ⟨hread, rfl⟩ := Prod.mk.inj hload
    exact bind_eq_ok_iff.1 hread
  cases config? with
  | some path =>
    obtain ⟨content, hread, hok⟩ := hfile _ _ h
    exact ⟨path, content, rfl, hread, hok⟩
  | none =>
    rw [load, run_discover] at h
    split at h
    · cases h
    · rename_i path hfind
      obtain ⟨content, hread, hok⟩ := hfile _ _ h
      exact ⟨path, content, hfind, hread, hok⟩

/-- **The file extension of a configuration that was loaded is not empty and has no point in it.** -/
theorem fileExtension_of_load {path? : Option Path}
    (h : (load path?).run.run workspace = (.ok configuration, after)) :
    configuration.fileExtension.isEmpty = false ∧ '.' ∉ configuration.fileExtension.toList := by
  obtain ⟨path, content, -, -, hread⟩ := exists_of_load h
  exact fileExtension_of_read hread

end Configuration

namespace Session

/-- **Options change nothing but the two paths.** -/
theorem eq_of_withOptions {workspace : Workspace} {output? index? : Option Path}
    {loaded configuration : Configuration}
    (h : withOptions workspace output? index? loaded = .ok configuration) :
    settingOr workspace output? loaded.outputPath = .ok configuration.outputPath ∧
      settingOr workspace index? loaded.indexPath = .ok configuration.indexPath ∧
      configuration = { loaded with
        outputPath := configuration.outputPath
        indexPath := configuration.indexPath } := by
  obtain ⟨outputPath, houtput, h⟩ := bind_eq_ok_iff.1 h
  obtain ⟨indexPath, hindex, h⟩ := bind_eq_ok_iff.1 h
  cases h
  exact ⟨houtput, hindex, rfl⟩

/-- The configuration that a command line asks for in a workspace, and the index that it names. -/
def inputs (workspace : Workspace) (config? output? index? : Option Path) :
    Except Failure (Configuration × SymbolIndex) := do
  let (result, after) := (Configuration.load config?).run.run workspace
  let loaded ← result
  let configuration ← withOptions after output? index? loaded
  let index ← SymbolIndex.load after configuration.index
  .ok (configuration, index)

variable {workspace : Workspace} {output : String} {invocation : Invocation} {index? : Option Path}

/-! ## The first steps of a command -/

def announcement : Option Path → List LogEntry
  | some path => [⟨.info, "Using configuration file " ++ path.quoted⟩]
  | none => []

/-- **What loading a configuration comes to**; what it says depends on the command line only. -/
theorem run_loadConfiguration {result : Except Failure Configuration} {after : Workspace}
    (h : (Configuration.load invocation.config?).run.run workspace = (result, after))
    (index? : Option Path) (output : String) (log : List LogEntry) :
    (loadConfiguration invocation index?).run.run ⟨workspace, output, log⟩ =
      (result >>= withOptions after invocation.output? index?,
        ⟨after, output, log ++ announcement invocation.config?⟩) := by
  have hload : ∀ log,
      (do
        let configuration ← inWorkspace (Configuration.load invocation.config?)
        ofResult (withOptions (← get).workspace invocation.output? index? configuration) :
          Task Configuration).run.run ⟨workspace, output, log⟩ =
        (result >>= withOptions after invocation.output? index?, ⟨after, output, log⟩) := by
    intro log
    have hwork := run_inWorkspace (Configuration.load invocation.config?) ⟨workspace, output, log⟩
    rw [h] at hwork
    cases result with
    | error failure => exact run_bind_of_error hwork
    | ok loaded =>
      exact (run_bind_of_ok hwork).trans (run_ofResult _ _)
  unfold loadConfiguration
  cases hc : invocation.config? with
  | none =>
    rw [hc] at hload
    rw [announcement, List.append_nil]
    exact hload log
  | some path =>
    have hsay : (inform ("Using configuration file " ++ path.quoted)).run.run
        ⟨workspace, output, log⟩ = (.ok (), ⟨workspace, output, log ++ announcement (some path)⟩) := rfl
    rw [hc] at hload
    exact (run_bind_of_ok hsay).trans (hload _)

theorem yields_loadConfiguration {result : Except Failure Configuration} {after : Workspace}
    (h : (Configuration.load invocation.config?).run.run workspace = (result, after)) :
    Yields (loadConfiguration invocation index?) workspace output
      (result >>= withOptions after invocation.output? index?) after output :=
  fun log => ⟨_, run_loadConfiguration h index? output log⟩

def loading (configuration : Configuration) : LogEntry :=
  ⟨.info, "Loading symbol index from " ++ configuration.index.quoted⟩

theorem run_loadIndex (configuration : Configuration) (session : Session) :
    (loadIndex configuration).run.run session =
      (SymbolIndex.load session.workspace configuration.index,
        { session with log := session.log ++ [loading configuration] }) := by
  have hsay : (inform ("Loading symbol index from " ++ configuration.index.quoted)).run.run
      session = (.ok (), { session with log := session.log ++ [loading configuration] }) := rfl
  rw [loadIndex, run_bind_of_ok hsay]
  refine (run_bind_of_ok rfl).trans ?_
  cases SymbolIndex.load session.workspace configuration.index <;> rfl

theorem yields_loadIndex (workspace : Workspace) (output : String) (configuration : Configuration) :
    Yields (loadIndex configuration) workspace output
      (SymbolIndex.load workspace configuration.index) workspace output :=
  fun _ => ⟨_, run_loadIndex configuration _⟩

/-! ## Going on -/

/-- What both inputs come from. -/
theorem exists_of_inputs_ok {config? output? : Option Path} {configuration : Configuration}
    {index : SymbolIndex} (h : inputs workspace config? output? index? = .ok (configuration, index)) :
    ∃ loaded after, (Configuration.load config?).run.run workspace = (.ok loaded, after) ∧
      withOptions after output? index? loaded = .ok configuration ∧
      SymbolIndex.load after configuration.index = .ok index := by
  cases hl : (Configuration.load config?).run.run workspace with
  | mk result after =>
    simp only [inputs, hl] at h
    obtain ⟨loaded, hloaded, h⟩ := bind_eq_ok_iff.1 h
    obtain ⟨options, hoptions, h⟩ := bind_eq_ok_iff.1 h
    obtain ⟨index', hindex, h⟩ := bind_eq_ok_iff.1 h
    cases h
    subst hloaded
    exact ⟨loaded, after, rfl, hoptions, hindex⟩

def reached (workspace : Workspace) (config? : Option Path) : Workspace :=
  ((Configuration.load config?).run.run workspace).2

section Commands

variable {next : Configuration → Task Unit} {body : Configuration → SymbolIndex → Task Unit}

/-- Whether a task only says something before it loads the index and goes on. -/
def GoesOn (next : Configuration → Task Unit) (body : Configuration → SymbolIndex → Task Unit) : Prop :=
  ∀ configuration workspace output result workspace' output',
    Yields (loadIndex configuration >>= body configuration) workspace output result workspace' output' →
      Yields (next configuration) workspace output result workspace' output'

theorem GoesOn.load (body : Configuration → SymbolIndex → Task Unit) :
    GoesOn (fun configuration => loadIndex configuration >>= body configuration) body :=
  fun _ _ _ _ _ _ h => h

theorem GoesOn.say {task : Configuration → Task Unit}
    (ht : ∀ configuration, OnlySays (task configuration)) (hn : GoesOn next body) :
    GoesOn (fun configuration => task configuration >>= fun _ => next configuration) body :=
  fun configuration _ _ _ _ _ h => (ht configuration).bind (hn _ _ _ _ _ _ h)

/-- **A command without a configuration or an index goes no further.** -/
theorem yields_of_inputs_error (hn : GoesOn next body) {failure : Failure}
    (h : inputs workspace invocation.config? invocation.output? index? = .error failure) :
    Yields (loadConfiguration invocation index? >>= next) workspace output (.error failure)
      (reached workspace invocation.config?) output := by
  cases hl : (Configuration.load invocation.config?).run.run workspace with
  | mk result after =>
    have hconfiguration : Yields (loadConfiguration invocation index?) workspace output
        (result >>= withOptions after invocation.output? index?) after output :=
      yields_loadConfiguration hl
    have hrest : (do
        let configuration ← result >>= withOptions after invocation.output? index?
        let index ← SymbolIndex.load after configuration.index
        Except.ok (configuration, index)) = .error failure := by
      rw [bind_assoc]
      simpa only [inputs, hl] using h
    simp only [reached, hl]
    cases hc : result >>= withOptions after invocation.output? index? with
    | error _ =>
      rw [hc] at hconfiguration hrest
      cases hrest
      exact hconfiguration.bind_error _
    | ok configuration =>
      rw [hc] at hconfiguration hrest
      refine hconfiguration.bind (hn _ _ _ _ _ _ ?_)
      have hindex := yields_loadIndex after output configuration
      cases hi : SymbolIndex.load after configuration.index with
      | error _ =>
        simp only [hi, bind, Except.bind] at hrest hindex
        cases hrest
        exact hindex.bind_error _
      | ok index => simp [hi, bind, Except.bind] at hrest

/-- **A command with a configuration and an index goes on with them.** -/
theorem yields_of_inputs_ok (hn : GoesOn next body) {configuration : Configuration}
    {index : SymbolIndex} {result : Except Failure Unit} {output' : String}
    (h : inputs workspace invocation.config? invocation.output? index? = .ok (configuration, index))
    (hb : Yields (body configuration index) (reached workspace invocation.config?) output result
      (reached workspace invocation.config?) output') :
    Yields (loadConfiguration invocation index? >>= next) workspace output result
      (reached workspace invocation.config?) output' := by
  obtain ⟨loaded, after, hl, ho, hi⟩ := exists_of_inputs_ok h
  have hafter : reached workspace invocation.config? = after := congrArg Prod.snd hl
  have hconfiguration : Yields (loadConfiguration invocation index?) workspace output
      (.ok configuration) after output := by
    have hyields : Yields (loadConfiguration invocation index?) workspace output
        (withOptions after invocation.output? index? loaded) after output :=
      yields_loadConfiguration hl
    rwa [ho] at hyields
  have hindex := yields_loadIndex after output configuration
  rw [hi] at hindex
  rw [hafter] at hb ⊢
  exact hconfiguration.bind (hn _ _ _ _ _ _ (hindex.bind hb))

end Commands

end Session

end ConverterBuilders
