import ConverterBuilders.Proofs.Collision
import ConverterBuilders.Proofs.Insertion
import ConverterBuilders.Proofs.KeptFiles

/-!
# What stops a run

Loading an index fails because of a file or of what it holds, and a run fails because of a collision or of
a file.  So a command that ends with the failure of a single converter has loaded the index and written all
artifacts.

Main statements:

* `SymbolIndex.isRequest_of_load`: what loading an index fails with;
* `Report.sparesRequests_run`: what a run to files fails with.
-/

namespace ConverterBuilders

def Failure.isRequest : Failure → Bool
  | .request .. => true
  | _ => false

/-! ## Loading -/

namespace SymbolIndex

variable {workspace : Workspace} {index : SymbolIndex} {path : Path} {failure : Failure}

theorem isRequest_of_merge {merged : SymbolIndex} {format : Format} {content : String}
    (h : index.merge path format content = (merged, some failure)) : failure.isRequest = false := by
  unfold merge at h
  split at h
  · cases h
    rfl
  · rename_i declarations _
    have hinserts := inserts_insertAll path index declarations
    rw [h] at hinserts
    cases hinserts
    rfl

theorem isRequest_of_loadFile (h : loadFile workspace index path = .error failure) :
    failure.isRequest = false := by
  unfold loadFile at h
  split at h
  · cases h
    rfl
  · rcases bind_eq_error_iff.1 h with hread | ⟨content, -, hmerge⟩
    · rw [Workspace.readText] at hread
      cases hr : workspace.files.readText workspace.directory path with
      | ok content =>
        rw [hr] at hread
        cases hread
      | error fault =>
        rw [hr] at hread
        cases hread
        rfl
    · split at hmerge
      · cases hmerge
      · rename_i merged other hm
        cases hmerge
        exact isRequest_of_merge hm

/-- **Loading an index does not fail because of a single converter.** -/
theorem isRequest_of_load (h : load workspace path = .error failure) : failure.isRequest = false := by
  unfold load at h
  split at h
  · cases h
    rfl
  · split at h
    · rcases bind_eq_error_iff.1 h with hfiles | ⟨files, -, hload⟩
      · unfold indexFiles at hfiles
        split at hfiles
        · cases hfiles
          rfl
        · split at hfiles
          · cases hfiles
            rfl
          · cases hfiles
      · obtain ⟨_, _, -, hfile⟩ := exists_of_foldlM_error hload
        exact isRequest_of_loadFile hfile
    · exact isRequest_of_loadFile h

end SymbolIndex

/-! ## Writing -/

/-- Whether work does not fail because of a single converter. -/
def SparesRequests {σ α : Type} (task : ExceptT Failure (StateM σ) α) : Prop :=
  ∀ s failure s', task.run.run s = (.error failure, s') → failure.isRequest = false

section Tasks

variable {σ α β : Type}

theorem sparesRequests_pure (a : α) : SparesRequests (pure a : ExceptT Failure (StateM σ) α) := by
  intro s failure s' h
  cases h

theorem SparesRequests.bind {task : ExceptT Failure (StateM σ) α} {next : α → ExceptT Failure (StateM σ) β}
    (h : SparesRequests task) (hn : ∀ a, SparesRequests (next a)) : SparesRequests (task >>= next) := by
  intro s failure s' hrun
  rcases run_bind_error_cases hrun with ⟨between, hfirst⟩ | ⟨a, between, -, hsecond⟩
  · exact h s failure between hfirst
  · exact hn a between failure s' hsecond

end Tasks

theorem Workspace.sparesRequests_change (action : Location → FileTree.Change Unit) :
    SparesRequests (change action) := by
  intro workspace failure after h
  rw [run_change] at h
  have hresult := congrArg Prod.fst h
  cases hr : ((action workspace.directory).run.run workspace.files).1 with
  | ok =>
    rw [hr] at hresult
    cases hresult
  | error fault =>
    rw [hr] at hresult
    cases hresult
    rfl

theorem Destination.sparesRequests_write (destination : Destination) (artifact : Artifact) :
    SparesRequests (destination.write artifact) := by
  have hwrite := fun path : Path =>
    (Workspace.sparesRequests_change fun here => FileTree.writeText here path artifact.text).bind
      fun _ => sparesRequests_pure path
  unfold write
  simp only
  split
  · exact (Workspace.sparesRequests_change _).bind fun _ => hwrite _
  · exact hwrite _

namespace Report

variable {σ : Type} {write : Artifact → ExceptT Failure (StateM σ) Path}

theorem sparesRequests_writeAll (h : ∀ artifact, SparesRequests (write artifact))
    (artifacts : List Artifact) : SparesRequests (writeAll write artifacts) := by
  induction artifacts with
  | nil => exact sparesRequests_pure []
  | cons artifact rest ih =>
    exact (h artifact).bind fun path => ih.bind fun paths => sparesRequests_pure (path :: paths)

/-- **A run does not fail because of a single converter, if writing does not.** -/
theorem sparesRequests_run (h : ∀ artifact, SparesRequests (write artifact)) (resolver : Resolver)
    (configuration : Configuration) : SparesRequests (run resolver configuration write) := by
  have hprocess : SparesRequests
      (run.liftExcept (process resolver configuration) : ExceptT Failure (StateM σ) Report) := by
    intro s failure s' hlift
    rcases process_cases resolver configuration with ⟨_, _, _, hp, _⟩ | ⟨_, hp, _⟩
    · rw [hp] at hlift
      cases hlift
      rfl
    · rw [hp] at hlift
      cases hlift
  exact hprocess.bind fun report =>
    (sparesRequests_writeAll h report.artifacts).bind fun written =>
      sparesRequests_pure { report with written := written }

end Report

end ConverterBuilders
