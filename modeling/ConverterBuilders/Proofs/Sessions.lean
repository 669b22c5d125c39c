import ConverterBuilders.Inspection
import ConverterBuilders.Proofs.Running

/-!
# What tasks yield

What a task of a session yields, its log messages aside: a result, the workspace and the printed text.

Main statements:

* `Yields.bind`, `Yields.bind_error`: what the parts of a task yield;
* `Speaks.append`, `Speaks.forAll`: tasks that add the same messages to any log;
* `OnlySays.forAll`, `onlySays_sayChecked`: saying something changes nothing else;
* `yields_print_all`: texts that are printed one by one stand one behind the other.
-/

namespace ConverterBuilders.Session

/-- Whether a task that begins in a workspace behind a printed text ends with a result, a workspace and a
printed text, whatever the log says. -/
def Yields {α : Type} (task : Task α) (workspace : Workspace) (output : String)
    (result : Except Failure α) (workspace' : Workspace) (output' : String) : Prop :=
  ∀ log, ∃ log', task.run.run ⟨workspace, output, log⟩ = (result, ⟨workspace', output', log'⟩)

/-- Whether a task succeeds and changes nothing but the log. -/
def OnlySays (task : Task Unit) : Prop :=
  ∀ workspace output, Yields task workspace output (.ok ()) workspace output

section Yields

variable {α β : Type} {workspace workspace' workspace'' : Workspace} {output output' output'' : String}

theorem Yields.bind {task : Task α} {next : α → Task β} {a : α} {result : Except Failure β}
    (h : Yields task workspace output (.ok a) workspace' output')
    (hn : Yields (next a) workspace' output' result workspace'' output'') :
    Yields (task >>= next) workspace output result workspace'' output'' := by
  intro log
  obtain ⟨log', h'⟩ := h log
  obtain ⟨log'', hn'⟩ := hn log'
  exact ⟨log'', (run_bind_of_ok h').trans hn'⟩

theorem Yields.bind_error {task : Task α} (next : α → Task β) {failure : Failure}
    (h : Yields task workspace output (.error failure) workspace' output') :
    Yields (task >>= next) workspace output (.error failure) workspace' output' := by
  intro log
  obtain ⟨log', h'⟩ := h log
  exact ⟨log', run_bind_of_error h'⟩

theorem yields_pure (a : α) : Yields (pure a) workspace output (.ok a) workspace output :=
  fun log => ⟨log, rfl⟩

theorem yields_throw (failure : Failure) :
    Yields (throw failure : Task α) workspace output (.error failure) workspace output :=
  fun log => ⟨log, rfl⟩

theorem run_ofResult (result : Except Failure α) (session : Session) :
    (ofResult result).run.run session = (result, session) := by
  cases result <;> rfl

theorem run_inWorkspace (task : Workspace.Task α) (session : Session) :
    (inWorkspace task).run.run session =
      ((task.run.run session.workspace).1,
        { session with workspace := (task.run.run session.workspace).2 }) := by
  have hget : (get : Task Session).run.run session = (.ok session, session) := rfl
  rw [inWorkspace, run_bind_of_ok hget]
  cases hr : task.run.run session.workspace with
  | mk result workspace =>
    simp only
    cases result <;> rfl

theorem yields_inWorkspace {task : Workspace.Task α} {result : Except Failure α}
    (h : task.run.run workspace = (result, workspace')) :
    Yields (inWorkspace task) workspace output result workspace' output := by
  intro log
  refine ⟨log, ?_⟩
  rw [run_inWorkspace, h]

end Yields

/-! ## Speaking -/

/-- Whether a task ends with a result and only adds the same messages to any log. -/
def Speaks (task : Task Unit) (result : Except Failure Unit) : Prop :=
  ∃ messages, ∀ session : Session,
    task.run.run session = (result, { session with log := session.log ++ messages })

theorem speaks_pure : Speaks (pure ()) (.ok ()) :=
  ⟨[], fun session => by rw [List.append_nil]; rfl⟩

theorem speaks_throw (failure : Failure) : Speaks (throw failure) (.error failure) :=
  ⟨[], fun session => by rw [List.append_nil]; rfl⟩

theorem speaks_say (level : LogLevel) (message : String) : Speaks (say level message) (.ok ()) :=
  ⟨[⟨level, message⟩], fun _ => rfl⟩

theorem Speaks.append {task next : Task Unit} {result : Except Failure Unit} (h : Speaks task (.ok ()))
    (hn : Speaks next result) : Speaks (task >>= fun _ => next) result := by
  obtain ⟨messages, h⟩ := h
  obtain ⟨others, hn⟩ := hn
  refine ⟨messages ++ others, fun session => ?_⟩
  rw [run_bind_of_ok (h session), hn]
  simp only [List.append_assoc]

theorem Speaks.forAll {α : Type} {action : α → Task Unit} (h : ∀ a, Speaks (action a) (.ok ()))
    (values : List α) : Speaks (Session.forAll action values) (.ok ()) := by
  induction values with
  | nil => exact speaks_pure
  | cons a rest ih => exact (h a).append ih

theorem Speaks.yields {task : Task Unit} {result : Except Failure Unit} (h : Speaks task result)
    (workspace : Workspace) (output : String) : Yields task workspace output result workspace output := by
  obtain ⟨messages, h⟩ := h
  exact fun log => ⟨log ++ messages, h ⟨workspace, output, log⟩⟩

/-! ## Saying something -/

theorem OnlySays.yields {task : Task Unit} (h : OnlySays task) {workspace : Workspace}
    {output : String} : Yields task workspace output (.ok ()) workspace output :=
  h workspace output

theorem onlySays_pure : OnlySays (pure ()) := speaks_pure.yields

theorem onlySays_say (level : LogLevel) (message : String) : OnlySays (say level message) :=
  (speaks_say level message).yields

theorem onlySays_inform (message : String) : OnlySays (inform message) := onlySays_say _ message

/-- A task that says something first yields what its rest yields. -/
theorem OnlySays.bind {β : Type} {task : Task Unit} (h : OnlySays task) {next : Unit → Task β}
    {workspace workspace' : Workspace} {output output' : String} {result : Except Failure β}
    (hn : Yields (next ()) workspace output result workspace' output') :
    Yields (task >>= next) workspace output result workspace' output' :=
  h.yields.bind hn

theorem OnlySays.append {task next : Task Unit} (h : OnlySays task) (hn : OnlySays next) :
    OnlySays (task >>= fun _ => next) :=
  fun _ _ => h.bind hn.yields

theorem OnlySays.forAll {α : Type} {action : α → Task Unit} (h : ∀ a, OnlySays (action a))
    (values : List α) : OnlySays (forAll action values) := by
  induction values with
  | nil => exact onlySays_pure
  | cons a rest ih => exact (h a).append ih

/-- **Texts that are printed one by one stand one behind the other.** -/
theorem yields_print_all {α : Type} (text : α → String) (values : List α) (workspace : Workspace)
    (output : String) :
    Yields (forAll (fun a => print (text a)) values) workspace output (.ok ()) workspace
      (output ++ String.join (values.map text)) := by
  -- each text goes behind what was printed before, so the induction is for any of it
  induction values generalizing output with
  | nil =>
    rw [List.map_nil, String.join_nil, String.append_empty]
    exact yields_pure ()
  | cons a rest ih =>
    have hprint : Yields (print (text a)) workspace output (.ok ()) workspace (output ++ text a) :=
      fun log => ⟨log, rfl⟩
    rw [List.map_cons, String.join_cons, ← String.append_assoc]
    exact hprint.bind (ih _)

end ConverterBuilders.Session
