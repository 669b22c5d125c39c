import ConverterBuilders.Configuration.Reader
import ConverterBuilders.Proofs.References
import ConverterBuilders.Proofs.Running

/-!
# Variables that are not set

Replacing the references of a text fails for the first of them that stands for nothing: one without a default
whose variable is not set.  Which references a text has is settled before the first is replaced, so the values
that come in cannot cause a failure and cannot prevent one.

Main statements:

* `found_iff`: the references of a text are those that a search from left to right finds;
* `replaceEach_eq_error_iff`: replacing fails for the first reference that stands for nothing;
* `substitute_eq_error_iff`: so does replacing the references of a text;
* `read_eq_error_iff`: a configuration is refused for such a reference before its settings are checked;
* `fails_for_first_unset`: all of it, and what does not matter for it.
-/

namespace ConverterBuilders

open VariableReference

/-! ## Searching from left to right -/

namespace VariableReference

/-- Whether references are those that a search from left to right finds in a text: none begins at a character
that is passed over, and behind one that was found the search goes on. -/
inductive Found : List VariableReference → List Char → Prop
  | nil : Found [] []
  | pass {references : List VariableReference} {c : Char} {cs : List Char}
    (hno : ∀ reference : VariableReference, reference.Shaped → ¬ reference.text <+: c :: cs)
    (hrest : Found references cs) : Found references (c :: cs)
  | take {reference : VariableReference} {references : List VariableReference} {cs : List Char}
    (hshaped : reference.Shaped) (hrest : Found references cs) :
    Found (reference :: references) (reference.text ++ cs)

variable {references : List VariableReference} {cs : List Char}

theorem at?_eq_none_iff : at? cs = none ↔
    ∀ reference : VariableReference, reference.Shaped → ¬ reference.text <+: cs := by
  rw [Option.eq_none_iff_forall_ne_some]
  refine forall_congr' fun reference => ?_
  rw [ne_eq, at?_eq_some_iff, not_and]
  refine imp_congr_right fun _ => not_congr ?_
  exact ⟨fun ⟨rest, h⟩ => ⟨rest, h.symm⟩, fun ⟨rest, h⟩ => ⟨rest, h.symm⟩⟩

theorem allFrom_eq_drop (skip : Nat) (cs : List Char) : allFrom skip cs = all (cs.drop skip) :=
  Text.scan_eq_drop (fun _ => rfl) (fun _ _ _ => rfl) skip cs

theorem all_cons_of_none {c : Char} (h : at? (c :: cs) = none) : all (c :: cs) = all cs := by
  rw [all, allFrom, h]
  rfl

theorem all_text_append {reference : VariableReference} (h : reference.Shaped) (cs : List Char) :
    all (reference.text ++ cs) = reference :: all cs := by
  have hat := at?_text_append h cs
  obtain ⟨c, tail, ht⟩ := List.exists_cons_of_ne_nil (Segment.text_ne_nil reference)
  rw [ht, List.cons_append] at hat ⊢
  rw [all, allFrom, hat]
  simp only [ht, allFrom_eq_drop]
  simp

theorem found_of_reads {segments : List Segment} (h : Segment.Reads segments cs) :
    Found (segments.filterMap Segment.reference?) cs := by
  induction h with
  | nil => exact .nil
  | plain hno _ ih => exact .pass (at?_eq_none_iff.1 hno) ih
  | reference hshaped _ ih => exact .take hshaped ih

/-- **The references of a text are those that a search from left to right finds.** -/
theorem found_iff : Found references cs ↔ references = all cs := by
  constructor
  · intro h
    induction h with
    | nil => rfl
    | pass hno _ ih => rw [all_cons_of_none (at?_eq_none_iff.2 hno), ih]
    | take hshaped _ ih => rw [all_text_append hshaped, ih]
  · rintro rfl
    rw [← Segment.references_all]
    exact found_of_reads (Segment.reads_all cs)

/-- Whether a reference stands for nothing: it has no default and its variable is not set. -/
def IsUnset (environment : Environment) (reference : VariableReference) : Prop :=
  reference.default? = none ∧ environment.value? reference.name = none

theorem value?_eq_none_iff {environment : Environment} {reference : VariableReference} :
    reference.value? environment = none ↔ reference.IsUnset environment := by
  unfold value? IsUnset
  cases environment.value? reference.name <;> simp

end VariableReference

/-! ## What replacing fails for -/

namespace Environment

variable {environment : Environment}

/-- Whether the first of some references that stands for nothing is to the variable `name`. -/
def FirstUnset (environment : Environment) (references : List VariableReference) (name : String) : Prop :=
  ∃ front reference back, references = front ++ reference :: back ∧
    (∀ earlier ∈ front, ¬ earlier.IsUnset environment) ∧ reference.IsUnset environment ∧
    String.ofList reference.name = name

theorem firstUnset_nil {name : String} : ¬ environment.FirstUnset [] name := by
  rintro ⟨front, reference, back, he, -⟩
  simp at he

theorem firstUnset_cons {reference : VariableReference} {rest : List VariableReference} {name : String} :
    environment.FirstUnset (reference :: rest) name ↔
      (reference.IsUnset environment ∧ String.ofList reference.name = name) ∨
      (¬ reference.IsUnset environment ∧ environment.FirstUnset rest name) := by
  constructor
  · rintro ⟨front, found, back, he, hfront, hunset, hname⟩
    cases front with
    | nil =>
      obtain ⟨rfl, rfl⟩ := List.cons_eq_cons.1 he
      exact .inl ⟨hunset, hname⟩
    | cons first front =>
      obtain ⟨rfl, rfl⟩ := List.cons_eq_cons.1 he
      exact .inr ⟨hfront _ (List.mem_cons_self ..), front, found, back, rfl,
        fun earlier hm => hfront earlier (List.mem_cons_of_mem _ hm), hunset, hname⟩
  · rintro (⟨hunset, hname⟩ | ⟨hset, front, found, back, rfl, hfront, hunset, hname⟩)
    · exact ⟨[], reference, rest, rfl, by simp, hunset, hname⟩
    · exact ⟨reference :: front, found, back, rfl, List.forall_mem_cons.2 ⟨hset, hfront⟩, hunset, hname⟩

theorem exists_firstUnset_iff {references : List VariableReference} :
    (∃ name, environment.FirstUnset references name) ↔
      ∃ reference ∈ references, reference.IsUnset environment := by
  induction references with
  | nil => simp [firstUnset_nil]
  | cons reference rest ih =>
    by_cases h : reference.IsUnset environment
    · simp [firstUnset_cons, h]
    · simp [firstUnset_cons, h, ih]

/-- **Replacing fails for the first reference that stands for nothing**, whatever the text is by then. -/
theorem replaceEach_eq_error_iff {references : List VariableReference} (cs : List Char)
    {failure : Failure} : environment.replaceEach references cs = .error failure ↔
      ∃ name, environment.FirstUnset references name ∧ failure = .variableNotSet name := by
  induction references generalizing cs with
  | nil => simp [replaceEach, firstUnset_nil]
  | cons reference rest ih =>
    rw [replaceEach]
    cases hvalue : reference.value? environment with
    | none =>
      have hunset := value?_eq_none_iff.1 hvalue
      simp [firstUnset_cons, hunset, eq_comm]
    | some value =>
      have hset : ¬ reference.IsUnset environment := by
        rw [← value?_eq_none_iff, hvalue]
        simp
      simp [firstUnset_cons, hset, ih]

/-- Whether the first reference of a text that stands for nothing is to the variable `name`. -/
def Lacks (environment : Environment) (text name : String) : Prop :=
  ∃ references, Found references text.toList ∧ environment.FirstUnset references name

theorem lacks_iff {text name : String} :
    environment.Lacks text name ↔ environment.FirstUnset (all text.toList) name := by
  simp [Lacks, found_iff]

theorem exists_lacks_iff {text : String} : (∃ name, environment.Lacks text name) ↔
    ∃ reference ∈ all text.toList, reference.IsUnset environment := by
  simp only [lacks_iff, exists_firstUnset_iff]

/-- **Replacing the references of a text fails for the first that stands for nothing.** -/
theorem substitute_eq_error_iff {text : String} {failure : Failure} :
    environment.substitute text = .error failure ↔
      ∃ name, environment.Lacks text name ∧ failure = .variableNotSet name := by
  simp only [lacks_iff]
  rw [← replaceEach_eq_error_iff text.toList, substitute]
  cases environment.replaceEach (all text.toList) text.toList <;> simp [Except.map]

theorem exists_substitute_error_iff {text : String} :
    (∃ failure, environment.substitute text = .error failure) ↔
      ∃ reference ∈ all text.toList, reference.IsUnset environment := by
  rw [← exists_lacks_iff]
  simp only [substitute_eq_error_iff]
  exact ⟨fun ⟨_, name, h, _⟩ => ⟨name, h⟩, fun ⟨name, h⟩ => ⟨_, name, h, rfl⟩⟩

theorem substitute_eq_variableNotSet_iff {text name : String} :
    environment.substitute text = .error (.variableNotSet name) ↔ environment.Lacks text name := by
  rw [substitute_eq_error_iff]
  constructor
  · rintro ⟨other, h, he⟩
    cases he
    exact h
  · exact fun h => ⟨name, h, rfl⟩

theorem exists_substitute_ok_iff {text : String} :
    (∃ result, environment.substitute text = .ok result) ↔ ¬ ∃ name, environment.Lacks text name := by
  cases hs : environment.substitute text with
  | ok result =>
    refine iff_of_true ⟨result, rfl⟩ fun ⟨name, h⟩ => ?_
    rw [← substitute_eq_variableNotSet_iff, hs] at h
    cases h
  | error failure =>
    obtain ⟨name, h, -⟩ := substitute_eq_error_iff.1 hs
    exact iff_of_false (by simp) (not_not_intro ⟨name, h⟩)

/-- Only which variables are set matters for the first reference that stands for nothing. -/
theorem firstUnset_congr {other : Environment} {references : List VariableReference}
    (h : ∀ reference ∈ references,
      (environment.value? reference.name).isSome = (other.value? reference.name).isSome)
    (name : String) : environment.FirstUnset references name ↔ other.FirstUnset references name := by
  have hunset : ∀ reference ∈ references,
      (reference.IsUnset environment ↔ reference.IsUnset other) := by
    intro reference hm
    have hset := h reference hm
    cases hv : environment.value? reference.name <;> cases ho : other.value? reference.name <;>
      simp_all [IsUnset]
  induction references with
  | nil => simp [firstUnset_nil]
  | cons reference rest ih =>
    have hrest : environment.FirstUnset rest name ↔ other.FirstUnset rest name :=
      ih (fun later hm => h later (List.mem_cons_of_mem _ hm))
        fun later hm => hunset later (List.mem_cons_of_mem _ hm)
    rw [firstUnset_cons, firstUnset_cons, hunset reference (List.mem_cons_self ..), hrest]

end Environment

/-! ## Configurations -/

namespace Configuration

variable {environment : Environment} {path : Path} {content name : String}

theorem validate_ne_variableNotSet (configuration : Configuration) :
    validate configuration ≠ .error (.variableNotSet name) := by
  unfold validate
  split
  · simp
  · split
    · simp
    · split <;> simp

/-- **A configuration is refused for a variable** if its path to the index lacks it, or else its output path,
whatever its other settings are. -/
theorem read_eq_error_iff :
    read environment path content = .error (.variableNotSet name) ↔
      ∃ settings, settingsOf content = .ok settings ∧
        (environment.Lacks settings.indexPath name ∨
          ((¬ ∃ other, environment.Lacks settings.indexPath other) ∧
            environment.Lacks settings.outputPath name)) := by
  cases hsettings : settingsOf content with
  | error fault =>
    have hread : read environment path content = .error (.configuration (faultOf path fault)) := by
      simp [read, hsettings, Except.mapError, bind, Except.bind]
    simp [hread]
  | ok settings =>
    have hparsed : ((Except.ok settings : Except Toml.Fault Configuration).mapError fun fault =>
        Failure.configuration (faultOf path fault)) = .ok settings := rfl
    rw [read, hsettings, hparsed]
    simp only [bind_eq_error_iff, Environment.substitute_eq_variableNotSet_iff,
      validate_ne_variableNotSet, ← Environment.exists_substitute_ok_iff]
    simp

end Configuration

namespace Environment

/-- **What replacing the references of a text fails for.**  It fails exactly if one of the references that a
search from left to right finds has no default and a variable that is not set, and then for the first such
reference.  So only the references of the text and which of their variables are set matter, and a text without
references is left alone.  A configuration is refused for a variable if the path to its index lacks it, or if
that path lacks none and the output path lacks it. -/
theorem fails_for_first_unset (environment : Environment) :
    (∀ text failure, environment.substitute text = .error failure ↔
      ∃ name, environment.Lacks text name ∧ failure = .variableNotSet name) ∧
    (∀ text, (∃ failure, environment.substitute text = .error failure) ↔
      ∃ references, Found references text.toList ∧
        ∃ reference ∈ references, reference.IsUnset environment) ∧
    (∀ text (other : Environment), (∀ references, Found references text.toList →
        ∀ reference ∈ references,
          (environment.value? reference.name).isSome = (other.value? reference.name).isSome) →
      ∀ failure, environment.substitute text = .error failure ↔ other.substitute text = .error failure) ∧
    (∀ text, Found [] text.toList → environment.substitute text = .ok text) ∧
    (∀ path content name, Configuration.read environment path content = .error (.variableNotSet name) ↔
      ∃ settings, Configuration.settingsOf content = .ok settings ∧
        (environment.Lacks settings.indexPath name ∨
          ((¬ ∃ other, environment.Lacks settings.indexPath other) ∧
            environment.Lacks settings.outputPath name))) := by
  refine ⟨fun _ _ => substitute_eq_error_iff, fun text => ?_, fun text other h failure => ?_,
    fun text h => ?_, fun _ _ _ => Configuration.read_eq_error_iff⟩
  · rw [exists_substitute_error_iff]
    simp [found_iff]
  · have hset := h _ (found_iff.2 rfl)
    simp only [substitute_eq_error_iff, lacks_iff, firstUnset_congr hset]
  · exact substitute_of_no_reference environment (found_iff.1 h).symm

/-- An environment in which the value of the only variable is a reference to another. -/
def leading : Environment := OrderedMap.ofList [("A", "$\x7bC\x7d")]

/-- The reference that `A` brings in does not matter, and a default helps no other reference to `B`.  What is no
reference may begin like one. -/
theorem fails_for_first_unset_leading :
    leading.substitute "$\x7bA\x7d$\x7bB:-x\x7d$\x7bB\x7d$\x7bC" = .error (.variableNotSet "B") ∧
    substitute (OrderedMap.ofList [("A", "y")])
      "$\x7bA\x7d$\x7bB:-x\x7d$\x7bB\x7d$\x7bC" = .error (.variableNotSet "B") ∧
    leading.substitute "$\x7b:-x\x7d$B\x7d$\x7b\x7d$\x7bB" = .ok "$\x7b:-x\x7d$B\x7d$\x7b\x7d$\x7bB" := by
  obtain ⟨hfails, -, hsame, hnone, -⟩ := fails_for_first_unset leading
  have hall : all "$\x7bA\x7d$\x7bB:-x\x7d$\x7bB\x7d$\x7bC".toList =
      [⟨['A'], none⟩, ⟨['B'], some ['x']⟩] ++ ⟨['B'], none⟩ :: [] := by decide
  have hfirst : leading.substitute "$\x7bA\x7d$\x7bB:-x\x7d$\x7bB\x7d$\x7bC" =
      .error (.variableNotSet "B") := by
    refine (hfails _ _).2 ⟨"B", ⟨_, found_iff.2 rfl, _, _, _, hall, ?_, ⟨rfl, by decide⟩, rfl⟩, rfl⟩
    simp only [List.forall_mem_cons]
    exact ⟨fun h => absurd h.2 (by decide), fun h => absurd h.1 (by decide), by simp⟩
  refine ⟨hfirst, (hsame _ _ ?_ _).1 hfirst, hnone _ (found_iff.2 (by decide))⟩
  intro references hf
  rw [found_iff.1 hf, hall]
  decide

end Environment

end ConverterBuilders
