import ConverterBuilders.Artifact.Buffer
import ConverterBuilders.Proofs.ArtifactPath
import ConverterBuilders.Proofs.Collision
import ConverterBuilders.Proofs.ScanOrder

/-!
# Filling a buffer

The artifacts of a run over an index go to different paths, since their converters do not collide.  So a
buffer takes all of them.

Main statements:

* `exists_of_run_ok`, `run_of_process`: a run is a report and the writing of its artifacts;
* `run_writeAll`: a buffer takes artifacts with different paths;
* `paths_nodup`: the artifacts of an index have different paths;
* `run_write_eq`: a buffer takes all artifacts of an index.
-/

namespace ConverterBuilders

namespace Report

/-! ## Runs -/

section Runs

variable {σ : Type} {resolver : Resolver} {configuration : Configuration}
  {write : Artifact → ExceptT Failure (StateM σ) Path} {s s' : σ} {report : Report}

theorem run_liftExcept (result : Except Failure Report) :
    (run.liftExcept result : ExceptT Failure (StateM σ) Report).run.run s = (result, s) := rfl

theorem run_of_process {paths : List Path} (hp : process resolver configuration = .ok report)
    (hw : (writeAll write report.artifacts).run.run s = (.ok paths, s')) :
    (run resolver configuration write).run.run s = (.ok { report with written := paths }, s') := by
  rw [run, hp, run_bind_of_ok (run_liftExcept _), run_bind_of_ok hw]
  rfl

theorem run_of_process_error {failure : Failure}
    (hp : process resolver configuration = .error failure) :
    (run resolver configuration write).run.run s = (.error failure, s) := by
  rw [run, hp, run_bind_of_error (run_liftExcept _)]

theorem run_of_process_failing {failure : Failure}
    (hp : process resolver configuration = .ok report)
    (hw : (writeAll write report.artifacts).run.run s = (.error failure, s')) :
    (run resolver configuration write).run.run s = (.error failure, s') := by
  rw [run, hp, run_bind_of_ok (run_liftExcept _), run_bind_of_error hw]

/-- A run that succeeded made a report and wrote all of its artifacts. -/
theorem exists_of_run_ok (h : (run resolver configuration write).run.run s = (.ok report, s')) :
    ∃ made paths, process resolver configuration = .ok made ∧
      (writeAll write made.artifacts).run.run s = (.ok paths, s') ∧
      report = { made with written := paths } := by
  cases hp : process resolver configuration with
  | error failure =>
    rw [run_of_process_error hp] at h
    cases h
  | ok made =>
    cases hw : (writeAll write made.artifacts).run.run s with
    | mk result s'' =>
      cases result with
      | error failure =>
        rw [run_of_process_failing hp hw] at h
        cases h
      | ok paths =>
        rw [run_of_process hp hw] at h
        cases h
        exact ⟨made, paths, rfl, hw, rfl⟩

end Runs

/-! ## The artifacts of a report -/

variable {resolver : Resolver} {configuration : Configuration} {report : Report}

/-- What a successful run says of the converters that the scan found. -/
theorem eq_of_process (h : process resolver configuration = .ok report) :
    ((scan resolver configuration).valid.map Converter.artifactIdentity).Nodup ∧
      report = ofOutcomes (scan resolver configuration)
        (outcomes resolver configuration (scan resolver configuration).valid) := by
  rcases process_cases resolver configuration with ⟨_, _, _, hp, _⟩ | ⟨hn, hp, _⟩
  · rw [hp] at h
    cases h
  · rw [hp] at h
    exact ⟨hn, (Except.ok.inj h).symm⟩

theorem artifacts_eq (h : process resolver configuration = .ok report) :
    report.artifacts = (scan resolver configuration).valid.filterMap fun converter =>
      Outcome.artifact? (generate resolver configuration converter) := by
  rw [(eq_of_process h).2]
  simp only [ofOutcomes, outcomes_eq, List.filterMap_map]
  rfl

/-- An artifact is for a converter that the resolver answered. -/
theorem exists_converter (hp : process resolver configuration = .ok report) {artifact : Artifact}
    (ha : artifact ∈ report.artifacts) :
    ∃ symbol converter, resolver.resolve symbol = some converter ∧ artifact.IsFor converter := by
  rw [artifacts_eq hp] at ha
  obtain ⟨converter, hc, hg⟩ := List.mem_filterMap.1 ha
  obtain ⟨symbol, _, hr⟩ := Scan.exists_of_mem_valid hc
  exact ⟨symbol, converter, hr, isFor_of_generate (generate_of_artifact? hg)⟩

/-- **The artifacts of an index have different paths.** -/
theorem paths_nodup {index : SymbolIndex} (hi : index.Reachable)
    (he : '.' ∉ configuration.fileExtension.toList)
    (hp : process index.resolver configuration = .ok report) :
    (report.artifacts.map fun artifact =>
      (artifact.relativePath configuration.fileExtension).key).Nodup := by
  have hidentities := List.pairwise_map.1 (eq_of_process hp).1
  rw [artifacts_eq hp, List.Nodup, List.pairwise_map, List.pairwise_filterMap]
  refine (List.Pairwise.and_mem.1 hidentities).imp fun {c d} h a ha b hb hk => h.2.2 ?_
  obtain ⟨s, _, hc⟩ := Scan.exists_of_mem_valid h.1
  obtain ⟨t, _, hd⟩ := Scan.exists_of_mem_valid h.2.1
  have hcw := hi.wellFormed.wellNamed_of_resolve hc
  have hdw := hi.wellFormed.wellNamed_of_resolve hd
  rw [Path.key_eq_iff,
    Artifact.components_relativePath (isFor_of_generate (generate_of_artifact? ha)) hcw he,
    Artifact.components_relativePath (isFor_of_generate (generate_of_artifact? hb)) hdw he,
    List.map_inj_right fun _ _ h => Path.Component.name.inj h] at hk
  exact Artifact.artifactIdentity_of_prefix hcw hdw ⟨[], (List.append_nil _).trans hk⟩

end Report

/-! ## Buffers -/

namespace Buffer

def fileOf (extension : String) (artifact : Artifact) : BufferedFile :=
  ⟨artifact.relativePath extension, artifact.declaration, artifact.text⟩

theorem run_write_of_free {buffer : Buffer} {artifact : Artifact}
    (h : buffer.files.get? (artifact.relativePath buffer.extension).key = none) :
    (write artifact).run.run buffer = (.ok (artifact.relativePath buffer.extension),
      buffer.insert (artifact.relativePath buffer.extension) artifact) :=
  put_of_free h

theorem insert_extension (buffer : Buffer) (path : Path) (artifact : Artifact) :
    (buffer.insert path artifact).extension = buffer.extension := rfl

theorem listing_insert {buffer : Buffer} {path : Path} (artifact : Artifact)
    (h : buffer.files.get? path.key = none) :
    (buffer.insert path artifact).listing.Perm
      (⟨path, artifact.declaration, artifact.text⟩ :: buffer.listing) :=
  (OrderedMap.perm_insertEntry h).map Prod.snd

/-- **A buffer takes artifacts with different paths that are free.** -/
theorem run_writeAll {artifacts : List Artifact} {buffer : Buffer} {extension : String}
    (hx : buffer.extension = extension)
    (hn : (artifacts.map fun artifact => (artifact.relativePath extension).key).Nodup)
    (hf : ∀ artifact ∈ artifacts, buffer.files.get? (artifact.relativePath extension).key = none) :
    ∃ after, (Report.writeAll write artifacts).run.run buffer =
        (.ok (artifacts.map fun artifact => artifact.relativePath extension), after) ∧
      after.listing.Perm (artifacts.map (fileOf extension) ++ buffer.listing) := by
  induction artifacts generalizing buffer with
  | nil => exact ⟨buffer, rfl, .refl _⟩
  | cons artifact rest ih =>
    subst hx
    rw [List.map_cons, List.nodup_cons] at hn
    have hfree := hf artifact (List.mem_cons_self ..)
    have hrest : ∀ other ∈ rest,
        (buffer.insert (artifact.relativePath buffer.extension) artifact).files.get?
          (other.relativePath buffer.extension).key = none := by
      intro other ho
      have hne : compare (other.relativePath buffer.extension).key
          (artifact.relativePath buffer.extension).key ≠ .eq := fun e =>
        hn.1 (List.mem_map.mpr ⟨other, ho, Std.LawfulEqOrd.eq_of_compare e⟩)
      exact (OrderedMap.get?_insert_of_ne _ _ hne).trans (hf other (List.mem_cons_of_mem _ ho))
    obtain ⟨after, hrun, hperm⟩ := ih (insert_extension buffer _ artifact) hn.2 hrest
    refine ⟨after, ?_, ?_⟩
    · rw [Report.writeAll, run_bind_of_ok (run_write_of_free hfree), run_bind_of_ok hrun]
      rfl
    · have hlist := (listing_insert artifact hfree).append_left (rest.map (fileOf buffer.extension))
      exact (hperm.trans hlist).trans List.perm_middle

/-- **A buffer takes all artifacts of an index.** -/
theorem run_write_eq {index : SymbolIndex} (hi : index.Reachable) {configuration : Configuration}
    (he : '.' ∉ configuration.fileExtension.toList) {report : Report}
    (hp : Report.process index.resolver configuration = .ok report) :
    ∃ buffer,
      (Report.run index.resolver configuration write).run.run (new configuration.fileExtension) =
        (.ok { report with written := report.artifacts.map fun artifact =>
          artifact.relativePath configuration.fileExtension }, buffer) ∧
      buffer.listing.Perm (report.artifacts.map (fileOf configuration.fileExtension)) := by
  have hn := Report.paths_nodup hi he hp
  have hnew : (new configuration.fileExtension).extension = configuration.fileExtension := rfl
  obtain ⟨buffer, hrun, hperm⟩ := run_writeAll hnew hn fun _ _ => rfl
  refine ⟨buffer, Report.run_of_process hp hrun, ?_⟩
  simpa [new, listing, OrderedMap.values, OrderedMap.empty] using hperm

end Buffer

end ConverterBuilders
