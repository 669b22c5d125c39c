import ConverterBuilders.Proofs.Filling

/-!
# What a buffer holds

Artifacts are written to a buffer one after the other, also behind those that are refused.  The first artifact
at a path stays, and it is the one that a later artifact at this path is refused for.  A path is known by its
components, so packages that are spelled differently may lead to one path.

Main statements:

* `Keeps.put_eq`: what becomes of an artifact is decided by the first one at its path;
* `Keeps.put`, `keeps_written`: after any artifacts a buffer keeps the first one at each path;
* `Keeps.mem_listing_iff`, `Keeps.get?_eq_some_iff`: the files of a buffer, and what a look-up finds;
* `written_of_any`: all of it for all artifacts.
-/

namespace ConverterBuilders.Buffer

/-- Put artifacts one after the other, going on behind those that are refused. -/
def putAll : List Artifact → Buffer → List (Except Failure Path) × Buffer
  | [], buffer => ([], buffer)
  | artifact :: rest, buffer =>
    ((put artifact buffer).1 :: (putAll rest (put artifact buffer).2).1,
      (putAll rest (put artifact buffer).2).2)

def written (extension : String) (artifacts : List Artifact) : Buffer :=
  (putAll artifacts (new extension)).2

/-- What became of artifacts that were written to a new buffer. -/
def answers (extension : String) (artifacts : List Artifact) : List (Except Failure Path) :=
  (putAll artifacts (new extension)).1

def firstAt (extension : String) (path : Path) (artifacts : List Artifact) : Option Artifact :=
  artifacts.find? fun artifact => (artifact.relativePath extension).components = path.components

theorem putAll_append (front back : List Artifact) (buffer : Buffer) :
    putAll (front ++ back) buffer =
      ((putAll front buffer).1 ++ (putAll back (putAll front buffer).2).1,
        (putAll back (putAll front buffer).2).2) := by
  induction front generalizing buffer with
  | nil => rfl
  | cons artifact front ih => simp [putAll, ih]

/-! ## One artifact more -/

/-- Whether a buffer keeps the first artifact at each path and nothing else. -/
structure Keeps (buffer : Buffer) (extension : String) (artifacts : List Artifact) : Prop where
  sameExtension : buffer.extension = extension
  files : ∀ key, buffer.files.get? key =
    (artifacts.find? fun artifact => (artifact.relativePath extension).key = key).map (fileOf extension)

variable {buffer : Buffer} {extension : String} {artifacts : List Artifact}

theorem find?_key_eq (path : Path) :
    (artifacts.find? fun artifact => (artifact.relativePath extension).key = path.key) =
      firstAt extension path artifacts := by
  simp only [firstAt, Path.key_eq_iff]

theorem Keeps.get?_key (h : Keeps buffer extension artifacts) (path : Path) :
    buffer.files.get? path.key = (firstAt extension path artifacts).map (fileOf extension) := by
  rw [h.files, find?_key_eq]

/-- **The first artifact at its path decides what becomes of an artifact.** -/
theorem Keeps.put_eq (h : Keeps buffer extension artifacts) (artifact : Artifact) :
    put artifact buffer =
      match firstAt extension (artifact.relativePath extension) artifacts with
      | some first => (.error (.collision (artifact.relativePath extension).text first.declaration
          artifact.declaration), buffer)
      | none => (.ok (artifact.relativePath extension),
          buffer.insert (artifact.relativePath extension) artifact) := by
  have hkey := h.get?_key (artifact.relativePath extension)
  obtain rfl := h.sameExtension
  cases hfirst : firstAt buffer.extension (artifact.relativePath buffer.extension) artifacts with
  | some first =>
    rw [hfirst] at hkey
    exact put_of_taken hkey
  | none =>
    rw [hfirst] at hkey
    exact put_of_free hkey

/-- **After one artifact more a buffer still keeps the first one at each path.** -/
theorem Keeps.put (h : Keeps buffer extension artifacts) (artifact : Artifact) :
    Keeps (put artifact buffer).2 extension (artifacts ++ [artifact]) := by
  have hput := h.put_eq artifact
  have hfind : ∀ key, (artifact.relativePath extension).key ≠ key →
      ((artifacts ++ [artifact]).find? fun other => (other.relativePath extension).key = key) =
        artifacts.find? fun other => (other.relativePath extension).key = key := by
    intro key hne
    rw [List.find?_append, List.find?_cons_of_neg (by simpa using hne), List.find?_nil, Option.or_none]
  cases hfirst : firstAt extension (artifact.relativePath extension) artifacts with
  | some first =>
    rw [hfirst] at hput
    rw [hput]
    refine ⟨h.sameExtension, fun key => ?_⟩
    by_cases hk : (artifact.relativePath extension).key = key
    · subst hk
      rw [h.files, List.find?_append, find?_key_eq, hfirst]
      rfl
    · rw [h.files, hfind key hk]
  | none =>
    rw [hfirst] at hput
    rw [hput]
    refine ⟨h.sameExtension, fun key => ?_⟩
    by_cases hk : (artifact.relativePath extension).key = key
    · subst hk
      rw [List.find?_append, find?_key_eq, hfirst, List.find?_cons_of_pos (by simp)]
      exact OrderedMap.get?_insert_self ..
    · have hne : compare key (artifact.relativePath extension).key ≠ .eq := fun he =>
        hk (Std.LawfulEqOrd.eq_of_compare he).symm
      rw [hfind key hk, ← h.files]
      exact OrderedMap.get?_insert_of_ne _ _ hne

/-! ## Any artifacts -/

theorem Keeps.putAll (h : Keeps buffer extension artifacts) (rest : List Artifact) :
    Keeps (putAll rest buffer).2 extension (artifacts ++ rest) := by
  induction rest generalizing buffer artifacts with
  | nil =>
    rw [List.append_nil]
    exact h
  | cons artifact rest ih =>
    have hnext := ih (h.put artifact)
    rw [List.append_assoc] at hnext
    exact hnext

theorem keeps_written (extension : String) (artifacts : List Artifact) :
    Keeps (written extension artifacts) extension artifacts := by
  have hnew : Keeps (new extension) extension [] := ⟨rfl, fun _ => rfl⟩
  exact hnew.putAll artifacts

theorem size_put (artifact : Artifact) (buffer : Buffer) :
    (put artifact buffer).2.size = buffer.size + if (put artifact buffer).1.isOk then 1 else 0 := by
  cases h : buffer.files.get? (artifact.relativePath buffer.extension).key with
  | some file =>
    rw [put_of_taken h]
    rfl
  | none =>
    rw [put_of_free h]
    exact (OrderedMap.perm_insertEntry h).length_eq

theorem size_putAll (artifacts : List Artifact) (buffer : Buffer) :
    (putAll artifacts buffer).2.size = buffer.size + (putAll artifacts buffer).1.countP Except.isOk := by
  induction artifacts generalizing buffer with
  | nil => rfl
  | cons artifact rest ih =>
    rw [Buffer.putAll, ih, size_put, List.countP_cons]
    omega

/-! ## The files of a buffer -/

theorem Keeps.mem_entries_iff (h : Keeps buffer extension artifacts) {key : List String}
    {file : BufferedFile} : (key, file) ∈ buffer.files.entries ↔
      key = file.path.key ∧ ∃ artifact, firstAt extension file.path artifacts = some artifact ∧
        file = fileOf extension artifact := by
  rw [← OrderedMap.get?_eq_some_iff, h.files, Option.map_eq_some_iff]
  constructor
  · rintro ⟨artifact, hfind, rfl⟩
    have hkey : (artifact.relativePath extension).key = key := by
      simpa using List.find?_some hfind
    subst hkey
    rw [find?_key_eq] at hfind
    exact ⟨rfl, artifact, hfind, rfl⟩
  · rintro ⟨rfl, artifact, hfirst, hfile⟩
    exact ⟨artifact, by rwa [find?_key_eq], hfile.symm⟩

/-- **The files of a buffer are those of the first artifacts at their paths.** -/
theorem Keeps.mem_listing_iff (h : Keeps buffer extension artifacts) {file : BufferedFile} :
    file ∈ buffer.listing ↔ ∃ artifact,
      firstAt extension (artifact.relativePath extension) artifacts = some artifact ∧
        file = fileOf extension artifact := by
  have hlisting : file ∈ buffer.listing ↔ ∃ key, (key, file) ∈ buffer.files.entries := by
    simp [listing, OrderedMap.values]
  rw [hlisting]
  constructor
  · rintro ⟨key, hm⟩
    obtain ⟨-, artifact, hfirst, rfl⟩ := h.mem_entries_iff.1 hm
    exact ⟨artifact, hfirst, rfl⟩
  · rintro ⟨artifact, hfirst, rfl⟩
    exact ⟨_, h.mem_entries_iff.2 ⟨rfl, artifact, hfirst, rfl⟩⟩

/-- **No two files of a buffer have the same path.** -/
theorem Keeps.paths_nodup (h : Keeps buffer extension artifacts) :
    (buffer.listing.map fun file => file.path.components).Nodup := by
  rw [listing, OrderedMap.values, List.map_map, List.Nodup, List.pairwise_map]
  refine (List.Pairwise.and_mem.1 buffer.files.ascending).imp fun {a b} hab he => ?_
  obtain ⟨ha, -⟩ := h.mem_entries_iff.1 hab.1
  obtain ⟨hb, -⟩ := h.mem_entries_iff.1 hab.2.1
  have hkeys : a.1 = b.1 := by rw [ha, hb, Path.key_eq_iff.2 he]
  have hless := hab.2.2
  rw [hkeys, Std.ReflOrd.compare_self] at hless
  cases hless

theorem Keeps.get?_eq (h : Keeps buffer extension artifacts) (path : Path) :
    buffer.get? path = (firstAt extension path artifacts).map Artifact.text := by
  rw [get?, h.get?_key, Option.map_map]
  rfl

/-- **A look-up finds what stands among the files**, under any spelling of the path. -/
theorem Keeps.get?_eq_some_iff (h : Keeps buffer extension artifacts) {path : Path} {text : String} :
    buffer.get? path = some text ↔
      ∃ file ∈ buffer.listing, file.path.components = path.components ∧ file.text = text := by
  rw [h.get?_eq, Option.map_eq_some_iff]
  constructor
  · rintro ⟨artifact, hfirst, rfl⟩
    have hpath : (artifact.relativePath extension).components = path.components := by
      simpa using List.find?_some hfirst
    have hself : firstAt extension (artifact.relativePath extension) artifacts = some artifact := by
      rw [firstAt, hpath]
      exact hfirst
    exact ⟨_, h.mem_listing_iff.2 ⟨artifact, hself, rfl⟩, hpath, rfl⟩
  · rintro ⟨file, hm, hpath, rfl⟩
    obtain ⟨artifact, hfirst, rfl⟩ := h.mem_listing_iff.1 hm
    refine ⟨artifact, ?_, rfl⟩
    rw [firstAt, ← hpath]
    exact hfirst

/-- **What a buffer holds after any artifacts.**  Its files are those of the first artifact at each path, one
for each path; a look-up answers with the text of the first artifact at the path, which is the one among the
files; there are as many files as artifacts were taken.  One artifact more is taken at its path exactly if none
went there before; else it is refused for the first that did, and the buffer stays as it is. -/
theorem written_of_any (extension : String) (artifacts : List Artifact) :
    (∀ file, file ∈ (written extension artifacts).listing ↔ ∃ artifact,
      firstAt extension (artifact.relativePath extension) artifacts = some artifact ∧
        file = fileOf extension artifact) ∧
    ((written extension artifacts).listing.map fun file => file.path.components).Nodup ∧
    (∀ path, (written extension artifacts).get? path =
      (firstAt extension path artifacts).map Artifact.text) ∧
    (∀ path text, (written extension artifacts).get? path = some text ↔
      ∃ file ∈ (written extension artifacts).listing,
        file.path.components = path.components ∧ file.text = text) ∧
    (written extension artifacts).size = (answers extension artifacts).countP Except.isOk ∧
    ∀ artifact,
      match firstAt extension (artifact.relativePath extension) artifacts with
      | some first =>
        answers extension (artifacts ++ [artifact]) = answers extension artifacts ++
          [.error (.collision (artifact.relativePath extension).text first.declaration
            artifact.declaration)] ∧
        written extension (artifacts ++ [artifact]) = written extension artifacts
      | none =>
        answers extension (artifacts ++ [artifact]) =
          answers extension artifacts ++ [.ok (artifact.relativePath extension)] := by
  have hkeeps := keeps_written extension artifacts
  have hsize : (written extension artifacts).size = (answers extension artifacts).countP Except.isOk := by
    have hall := size_putAll artifacts (new extension)
    rwa [show (new extension).size = 0 from rfl, Nat.zero_add] at hall
  refine ⟨fun file => hkeeps.mem_listing_iff, hkeeps.paths_nodup, hkeeps.get?_eq,
    fun path text => hkeeps.get?_eq_some_iff, hsize, fun artifact => ?_⟩
  have hput := hkeeps.put_eq artifact
  have hanswers : answers extension (artifacts ++ [artifact]) =
      answers extension artifacts ++ [(put artifact (written extension artifacts)).1] :=
    congrArg Prod.fst (putAll_append artifacts [artifact] (new extension))
  have hwritten : written extension (artifacts ++ [artifact]) =
      (put artifact (written extension artifacts)).2 :=
    congrArg Prod.snd (putAll_append artifacts [artifact] (new extension))
  cases hfirst : firstAt extension (artifact.relativePath extension) artifacts with
  | some first =>
    rw [hfirst] at hput
    rw [hanswers, hwritten, hput]
    exact ⟨rfl, rfl⟩
  | none =>
    rw [hfirst] at hput
    rw [hanswers, hput]

/-- A part of a package that is an absolute path leads away from the parts before it, and empty parts do not
count: these two packages have one directory. -/
example : answers "kt" [⟨"A", "x./a.b", "F", "1", [], none⟩, ⟨"B", "/a..b", "F", "2", [], none⟩] =
    [.ok ⟨"/a/b/F.kt"⟩, .error (.collision "/a/b/F.kt" "A" "B")] := by
  decide +kernel

end ConverterBuilders.Buffer
