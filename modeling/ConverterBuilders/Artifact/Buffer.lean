import ConverterBuilders.Artifact.Basic
import ConverterBuilders.Failure

/-!
# Artifacts in memory

A buffer keeps the texts of artifacts by their relative paths and refuses a second artifact at a path.
Paths with the same components are the same path.

Main statement:

* `put_of_taken`, `put_of_free`: a path that is taken stays as it is, and any other gets the artifact.
-/

namespace ConverterBuilders

structure BufferedFile where
  path : Path
  declaration : String
  text : String
  deriving DecidableEq, Inhabited

structure Buffer where
  extension : String
  files : OrderedMap (List String) BufferedFile
  deriving Inhabited

namespace Buffer

def new (extension : String) : Buffer := ⟨extension, OrderedMap.empty⟩

def get? (buffer : Buffer) (path : Path) : Option String :=
  (buffer.files.get? path.key).map BufferedFile.text

def size (buffer : Buffer) : Nat := buffer.files.size

def listing (buffer : Buffer) : List BufferedFile := buffer.files.values

def insert (buffer : Buffer) (path : Path) (artifact : Artifact) : Buffer :=
  { buffer with
    files := buffer.files.insert path.key ⟨path, artifact.declaration, artifact.text⟩ }

/-- The path at which an artifact is put, and the buffer then; a path that is taken is refused. -/
def put (artifact : Artifact) (buffer : Buffer) : Except Failure Path × Buffer :=
  let path := artifact.relativePath buffer.extension
  match buffer.files.get? path.key with
  | some file => (.error (.collision path.text file.declaration artifact.declaration), buffer)
  | none => (.ok path, buffer.insert path artifact)

def write (artifact : Artifact) : ExceptT Failure (StateM Buffer) Path :=
  ExceptT.mk fun buffer => put artifact buffer

theorem put_of_taken {buffer : Buffer} {artifact : Artifact} {file : BufferedFile}
    (h : buffer.files.get? (artifact.relativePath buffer.extension).key = some file) :
    put artifact buffer =
      (.error (.collision (artifact.relativePath buffer.extension).text file.declaration
        artifact.declaration), buffer) := by
  simp [put, h]

theorem put_of_free {buffer : Buffer} {artifact : Artifact}
    (h : buffer.files.get? (artifact.relativePath buffer.extension).key = none) :
    put artifact buffer =
      (.ok (artifact.relativePath buffer.extension),
        buffer.insert (artifact.relativePath buffer.extension) artifact) := by
  simp [put, h]

end Buffer

end ConverterBuilders
