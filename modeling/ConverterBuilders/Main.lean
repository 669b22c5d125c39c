import ConverterBuilders.Program

/-!
# The command line

The files that a command may look at are read into a tree, the command is carried out there, and what it
changed is written back.  Only arguments, variables and names of files that are texts are read.
-/

namespace ConverterBuilders.Main

open FileTree (locationOf)

/-! ## Reading the system -/

def absoluteText (location : Location) : String := "/" ++ String.intercalate "/" location

def nodeAt (location : Location) : IO (Option FileNode) := do
  let path := (← IO.currentDir) / absoluteText location
  if ← path.isDir then return some .directory
  if ← path.pathExists then return some (.file (.ofBytes (← IO.FS.readBinFile path)))
  return none

def addLocation (tree : FileTree) (location : Location) : IO FileTree := do
  let mut tree := tree
  for n in List.range location.length do
    let here := location.take (n + 1)
    if (tree.node? here).isNone then
      match ← nodeAt here with
      | some node => tree := tree.put here node
      | none => return tree
  return tree

/-- The names in a directory, links apart, unless it may not be listed. -/
def namesAt? (location : Location) : IO (Option (List String)) := do
  try
    let entries ← ((← IO.currentDir) / absoluteText location).readDir
    let entries ← entries.filterM fun entry => do
      let metadata ← entry.path.symlinkMetadata
      return metadata.type == .dir || metadata.type == .file
    return some (entries.toList.map fun entry => entry.fileName)
  catch _ => return none

/-- Add all that stands below a location, links apart. -/
partial def addBelow (tree : FileTree) (location : Location) : IO FileTree := do
  let mut tree ← addLocation tree location
  if tree.hasDirectory location then
    match ← namesAt? location with
    | none => tree := tree.put location .closed
    | some names =>
      for name in names do
        tree ← addBelow tree (location ++ [name])
  return tree

def addSearch (tree : FileTree) (location : Location) (name : String) : IO FileTree := do
  let mut tree ← addLocation tree location
  for n in List.range (location.length + 1) do
    tree ← addLocation tree (location.take n ++ [name])
  return tree

def readVariables : IO Environment := do
  let bytes ← IO.FS.readBinFile "/proc/self/environ"
  let pieces := Text.split '\x00' (bytes.toList.map fun byte => Char.ofNat byte.toNat)
  let definitions := pieces.filterMap fun piece => do
    let definition ← String.fromUTF8? ⟨(piece.map fun c => c.toNat.toUInt8).toArray⟩
    let name := definition.toList.takeWhile (· ≠ '=')
    if name.length < definition.length then
      some (String.ofList name, String.ofList (definition.toList.drop (name.length + 1)))
    else none
  return OrderedMap.ofList definitions

/-! ## Staging -/

def indexOption : Command → Option Path
  | .generate _ index? => index?
  | .validate index? => index?
  | .info _ index? => index?
  | .init _ => none

/-- The workspace with all that the configuration is found by. -/
def stageConfiguration (invocation : Invocation) : IO Workspace := do
  let directory := locationOf [] ⟨toString (← IO.currentDir)⟩
  let environment ← readVariables
  let tree ← addSearch .empty directory EnvironmentFile.fileName
  let workspace := Workspace.loadEnvironment ⟨tree, directory, environment⟩
  let tree ← match Configuration.searchStart workspace with
    | .ok start => addSearch tree (locationOf directory start) Configuration.fileName
    | .error _ => pure tree
  let tree ← addSearch tree directory Configuration.fileName
  let tree ← match invocation.config? with
    | some path => addLocation tree (locationOf directory path)
    | none => pure tree
  return ⟨tree, directory, environment⟩

/-- The workspace with the symbol index and the places of artifacts as well. -/
def stageFiles (invocation : Invocation) (workspace : Workspace) : IO Workspace := do
  let load := Session.loadConfiguration invocation (indexOption invocation.command)
  match (load.run.run (Session.start workspace)).1 with
  | .error _ => return workspace
  | .ok configuration =>
    let tree ← addBelow workspace.files (locationOf workspace.directory configuration.index)
    let workspace := { workspace with files := tree }
    match SymbolIndex.load workspace configuration.index with
    | .error _ => return workspace
    | .ok index =>
      let destination := Destination.ofConfiguration configuration
      let artifacts := match Report.process index.resolver configuration with
        | .ok report => report.artifacts
        | .error _ => []
      let mut tree := tree
      for artifact in artifacts do
        tree ← addLocation tree (locationOf workspace.directory
          (artifact.pathUnder destination.root destination.extension))
      return { workspace with files := tree }

/-! ## Writing back -/

def isKept : Option FileNode → FileNode → Bool
  | some .directory, .directory => true
  | some .closed, .closed => true
  | some (.file (.text old)), .file (.text new) => old = new
  | some (.file (.binary _)), .file (.binary _) => true
  | _, _ => false

def writeBack (before after : FileTree) : IO Unit := do
  for (location, node) in after.nodes.entries do
    unless isKept (before.node? location) node do
      match node with
      | .directory | .closed => IO.FS.createDirAll (absoluteText location)
      | .file (.text content) => IO.FS.writeFile (absoluteText location) content
      | .file (.binary bytes) => IO.FS.writeBinFile (absoluteText location) bytes

def isWanted (invocation : Invocation) (entry : LogEntry) : Bool :=
  invocation.logFilter ≠ "error" || entry.level = .error

def perform (invocation : Invocation) : IO UInt32 := do
  let workspace ← stageFiles invocation (← stageConfiguration invocation)
  let (result, session) := invocation.run workspace
  writeBack workspace.files session.workspace.files
  IO.print session.output
  for entry in session.log do
    if isWanted invocation entry then IO.eprintln (entry.level.name ++ " " ++ entry.message)
  match result with
  | .ok () => return 0
  | .error failure =>
    IO.eprintln ("Error: " ++ failure.message)
    return 1

end ConverterBuilders.Main

open ConverterBuilders in
def main (arguments : List String) : IO UInt32 := do
  match CommandLine.read (← Main.readVariables) arguments with
  | .ok invocation => Main.perform invocation
  | .error fault =>
    if fault.isAnswer then
      IO.println fault.message
      return 0
    else
      IO.eprintln fault.message
      return 2
