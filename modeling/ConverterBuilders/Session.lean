import ConverterBuilders.CommandLine.Basic
import ConverterBuilders.Configuration.Discovery
import ConverterBuilders.SymbolIndex.Loading

/-!
# Sessions

A session carries out one command.  It works in a workspace, prints and writes a log.  The log has what the
command itself says; messages of what it calls, of reading, scanning, generating and writing, are left out.
-/

namespace ConverterBuilders

open Text

inductive LogLevel where
  | info
  | warning
  | error
  deriving DecidableEq, Inhabited

/-- A message of a command.  What its parts tell of their work is no such message. -/
structure LogEntry where
  level : LogLevel
  message : String
  deriving DecidableEq, Inhabited

def LogLevel.name : LogLevel → String
  | .info => "INFO"
  | .warning => "WARN"
  | .error => "ERROR"

structure Session where
  workspace : Workspace
  /-- What was printed. -/
  output : String
  log : List LogEntry
  deriving Inhabited

namespace Session

def start (workspace : Workspace) : Session := ⟨workspace, "", []⟩

abbrev Task := ExceptT Failure (StateM Session)

def inWorkspace {α : Type} (task : Workspace.Task α) : Task α := do
  let session ← get
  let (result, workspace) := task.run.run session.workspace
  set { session with workspace := workspace }
  match result with
  | .ok a => pure a
  | .error failure => throw failure

def say (level : LogLevel) (message : String) : Task Unit :=
  modify fun session => { session with log := session.log ++ [⟨level, message⟩] }

def inform (message : String) : Task Unit := say .info message

def warn (message : String) : Task Unit := say .warning message

def complain (message : String) : Task Unit := say .error message

def print (text : String) : Task Unit :=
  modify fun session => { session with output := session.output ++ text }

/-- The value of a result, or its failure. -/
def ofResult {α : Type} : Except Failure α → Task α
  | .ok a => pure a
  | .error failure => throw failure

def forAll {α : Type} (action : α → Task Unit) : List α → Task Unit
  | [] => pure ()
  | a :: rest => do
    action a
    forAll action rest

/-! ## What all commands begin with -/

/-- The text of a setting, or that of the path which the command line gives instead. -/
def settingOr (workspace : Workspace) (path? : Option Path) (setting : String) :
    Except Failure String :=
  match path? with
  | some path => workspace.absolute path
  | none => .ok setting

/-- A configuration with the paths that the command line gives instead. -/
def withOptions (workspace : Workspace) (output? index? : Option Path)
    (configuration : Configuration) : Except Failure Configuration := do
  let outputPath ← settingOr workspace output? configuration.outputPath
  let indexPath ← settingOr workspace index? configuration.indexPath
  .ok { configuration with outputPath, indexPath }

def loadConfiguration (invocation : Invocation) (index? : Option Path) : Task Configuration := do
  match invocation.config? with
  | some path => inform ("Using configuration file " ++ path.quoted)
  | none => pure ()
  let configuration ← inWorkspace (Configuration.load invocation.config?)
  ofResult (withOptions (← get).workspace invocation.output? index? configuration)

def loadIndex (configuration : Configuration) : Task SymbolIndex := do
  inform ("Loading symbol index from " ++ configuration.index.quoted)
  ofResult (SymbolIndex.load (← get).workspace configuration.index)

end Session

end ConverterBuilders
