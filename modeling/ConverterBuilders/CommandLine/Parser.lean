import ConverterBuilders.CommandLine.Basic
import ConverterBuilders.Configuration.Substitution

/-!
# Reading command lines

A command line has options, the name of a command, and options again.  Some options may stand on either
side of the name, and then those behind it count.  An option with a value is read when the next argument
is, so of two faults that of the earlier option may go unseen behind that of a later argument.
-/

namespace ConverterBuilders.CommandLine

/-! ## Options -/

inductive ValueOption where
  | config
  | output
  | index
  | format
  deriving DecidableEq, Inhabited

inductive Flag where
  | verbose
  | quiet
  | dryRun
  | force
  | help
  | version
  deriving DecidableEq, Inhabited

inductive Choice where
  | value (option : ValueOption)
  | flag (flag : Flag)
  deriving DecidableEq, Inhabited

structure Spelling where
  short? : Option Char
  long : String
  choice : Choice
  deriving DecidableEq, Inhabited

def commonSpellings : List Spelling :=
  [⟨some 'c', "config", .value .config⟩, ⟨some 'v', "verbose", .flag .verbose⟩,
    ⟨some 'q', "quiet", .flag .quiet⟩, ⟨some 'o', "output", .value .output⟩,
    ⟨some 'h', "help", .flag .help⟩, ⟨some 'V', "version", .flag .version⟩]

inductive CommandName where
  | generate
  | validate
  | info
  | init
  deriving DecidableEq, Inhabited

def CommandName.word : CommandName → String
  | .generate => "generate"
  | .validate => "validate"
  | .info => "info"
  | .init => "init"

def CommandName.ofWord? (word : String) : Option CommandName :=
  ([.generate, .validate, .info, .init] : List CommandName).find? fun name => name.word = word

def helpWord : String := "help"

def CommandName.ownSpellings : CommandName → List Spelling
  | .generate => [⟨none, "dry-run", .flag .dryRun⟩, ⟨none, "index", .value .index⟩]
  | .validate => [⟨none, "index", .value .index⟩]
  | .info => [⟨none, "format", .value .format⟩, ⟨none, "index", .value .index⟩]
  | .init => [⟨some 'f', "force", .flag .force⟩]

/-! ## One side of the name of a command -/

inductive Side where
  | before
  | behind (name : CommandName)
  deriving DecidableEq, Inhabited

def Side.spellings : Side → List Spelling
  | .before => commonSpellings
  | .behind name => name.ownSpellings ++ commonSpellings

def Side.title : Side → String
  | .before => programName
  | .behind name => programName ++ "-" ++ name.word

/-- What was given on one side.  An option in waiting has its value or still needs it. -/
structure Level where
  config? : Option String
  output? : Option String
  index? : Option String
  format? : Option InfoFormat
  verbose : Nat
  quiet : Bool
  dryRun : Bool
  force : Bool
  pending? : Option (ValueOption × Option String)
  deriving DecidableEq, Inhabited

def Level.empty : Level := ⟨none, none, none, none, 0, false, false, false, none⟩

namespace Level

def isGiven (level : Level) : Bool :=
  level.config?.isSome || level.output?.isSome || level.index?.isSome || level.format?.isSome ||
    0 < level.verbose || level.quiet || level.dryRun || level.force

/-- A text that may be given once and must not be empty. -/
def once {α : Type} (old : Option α) (read : String → Option α) (text : String) :
    Except UsageError (Option α) :=
  if old.isSome then .error .argumentConflict
  else if text.isEmpty then .error .invalidValue
  else
    match read text with
    | some value => .ok (some value)
    | none => .error .invalidValue

def formatOf? (word : String) : Option InfoFormat :=
  if word = "pretty" then some .pretty else if word = "json" then some .json else none

/-- Take the value of an option. -/
def take (level : Level) (option : ValueOption) (text : String) : Except UsageError Level :=
  match option with
  | .config => (once level.config? some text).map fun value => { level with config? := value }
  | .output => (once level.output? some text).map fun value => { level with output? := value }
  | .index => (once level.index? some text).map fun value => { level with index? := value }
  | .format => (once level.format? formatOf? text).map fun value => { level with format? := value }

/-- Take the value of the option in waiting; without a value it is refused. -/
def settle (level : Level) : Except UsageError Level :=
  match level.pending? with
  | none => .ok level
  | some (_, none) => .error .invalidValue
  | some (option, some text) => { level with pending? := none }.take option text

/-- Let an option wait for its value. -/
def await (level : Level) (option : ValueOption) : Except UsageError Level := do
  let level ← level.settle
  .ok { level with pending? := some (option, none) }

/-- Take an option with its value. -/
def give (level : Level) (option : ValueOption) (text : String) : Except UsageError Level := do
  let level ← level.settle
  level.take option text

/-- Take an option without a value. -/
def raise (side : Side) (level : Level) (flag : Flag) : Except UsageError Level := do
  let level ← level.settle
  match flag with
  | .verbose => .ok { level with verbose := min 255 (level.verbose + 1) }
  | .quiet => if level.quiet then .error .argumentConflict else .ok { level with quiet := true }
  | .dryRun => if level.dryRun then .error .argumentConflict else .ok { level with dryRun := true }
  | .force => if level.force then .error .argumentConflict else .ok { level with force := true }
  | .help => .error .helpAsked
  | .version => .error (.versionAsked (side.title ++ " " ++ programVersion ++ "\n"))

def isWaiting (level : Level) : Bool :=
  match level.pending? with
  | some (_, none) => true
  | _ => false

end Level

/-! ## Arguments -/

/-- The name and the value of a long option behind its two dashes. -/
def splitLong (cs : List Char) : String × Option String :=
  (String.ofList (cs.takeWhile (· ≠ '=')),
    match cs.dropWhile (· ≠ '=') with
    | [] => none
    | _ :: value => some (String.ofList value))

def readLong (side : Side) (level : Level) (cs : List Char) : Except UsageError Level :=
  let (name, value?) := splitLong cs
  match side.spellings.find? fun spelling => spelling.long = name with
  | none => .error .unknownArgument
  | some spelling =>
    match spelling.choice, value? with
    | .value option, some value => level.give option value
    | .value option, none => level.await option
    | .flag _, some _ => .error .tooManyValues
    | .flag flag, none => level.raise side flag

/-- Read short options behind one dash; what follows an option with a value is its value. -/
def readShort (side : Side) : Level → List Char → Except UsageError Level
  | level, [] => .ok level
  | level, c :: cs =>
    match side.spellings.find? fun spelling => spelling.short? = some c with
    | none => .error .unknownArgument
    | some spelling =>
      match spelling.choice with
      | .flag flag =>
        match level.raise side flag with
        | .ok level => readShort side level cs
        | .error fault => .error fault
      | .value option =>
        match cs with
        | [] => level.await option
        | '=' :: value => level.give option (String.ofList value)
        | value => level.give option (String.ofList value)

/-- What is said to the words behind the one that asks for help. -/
def helpFor : List String → UsageError
  | [] => .helpAsked
  | [word] =>
    if (CommandName.ofWord? word).isSome || word = helpWord then .helpAsked else .invalidSubcommand
  | _ => .invalidSubcommand

/-- What is said to a word that is neither an option nor a value. -/
def strayWord (side : Side) (isTrailing : Bool) (word : String) : UsageError :=
  match side with
  | .before =>
    if isTrailing && ((CommandName.ofWord? word).isSome || word = helpWord) then .unknownArgument
    else .invalidSubcommand
  | .behind _ => .unknownArgument

/-- What came of one side: what was given, and the command with the arguments behind its name. -/
abbrev Reading := Level × Option (CommandName × List String)

def readLevel (side : Side) : Level → List String → Except UsageError Reading
  | level, [] => .ok (level, none)
  | level, word :: rest =>
    if side = .before ∧ level.isWaiting = false ∧ word = helpWord then .error (helpFor rest)
    else
      match (if side = .before ∧ level.isWaiting = false then CommandName.ofWord? word else none) with
      | some name => .ok (level, some (name, rest))
      | none =>
        match word.toList with
        | ['-', '-'] =>
          match rest with
          | [] => .ok (level, none)
          | next :: _ => .error (strayWord side true next)
        | '-' :: '-' :: cs =>
          match readLong side level cs with
          | .ok level => readLevel side level rest
          | .error fault => .error fault
        | '-' :: c :: cs =>
          match readShort side level (c :: cs) with
          | .ok level => readLevel side level rest
          | .error fault => .error fault
        | _ =>
          match level.pending? with
          | some (option, none) =>
            readLevel side { level with pending? := some (option, some word) } rest
          | _ => .error (strayWord side false word)

/-! ## Whole command lines -/

/-- The variable that names the configuration file where no option does. -/
def configVariable : String := "CONVGEN_CONFIG"

/-- What was given on a side and, in the absence of an option, by the environment. -/
def complete (environment : Environment) (level : Level) : Except UsageError Level := do
  let level ← level.settle
  match environment.get? configVariable with
  | some text => if level.config?.isSome then .ok level else level.take .config text
  | none => .ok level

def checkConflict (level : Level) : Except UsageError Unit :=
  if level.quiet && 0 < level.verbose then .error .argumentConflict else .ok ()

def commandOf (name : CommandName) (level : Level) : Command :=
  let index? := level.index?.map Path.mk
  match name with
  | .generate => .generate level.dryRun index?
  | .validate => .validate index?
  | .info => .info (level.format?.getD .pretty) index?
  | .init => .init level.force

/-- What was given on both sides together.  For the configuration file an option counts more than the
environment. -/
def combine (environment : Environment) (before behind : Level) (name : CommandName) : Invocation where
  config? := (behind.config?.or (before.config?.or (environment.get? configVariable))).map Path.mk
  verbose := if behind.verbose = 0 then before.verbose else behind.verbose
  quiet := behind.quiet || before.quiet
  output? := (behind.output?.or before.output?).map Path.mk
  command := commandOf name behind

def readBehind (environment : Environment) (name : CommandName) (arguments : List String) :
    Except UsageError Level := do
  let (level, _) ← readLevel (.behind name) .empty arguments
  let level ← level.settle
  let complete ← complete environment level
  checkConflict complete
  .ok level

def read (environment : Environment) (arguments : List String) : Except UsageError Invocation := do
  let (before, found) ← readLevel .before .empty arguments
  match found with
  | none =>
    let complete ← complete environment before
    .error (if complete.isGiven then .missingSubcommand else .nothingGiven)
  | some (name, rest) =>
    let behind ← readBehind environment name rest
    let before ← before.settle
    let complete ← complete environment before
    checkConflict complete
    .ok (combine environment before behind name)

end ConverterBuilders.CommandLine
