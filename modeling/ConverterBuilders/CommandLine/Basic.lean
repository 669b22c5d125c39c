import ConverterBuilders.Path

/-!
# Command lines

What a command line can ask for, and why one is not carried out.
-/

namespace ConverterBuilders

inductive InfoFormat where
  | pretty
  | json
  deriving DecidableEq, Inhabited

inductive Command where
  | generate (dryRun : Bool) (index? : Option Path)
  | validate (index? : Option Path)
  | info (format : InfoFormat) (index? : Option Path)
  | init (force : Bool)
  deriving DecidableEq, Inhabited

structure Invocation where
  /-- The configuration file to use. -/
  config? : Option Path
  verbose : Nat
  quiet : Bool
  /-- Where artifacts go instead of where the configuration says. -/
  output? : Option Path
  command : Command
  deriving DecidableEq, Inhabited

inductive UsageError where
  | invalidValue
  | unknownArgument
  | invalidSubcommand
  | argumentConflict
  | tooManyValues
  | missingSubcommand
  | nothingGiven
  | helpAsked
  | versionAsked (text : String)
  deriving DecidableEq, Inhabited

/-- The wording of what is said where no command is carried out. -/
def UsageError.message : UsageError → String
  | .invalidValue => "error: an option has no value or one that does not fit"
  | .unknownArgument => "error: unexpected argument"
  | .invalidSubcommand => "error: unrecognized subcommand"
  | .argumentConflict => "error: an option was given twice or excludes another one"
  | .tooManyValues => "error: an option that takes no value was given one"
  | .missingSubcommand => "error: a subcommand is required: generate, validate, info or init"
  | .nothingGiven => "Usage: convgen [OPTIONS] <generate|validate|info|init>"
  | .helpAsked => "Usage: convgen [OPTIONS] <generate|validate|info|init>"
  | .versionAsked text => text

/-- Whether an answer to the command line was asked for, and it is no error. -/
def UsageError.isAnswer : UsageError → Bool
  | .helpAsked => true
  | .versionAsked _ => true
  | _ => false

def programName : String := "convgen"

def programVersion : String := "0.1.0"

/-- The log messages that are wanted unless something else is said. -/
def Invocation.logFilter (invocation : Invocation) : String :=
  if invocation.quiet then "error"
  else
    match invocation.verbose with
    | 0 => "info"
    | 1 => "debug"
    | _ => "trace"

end ConverterBuilders
