import ConverterBuilders.Configuration.Printer
import ConverterBuilders.Json.Printer
import ConverterBuilders.Report
import ConverterBuilders.Session

/-!
# Inspecting converters

Converters are checked or shown without their artifacts.
-/

namespace ConverterBuilders.Session

/-! ## Checking -/

/-- Say what is known of a converter, and whether it passed the check. -/
def sayChecked (summary : Summary) : Task Unit := do
  match summary.fault? with
  | some fault => do
    complain ("  " ++ summary.declaration ++ ": FAILED")
    complain ("    Error: " ++ fault.message)
  | none =>
    if summary.functions.isEmpty then
      warn ("  " ++ summary.declaration ++ ": OK, but generates no builder functions")
    else
      inform ("  " ++ summary.declaration ++ ": OK (" ++ toString summary.functions.length ++
        " functions)")
  forAll (fun name => warn ("    Unsupported converter type: " ++ name)) summary.unsupported

/-- The number of converters that did not pass the check. -/
def failedCount (summaries : List Summary) : Nat :=
  (summaries.filter fun summary => summary.fault?.isSome).length

/-- Say what a check found; converters that failed make the command fail. -/
def concludeCheck (summaries : List Summary) : Task Unit :=
  if 0 < failedCount summaries then do
    complain "Validation failed with errors"
    throw (.configuration (.failedValidation (failedCount summaries) summaries.length))
  else inform ("Validation passed (" ++ toString summaries.length ++ " converters)")

def validate (invocation : Invocation) (index? : Option Path) : Task Unit := do
  inform "Validating convgen configuration and converters"
  let configuration ← loadConfiguration invocation index?
  inform "  Configuration file: OK"
  inform ("    Annotation: " ++ configuration.annotationName)
  inform ("    Output path: " ++ configuration.output.display)
  let index ← loadIndex configuration
  inform ("  Symbol index: OK (" ++ toString index.size ++ " declarations)")
  let scan := Report.scan index.resolver configuration
  forAll (fun symbol : Symbol => warn ("  " ++ symbol.qualifiedName ++ ": unresolved, deferred"))
    scan.deferred
  forAll (fun symbol : Symbol => warn ("  " ++ symbol.qualifiedName ++ ": not a class, ignored"))
    scan.ignored
  let summaries ← ofResult (Summary.inspect index.resolver configuration)
  forAll sayChecked summaries
  concludeCheck summaries

/-! ## Showing -/

def namesOf (symbols : List Symbol) : List String := symbols.map Symbol.qualifiedName

def infoDocument (configuration : Configuration) (scan : Scan) (summaries : List Summary) : Document :=
  .table
    [("config", configuration.document),
      ("converters", .list (summaries.map fun summary => .table summary.fields)),
      ("deferred", Document.texts (namesOf scan.deferred)),
      ("ignored", Document.texts (namesOf scan.ignored))]

def line (text : String) : String := text ++ "\n"

def lines (texts : List String) : String := String.join (texts.map line)

def configurationLines (configuration : Configuration) : List String :=
  ["", "=== Configuration ===", "", "Annotation:  " ++ configuration.annotationName,
    "Index:       " ++ configuration.index.display, "Output Path: " ++ configuration.output.display,
    "Receiver:    " ++ configuration.profile.receiver,
    "Parallel:    " ++ (if configuration.parallel then "enabled" else "disabled")]

def knownLine (label : String) (value? : Option String) : List String :=
  value?.toList.map fun value => label ++ value

/-- What is shown of the builder functions of a converter, or of what went wrong. -/
def functionLines (summary : Summary) : List String :=
  match summary.fault? with
  | some fault => ["  Error:      " ++ fault.message]
  | none =>
    if summary.functions.isEmpty then ["  Functions:  (none)"]
    else "  Functions:" :: summary.functions.map fun signature => "    " ++ signature

def summaryLines (summary : Summary) : List String :=
  ["", summary.declaration ++ " -> " ++ summary.artifact] ++
    knownLine "  Name:       " summary.name? ++ knownLine "  Value type: " summary.valueType? ++
    (if summary.variants.isEmpty then []
      else ["  Types:      " ++ String.intercalate ", " summary.variants]) ++
    functionLines summary

def symbolLines (title : String) (symbols : List Symbol) : List String :=
  if symbols.isEmpty then [] else ["", "=== " ++ title ++ " ===", ""] ++ namesOf symbols

def infoLines (configuration : Configuration) (scan : Scan) (summaries : List Summary) : List String :=
  configurationLines configuration ++
    ["", "=== Converters (" ++ toString summaries.length ++ ") ==="] ++
    summaries.flatMap summaryLines ++ symbolLines "Deferred" scan.deferred ++
    symbolLines "Ignored" scan.ignored

def showInfo (invocation : Invocation) (format : InfoFormat) (index? : Option Path) : Task Unit := do
  let configuration ← loadConfiguration invocation index?
  let index ← loadIndex configuration
  let scan := Report.scan index.resolver configuration
  let summaries ← ofResult (Summary.inspect index.resolver configuration)
  match format with
  | .json => print (line (Json.writePretty "" (infoDocument configuration scan summaries)))
  | .pretty => print (lines (infoLines configuration scan summaries))

end ConverterBuilders.Session
