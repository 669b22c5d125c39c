import ConverterBuilders.Artifact.Buffer
import ConverterBuilders.Artifact.Disk
import ConverterBuilders.Session

/-!
# Generating artifacts

The artifacts of all converters are written, or printed if nothing is to be written.  A converter for
which nothing can be generated does not stop the others, and the first such converter is the failure of
the command.
-/

namespace ConverterBuilders.Session

def writeArtifacts (configuration : Configuration) (index : SymbolIndex) : Task Report :=
  inWorkspace
    (Report.run index.resolver configuration (Destination.ofConfiguration configuration).write)

def printed (root : Path) (file : BufferedFile) : String :=
  "// ==> " ++ (root.join file.path).display ++ "\n" ++ file.text ++ "\n"

def printArtifacts (configuration : Configuration) (index : SymbolIndex) : Task Report := do
  inform "Dry run: nothing will be written"
  let (result, buffer) := (Report.run index.resolver configuration Buffer.write).run.run
    (Buffer.new configuration.fileExtension)
  let report ← ofResult result
  forAll (fun file => print (printed configuration.output file)) buffer.listing
  pure report

/-- Say what came out of a run; converters that failed make the command fail. -/
def summarize (report : Report) : Task Unit := do
  forAll (fun symbol : Symbol => warn ("Deferred (unresolved): " ++ symbol.qualifiedName))
    report.deferred
  forAll (fun name => warn ("No builder functions generated for " ++ name)) report.empty
  forAll (fun failed => complain failed.failure.message) report.failures
  inform ("Generated " ++ toString report.functionCount ++ " functions in " ++
    toString report.artifacts.length ++ " files")
  match report.failures with
  | [] => pure ()
  | first :: _ => do
    complain (toString report.failures.length ++ " converter declaration(s) failed")
    throw first.failure

def generate (invocation : Invocation) (dryRun : Bool) (index? : Option Path) : Task Unit := do
  let configuration ← loadConfiguration invocation index?
  let index ← loadIndex configuration
  let report ←
    if dryRun then printArtifacts configuration index else writeArtifacts configuration index
  summarize report

end ConverterBuilders.Session
