import ConverterBuilders.CommandLine.Parser
import ConverterBuilders.Configuration.Template
import ConverterBuilders.Generation
import ConverterBuilders.Inspection

/-!
# The program

A command line is read and its command is carried out in a workspace.
-/

namespace ConverterBuilders

def Session.perform (invocation : Invocation) : Session.Task Unit :=
  match invocation.command with
  | .generate dryRun index? => Session.generate invocation dryRun index?
  | .validate index? => Session.validate invocation index?
  | .info format index? => Session.showInfo invocation format index?
  | .init force => Session.writeTemplate force

def Invocation.run (invocation : Invocation) (workspace : Workspace) : Except Failure Unit × Session :=
  (Session.perform invocation).run.run (Session.start workspace)

end ConverterBuilders
