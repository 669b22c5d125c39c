import ConverterBuilders.Path
import ConverterBuilders.RequestError
import ConverterBuilders.Text.Quoted

/-!
# Failures

What can stop a run, by cause, and the wording of each cause.
-/

namespace ConverterBuilders

open Text

inductive FileFault where
  | notFound
  | alreadyExists
  | notDirectory
  | isDirectory
  | permissionDenied
  | notUnicode
  deriving DecidableEq, Inhabited

inductive IndexFault where
  | unknownFormat
  | unreadable
  | invalidName (name : String)
  | outsidePackage (name package : String)
  | listedTwice (name : String)
  | other (text : String)
  deriving DecidableEq, Inhabited

/-- What is wrong with a configuration or with the state of its file. -/
inductive ConfigurationFault where
  | unreadable (path : Path)
  | overlongKey (path : Path)
  | blankAnnotationName
  | emptyReceiver
  | unfitExtension (extension : String)
  | alreadyPresent (path : Path)
  | failedValidation (failed total : Nat)
  | other (text : String)
  deriving DecidableEq, Inhabited

inductive Failure where
  | file (fault : FileFault)
  | configuration (fault : ConfigurationFault)
  | configurationNotFound (start : Path)
  | variableNotSet (name : String)
  | invalidPath (path : Path)
  | index (origin : Path) (fault : IndexFault)
  | scan (text : String)
  | request (declaration : String) (fault : RequestError)
  | collision (artifact first second : String)
  deriving DecidableEq, Inhabited

def FileFault.message : FileFault → String
  | .notFound => "No such file or directory (os error 2)"
  | .alreadyExists => "File exists (os error 17)"
  | .notDirectory => "Not a directory (os error 20)"
  | .isDirectory => "Is a directory (os error 21)"
  | .permissionDenied => "Permission denied (os error 13)"
  | .notUnicode => "stream did not contain valid UTF-8"

/-- What stands for the report of a reader of structured texts. -/
def parseReport : String := "<parse error>"

def IndexFault.message : IndexFault → String
  | .unknownFormat => "expected a .toml or .json symbol index"
  | .unreadable => parseReport
  | .invalidName name => "invalid qualified name '" ++ name ++ "'"
  | .outsidePackage name package =>
    "declaration '" ++ name ++ "' is not inside package '" ++ package ++ "'"
  | .listedTwice name => "declaration '" ++ name ++ "' is listed more than once"
  | .other text => text

def ConfigurationFault.message : ConfigurationFault → String
  | .unreadable path => path.display ++ ": " ++ parseReport
  | .overlongKey path => path.display ++ ": recursion limit\n"
  | .blankAnnotationName => "general.annotation must not be empty"
  | .emptyReceiver => "profile.receiver must not be empty"
  | .unfitExtension extension =>
    "output.file_extension must be a bare extension, got " ++ quote extension
  | .alreadyPresent path => path.display ++ " already exists"
  | .failedValidation failed total =>
    toString failed ++ " of " ++ toString total ++ " converter declarations failed validation"
  | .other text => text

def Failure.message : Failure → String
  | .file fault => "IO error: " ++ fault.message
  | .configuration fault => "Configuration error: " ++ fault.message
  | .configurationNotFound start =>
    "Configuration file convgen.toml not found (searched upward from " ++ start.quoted ++ ")"
  | .variableNotSet name => "Environment variable not set: " ++ name
  | .invalidPath path => "Invalid path: " ++ path.display
  | .index origin fault => "Invalid symbol index " ++ origin.display ++ ": " ++ fault.message
  | .scan text => "Workspace scan error: " ++ text
  | .request declaration fault => declaration ++ ": " ++ fault.message
  | .collision artifact first second =>
    "artifact " ++ artifact ++ " would be generated by both " ++ first ++ " and " ++ second ++
      "; rename one of the declarations"

end ConverterBuilders
