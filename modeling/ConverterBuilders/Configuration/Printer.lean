import ConverterBuilders.Configuration.Basic
import ConverterBuilders.Toml.Printer

/-!
# Writing configurations

A configuration is written with all its settings in four sections; the base directory is not part of
the text.
-/

namespace ConverterBuilders.Configuration

open Toml

def write (configuration : Configuration) : String :=
  String.intercalate "\n"
    [writeSection "general"
      [("annotation", writeText configuration.annotationName),
        ("parallel", writeBoolean configuration.parallel)],
    writeSection "scan" [("index_path", writeText configuration.indexPath)],
    writeSection "output"
      [("output_path", writeText configuration.outputPath),
        ("file_extension", writeText configuration.fileExtension)],
    writeSection "profile"
      [("receiver", writeText configuration.profile.receiver),
        ("opt_ins", writeTexts configuration.profile.optIns),
        ("runtime_imports", writeTexts configuration.profile.runtimeImports)]]

/-- A document with all settings, section by section. -/
def document (configuration : Configuration) : Document :=
  .table
    [("general", .table
      [("annotation", .text configuration.annotationName),
        ("parallel", .boolean configuration.parallel)]),
    ("scan", .table [("index_path", .text configuration.indexPath)]),
    ("output", .table
      [("output_path", .text configuration.outputPath),
        ("file_extension", .text configuration.fileExtension)]),
    ("profile", .table
      [("receiver", .text configuration.profile.receiver),
        ("opt_ins", Document.texts configuration.profile.optIns),
        ("runtime_imports", Document.texts configuration.profile.runtimeImports)])]

end ConverterBuilders.Configuration
