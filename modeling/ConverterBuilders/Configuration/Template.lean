import ConverterBuilders.Session

/-!
# A first configuration

A configuration file to begin with, which says what all settings mean.
-/

namespace ConverterBuilders

def Configuration.template : String :=
  String.intercalate "\n"
    ["# convgen configuration",
    "",
    "[general]",
    "# Annotation marking converter classes",
    "annotation = \"com.kotlindiscord.kord.extensions.modules.annotations.converters.Converter\"",
    "# Generate declarations in parallel",
    "parallel = true",
    "",
    "[scan]",
    "# A *.symbols.toml / *.symbols.json file, or a directory containing them",
    "index_path = \"$\x7bCONVGEN_INDEX:-./build/convgen/\x7d\"",
    "",
    "[output]",
    "# Generated sources land at <output_path>/<package path>/<Name>Functions.<file_extension>",
    "output_path = \"./build/generated/convgen/\"",
    "file_extension = \"kt\"",
    "",
    "[profile]",
    "# Extension receiver of every generated builder",
    "receiver = \"Arguments\"",
    "opt_ins = [",
    "    \"KordPreview\",",
    "    \"ConverterToDefaulting\",",
    "    \"ConverterToMulti\",",
    "    \"ConverterToOptional\",",
    "]",
    "runtime_imports = [",
    "    \"com.kotlindiscord.kord.extensions.commands.converters.*\",",
    "    \"com.kotlindiscord.kord.extensions.commands.parser.Arguments\",",
    "    \"dev.kord.common.annotation.KordPreview\",",
    "]",
    ""]

/-- Write a first configuration file into the working directory.  A file that is there is replaced only
by force. -/
def Session.writeTemplate (force : Bool) : Session.Task Unit := do
  let path : Path := Path.join ⟨"."⟩ ⟨Configuration.fileName⟩
  if (← get).workspace.pathExists path && !force then do
    complain (Configuration.fileName ++ " already exists. Use --force to overwrite.")
    throw (.configuration (.alreadyPresent path))
  else do
    inWorkspace
      (Workspace.change fun here => FileTree.writeText here path Configuration.template)
    inform ("Created " ++ path.display)
    inform "Next steps:"
    inform "  1. Export the resolved symbol index of your Kotlin sources into build/convgen/"
    inform "  2. Annotate converter classes with @Converter(name, types, imports)"
    inform "  3. Run 'convgen generate'"

end ConverterBuilders
