import ConverterBuilders.Declaration

/-!
# Converters

A converter is a class declaration whose names and supertypes are known.  Builder functions for it are
generated into one artifact, which is named after the converter.
-/

namespace ConverterBuilders

structure Converter where
  qualifiedName : String
  simpleName : String
  package : String
  supertypes : List TypeReference
  file? : Option String
  deriving Inhabited

namespace Converter

/-- The name of the artifact's file without its extension. -/
def artifactBaseName (converter : Converter) : String := converter.simpleName ++ "Functions"

/-- The package and the base name; no two artifacts may have the same. -/
def artifactIdentity (converter : Converter) : String :=
  if converter.package.isEmpty then converter.artifactBaseName
  else converter.package ++ "." ++ converter.artifactBaseName

/-- The first type argument of the first supertype, which is the type of the converted values. -/
def firstValueType (converter : Converter) : Option TypeReference :=
  converter.supertypes.head?.bind fun supertype => supertype.arguments.head?

end Converter

end ConverterBuilders
