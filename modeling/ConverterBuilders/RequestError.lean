/-!
# Faults of requests

Why no builder functions can be generated for a converter.
-/

namespace ConverterBuilders

/-- A fault of the annotation or of the supertypes of a converter. -/
inductive RequestError where
  | notAnnotated (annotationName : String)
  | missingArgument (argument : String)
  | invalidArgument (argument expected : String)
  | emptyName
  | noVariants
  | noSupertype
  | unresolvedValueType (name : String)
  | incompatibleVariants (first second reason : String)
  deriving DecidableEq, Inhabited

def RequestError.message : RequestError → String
  | .notAnnotated annotationName => "declaration is not annotated with " ++ annotationName
  | .missingArgument argument => "missing required annotation argument '" ++ argument ++ "'"
  | .invalidArgument argument expected =>
    "invalid annotation argument '" ++ argument ++ "': expected " ++ expected
  | .emptyName => "annotation argument 'name' must not be empty"
  | .noVariants => "annotation argument 'types' must name at least one converter type"
  | .noSupertype =>
    "no supertype carrying a value type argument; converters must declare their value type as " ++
      "the first type argument of their first supertype"
  | .unresolvedValueType name => "value type '" ++ name ++ "' could not be resolved"
  | .incompatibleVariants first second reason =>
    "converter types " ++ first ++ " and " ++ second ++ " cannot be combined: " ++ reason

end ConverterBuilders
