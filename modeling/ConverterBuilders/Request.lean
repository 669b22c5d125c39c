import ConverterBuilders.RequestError
import ConverterBuilders.Resolver
import ConverterBuilders.Variant

/-!
# Requests for builder functions

The annotation of a converter asks for builder functions: under a display name, in some variants and
with some imports.  The arguments are checked in this order, and then the type of the values, which the
supertypes give.
-/

namespace ConverterBuilders

open Text

structure Request where
  name : String
  valueType : TypeReference
  variants : VariantSet
  extraImports : List String
  hasChoice : Bool
  source : Converter
  deriving Inhabited

namespace Request

def valueTypeName (request : Request) : String := request.valueType.name

/-- The name by which the type of the values is imported. -/
def valueTypeImport (request : Request) : String :=
  request.valueType.qualifiedName?.getD request.valueType.name

/-! ## The arguments of the annotation -/

/-- What is expected of the argument `name`. -/
def nameExpected : String := "a string"

/-- What is expected of the argument `types`. -/
def typesExpected : String := "a list of converter type names"

/-- What is expected of the argument `imports`. -/
def importsExpected : String := "a list of import paths"

def required (arguments : AnnotationArguments) (argument : String) :
    Except RequestError AnnotationValue :=
  match arguments.get? argument with
  | some value => .ok value
  | none => .error (.missingArgument argument)

def readName (arguments : AnnotationArguments) : Except RequestError String := do
  let value ← required arguments "name"
  match value.text? with
  | none => .error (.invalidArgument "name" nameExpected)
  | some text => if isBlank text then .error .emptyName else .ok (trim text)

/-- The variant that an element of `types` asks for, if it has a name. -/
def readVariant (value : AnnotationValue) : Except RequestError Variant :=
  match value.text? with
  | none => .error (.invalidArgument "types" typesExpected)
  | some raw =>
    if (Variant.parse raw).name.isEmpty then .error (.invalidArgument "types" typesExpected)
    else .ok (Variant.parse raw)

/-- The set of variants, of which there is at least one. -/
def readVariants (arguments : AnnotationArguments) : Except RequestError VariantSet := do
  let value ← required arguments "types"
  match value.list? with
  | none => .error (.invalidArgument "types" typesExpected)
  | some values =>
    let variants ← values.mapM readVariant
    if variants.isEmpty then .error .noVariants else .ok (VariantSet.ofVariants variants)

def readImport (value : AnnotationValue) : Except RequestError String :=
  match value.text? with
  | none => .error (.invalidArgument "imports" importsExpected)
  | some text =>
    if isBlank text then .error (.invalidArgument "imports" importsExpected) else .ok (trim text)

/-- The imports, of which there may be none. -/
def readImports (arguments : AnnotationArguments) : Except RequestError (List String) :=
  match arguments.get? "imports" with
  | none => .ok []
  | some value =>
    match value.list? with
    | none => .error (.invalidArgument "imports" importsExpected)
    | some values => values.mapM readImport

/-! ## The type of the values -/

/-- The type of the values of a converter, which must be resolved. -/
def readValueType (resolver : Resolver) (converter : Converter) : Except RequestError TypeReference :=
  match resolver.valueType converter with
  | none => .error .noSupertype
  | some type => if type.isResolved then .ok type else .error (.unresolvedValueType type.name)

/-- The request that the annotation of a converter makes. -/
def ofConverter (resolver : Resolver) (annotationName : String) (converter : Converter) :
    Except RequestError Request :=
  match resolver.arguments converter annotationName with
  | none => .error (.notAnnotated annotationName)
  | some arguments => do
    let name ← readName arguments
    let variants ← readVariants arguments
    let extraImports ← readImports arguments
    let valueType ← readValueType resolver converter
    .ok ⟨name, valueType, variants, extraImports, variants.hasChoice, converter⟩

end Request

end ConverterBuilders
