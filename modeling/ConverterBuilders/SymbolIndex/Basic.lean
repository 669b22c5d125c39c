import ConverterBuilders.Failure
import ConverterBuilders.Resolver

/-!
# Symbol indexes

A symbol index is a collection of declarations by their qualified names.  Declarations are inserted one
by one, and the first that cannot be accepted stops the insertion; those before it stay.
-/

namespace ConverterBuilders

structure SymbolIndex where
  declarations : OrderedMap String Declaration
  deriving Inhabited

namespace SymbolIndex

def empty : SymbolIndex := ⟨OrderedMap.empty⟩

def size (index : SymbolIndex) : Nat := index.declarations.size

def get? (index : SymbolIndex) (qualifiedName : String) : Option Declaration :=
  index.declarations.get? qualifiedName

/-- Why a declaration cannot be inserted, if it cannot. -/
def refusal? (index : SymbolIndex) (declaration : Declaration) : Option IndexFault :=
  if !QualifiedName.isValid declaration.qualifiedName then
    some (.invalidName declaration.qualifiedName)
  else if !QualifiedName.isInside declaration.package declaration.qualifiedName then
    some (.outsidePackage declaration.qualifiedName declaration.package)
  else if index.declarations.contains declaration.qualifiedName then
    some (.listedTwice declaration.qualifiedName)
  else none

/-- Insert declarations that come from the file `origin`.  The answer is the index with all that were
accepted, and what stopped the insertion. -/
def insertAll (origin : Path) : SymbolIndex → List Declaration → SymbolIndex × Option Failure
  | index, [] => (index, none)
  | index, declaration :: rest =>
    match index.refusal? declaration with
    | some fault => (index, some (.index origin fault))
    | none => insertAll origin ⟨index.declarations.insert declaration.qualifiedName declaration⟩ rest

/-- What stands for the origin of declarations that come from no file. -/
def memoryOrigin : Path := ⟨"<memory>"⟩

def ofDeclarations (declarations : List Declaration) : Except Failure SymbolIndex :=
  match insertAll memoryOrigin empty declarations with
  | (index, none) => .ok index
  | (_, some failure) => .error failure

/-! ## As a resolver -/

/-- The converter that a declaration stands for, if all types in it are known. -/
def converterOf (declaration : Declaration) : Option Converter :=
  if declaration.supertypes.all TypeReference.isFullyResolved then
    some ⟨declaration.qualifiedName, declaration.simpleName, declaration.package,
      declaration.supertypes, declaration.file?⟩
  else none

/-- The symbols with an annotation in the order of their names. -/
def annotated (index : SymbolIndex) (annotationName : String) : List Symbol :=
  (index.declarations.values.filter fun declaration => declaration.isAnnotatedWith annotationName).map
    fun declaration => ⟨declaration.qualifiedName, declaration.kind⟩

/-- The arguments of the first annotation with this name. -/
def arguments (index : SymbolIndex) (converter : Converter) (annotationName : String) :
    Option AnnotationArguments := do
  let declaration ← index.get? converter.qualifiedName
  let entry ← declaration.annotations.find? fun entry => entry.qualifiedName = annotationName
  some entry.arguments

def resolver (index : SymbolIndex) : Resolver where
  annotated := index.annotated
  resolve symbol := (index.get? symbol.qualifiedName).bind converterOf
  arguments := index.arguments
  valueType := Converter.firstValueType

end SymbolIndex

end ConverterBuilders
