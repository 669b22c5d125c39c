import ConverterBuilders.Converter

/-!
# Resolvers and scans

A resolver answers questions about the declarations of a source program.  A scan asks it for the
declarations with an annotation and sorts them out: converters, classes that cannot be resolved yet, and
declarations that are no classes.
-/

namespace ConverterBuilders

structure Resolver where
  /-- The declarations with an annotation, in any order and with repetitions. -/
  annotated : String → List Symbol
  /-- The converter that a class symbol stands for, if it can be resolved. -/
  resolve : Symbol → Option Converter
  /-- The arguments of an annotation of a converter. -/
  arguments : Converter → String → Option AnnotationArguments
  /-- The type of the values that a converter makes. -/
  valueType : Converter → Option TypeReference

structure Scan where
  valid : List Converter
  deferred : List Symbol
  ignored : List Symbol
  deriving Inhabited

namespace Scan

def isEmpty (scan : Scan) : Bool :=
  scan.valid.isEmpty && scan.deferred.isEmpty && scan.ignored.isEmpty

/-- The symbols without those that repeat the one in front of them. -/
def dropRepeats : List Symbol → List Symbol
  | [] => []
  | [symbol] => [symbol]
  | symbol :: next :: rest =>
    if symbol = next then dropRepeats (next :: rest) else symbol :: dropRepeats (next :: rest)

/-- The symbols in ascending order, each once. -/
def distinct (symbols : List Symbol) : List Symbol :=
  dropRepeats (symbols.mergeSort fun a b => (compare a b).isLE)

def inOrder (a b : Converter) : Bool := (compare a.qualifiedName b.qualifiedName).isLE

/-- Sort out ascending symbols.  Converters are ordered by their qualified names, and those with the
same name keep the order of their symbols. -/
def ofSymbols (resolver : Resolver) (symbols : List Symbol) : Scan :=
  let classes := symbols.filter fun symbol => symbol.kind = .class
  ⟨(classes.filterMap resolver.resolve).mergeSort inOrder,
    classes.filter fun symbol => (resolver.resolve symbol).isNone,
    symbols.filter fun symbol => symbol.kind ≠ .class⟩

def of (resolver : Resolver) (annotationName : String) : Scan :=
  ofSymbols resolver (distinct (resolver.annotated annotationName))

end Scan

end ConverterBuilders
