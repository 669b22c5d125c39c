import ConverterBuilders.AnnotationValue
import ConverterBuilders.QualifiedName
import ConverterBuilders.TypeReference

/-!
# Declarations

What is known of a declaration of the source program: its names, its kind, the file it stands in, its
supertypes and its annotations.

Main statement:

* `Kind.rank_injective`: kinds are ordered without ties, and so are symbols.
-/

namespace ConverterBuilders

/-- The kinds of declarations, in their order. -/
inductive Kind where
  | «class»
  | object
  | interface
  | function
  | property
  deriving DecidableEq, Inhabited

namespace Kind

def all : List Kind := [.class, .object, .interface, .function, .property]

def name : Kind → String
  | .class => "class"
  | .object => "object"
  | .interface => "interface"
  | .function => "function"
  | .property => "property"

def rank : Kind → Nat
  | .class => 0
  | .object => 1
  | .interface => 2
  | .function => 3
  | .property => 4

def ofName? (word : String) : Option Kind := all.find? fun kind => kind.name = word

/-- Whether a document may stand for the content of a kind, which has none. -/
def isVoid : Format → Document → Bool
  | .json, .null => true
  | .toml, .table [] => true
  | .toml, .list [] => true
  | _, _ => false

/-- The kind that a document stands for: its word, or a table with nothing under its word. -/
def read (format : Format) : Document → Option Kind
  | .text word => ofName? word
  | .table [(word, content)] => if isVoid format content then ofName? word else none
  | _ => none

theorem ofName?_name (kind : Kind) : ofName? kind.name = some kind := by cases kind <;> rfl

theorem rank_injective {a b : Kind} (h : a.rank = b.rank) : a = b := by
  cases a <;> cases b <;> simp_all [rank]

end Kind

/-- A declaration as it is found by an annotation: its qualified name and its kind. -/
structure Symbol where
  qualifiedName : String
  kind : Kind
  deriving DecidableEq, Inhabited

namespace Symbol

/-- Symbols are ordered by name and then by kind. -/
instance : Ord Symbol :=
  ⟨compareLex (compareOn Symbol.qualifiedName) (compareOn fun symbol => symbol.kind.rank)⟩

instance : Std.TransOrd Symbol :=
  inferInstanceAs (Std.TransCmp
    (compareLex (compareOn Symbol.qualifiedName) (compareOn fun symbol => symbol.kind.rank)))

instance : Std.LawfulEqOrd Symbol where
  eq_of_compare {a b} h := by
    have h' : (compare a.qualifiedName b.qualifiedName).then (compare a.kind.rank b.kind.rank) = .eq := h
    rw [Ordering.then_eq_eq] at h'
    have hn := Std.LawfulEqOrd.eq_of_compare h'.1
    have hk := Kind.rank_injective (Std.LawfulEqOrd.eq_of_compare h'.2)
    cases a
    cases b
    simp_all

end Symbol

structure AnnotationUse where
  qualifiedName : String
  arguments : AnnotationArguments
  deriving Inhabited

structure Declaration where
  qualifiedName : String
  package : String
  kind : Kind
  file? : Option String
  supertypes : List TypeReference
  annotations : List AnnotationUse
  deriving Inhabited

/-! ## Annotations as documents -/

namespace AnnotationUse

def fieldNames : List String := ["qualified_name", "arguments"]

def write (entry : AnnotationUse) : Document :=
  .table [("qualified_name", .text entry.qualifiedName),
    ("arguments", AnnotationValue.writeArguments entry.arguments)]

def assemble : List (Option Document) → Option AnnotationUse
  | [qualifiedName, arguments] => do
    let qualifiedName ← Record.required Document.text? qualifiedName
    let arguments ← Record.withDefault OrderedMap.empty AnnotationValue.readArguments arguments
    some ⟨qualifiedName, arguments⟩
  | _ => none

def read (format : Format) (document : Document) : Option AnnotationUse :=
  (Record.fields format fieldNames document).bind assemble

end AnnotationUse

/-! ## Declarations as documents -/

namespace Declaration

def simpleName (declaration : Declaration) : String :=
  QualifiedName.simpleName declaration.qualifiedName

def isAnnotatedWith (declaration : Declaration) (name : String) : Bool :=
  declaration.annotations.any fun entry => entry.qualifiedName = name

def fieldNames : List String :=
  ["qualified_name", "package", "kind", "file", "supertypes", "annotations"]

/-- The table that stands for a declaration; an unknown file is left out. -/
def write (declaration : Declaration) : Document :=
  .table
    ([("qualified_name", .text declaration.qualifiedName), ("package", .text declaration.package),
      ("kind", .text declaration.kind.name)] ++
    (declaration.file?.toList.map fun file => ("file", .text file)) ++
    [("supertypes", .list (declaration.supertypes.map TypeReference.write)),
      ("annotations", .list (declaration.annotations.map AnnotationUse.write))])

def assemble (format : Format) : List (Option Document) → Option Declaration
  | [qualifiedName, package, kind, file, supertypes, annotations] => do
    let qualifiedName ← Record.required Document.text? qualifiedName
    let package ← Record.withDefault "" Document.text? package
    let kind ← Record.withDefault .class (Kind.read format) kind
    let file? ← Record.optional Document.text? file
    let supertypes ← Record.withDefault [] (Document.listOf? (TypeReference.read format)) supertypes
    let annotations ← Record.withDefault [] (Document.listOf? (AnnotationUse.read format)) annotations
    some ⟨qualifiedName, package, kind, file?, supertypes, annotations⟩
  | _ => none

def read (format : Format) (document : Document) : Option Declaration :=
  (Record.fields format fieldNames document).bind (assemble format)

def readIndex (format : Format) (document : Document) : Option (List Declaration) :=
  match Record.fields format ["declaration"] document with
  | some [declarations] =>
    Record.withDefault [] (Document.listOf? (read format)) declarations
  | _ => none

end Declaration

end ConverterBuilders
