import ConverterBuilders.OrderedMap
import ConverterBuilders.Text.Blank
import ConverterBuilders.Text.Split

/-!
# Variants of builders

An annotation asks for variants of a converter by their names: the four shapes of builder functions,
the choice form of all of them, and names that nothing is generated for.

Main statements:

* `name_ofName`: a variant keeps the name that it was made from;
* `name_parse`: a request names the variant after its last point.
-/

namespace ConverterBuilders

open Text

inductive Shape where
  | single
  | optional
  | defaulting
  | list
  deriving DecidableEq, Inhabited

inductive Variant where
  | builder (shape : Shape)
  | choice
  | unsupported (name : String)
  deriving DecidableEq, Inhabited

/-- Variants in the order of their names, each once. -/
abbrev VariantSet := OrderedMap String Variant

def Shape.name : Shape → String
  | .single => "SINGLE"
  | .optional => "OPTIONAL"
  | .defaulting => "DEFAULTING"
  | .list => "LIST"

namespace Variant

def name : Variant → String
  | .builder shape => shape.name
  | .choice => "CHOICE"
  | .unsupported name => name

def supported : List Variant :=
  [.builder .single, .builder .optional, .builder .defaulting, .builder .list, .choice]

def ofName (text : String) : Variant :=
  match supported.find? fun variant => variant.name = text with
  | some variant => variant
  | none => .unsupported text

/-- The variant that a text asks for: white space around it and a qualifier in front do not count. -/
def parse (raw : String) : Variant := ofName (afterLastText '.' (trim raw))

def isUnsupported : Variant → Bool
  | .unsupported _ => true
  | _ => false

theorem name_ofName (text : String) : (ofName text).name = text := by
  rw [ofName]
  split
  · rename_i variant h
    simpa using List.find?_some h
  · rfl

theorem name_parse (raw : String) : (parse raw).name = afterLastText '.' (trim raw) :=
  name_ofName _

end Variant

namespace VariantSet

def ofVariants (variants : List Variant) : VariantSet :=
  OrderedMap.ofList (variants.map fun variant => (variant.name, variant))

def hasChoice (variants : VariantSet) : Bool := variants.contains Variant.choice.name

end VariantSet

end ConverterBuilders
