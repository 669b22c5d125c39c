import ConverterBuilders.Request

/-!
# Plans

A plan says what is generated for each variant of a request, in the order of their names.
-/

namespace ConverterBuilders

inductive Planned where
  | builder (shape : Shape) (choice : Bool)
  | choiceModifier
  | unsupported (name : String)
  deriving DecidableEq, Inhabited

def listChoiceConflict : RequestError :=
  .incompatibleVariants (Variant.builder .list).name Variant.choice.name
    "there are no list-based choice converters"

namespace Plan

/-- The entry for a variant, in choice form or not. -/
def entry (choice : Bool) : Variant → Except RequestError Planned
  | .builder shape =>
    if shape = .list ∧ choice = true then .error listChoiceConflict else .ok (.builder shape choice)
  | .choice => .ok .choiceModifier
  | .unsupported name => .ok (.unsupported name)

def ofRequest (request : Request) : Except RequestError (List Planned) :=
  request.variants.values.mapM (entry request.hasChoice)

def unsupportedNames (plan : List Planned) : List String :=
  plan.filterMap fun planned =>
    match planned with
    | .unsupported name => some name
    | _ => none

/-- The entry for a variant that is not a list in choice form. -/
def entryOf (choice : Bool) : Variant → Planned
  | .builder shape => .builder shape choice
  | .choice => .choiceModifier
  | .unsupported name => .unsupported name

end Plan

end ConverterBuilders
