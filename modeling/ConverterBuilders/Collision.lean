import ConverterBuilders.Converter
import ConverterBuilders.Failure

/-!
# Collisions of artifacts

Two converters collide if their artifacts have the same identity.  The first converter whose identity
has occurred before is reported together with the one it occurred with.

Main statements:

* `firstCollision_cons_of_none`, `firstCollision_cons_of_some`: one step of the search.
-/

namespace ConverterBuilders.Converter

/-- The first collision of converters when the identities in `seen`, each with the name of its
converter, have occurred before. -/
def firstCollision (seen : OrderedMap String String) : List Converter → Option Failure
  | [] => none
  | converter :: rest =>
    match seen.get? converter.artifactIdentity with
    | some first => some (.collision converter.artifactIdentity first converter.qualifiedName)
    | none => firstCollision (seen.insert converter.artifactIdentity converter.qualifiedName) rest

/-- Refuse converters of which two collide. -/
def checkCollisions (converters : List Converter) : Except Failure Unit :=
  match firstCollision OrderedMap.empty converters with
  | some failure => .error failure
  | none => .ok ()

theorem firstCollision_cons_of_none {seen : OrderedMap String String} {converter : Converter}
    (h : seen.get? converter.artifactIdentity = none) (rest : List Converter) :
    firstCollision seen (converter :: rest) =
      firstCollision (seen.insert converter.artifactIdentity converter.qualifiedName) rest := by
  simp [firstCollision, h]

theorem firstCollision_cons_of_some {seen : OrderedMap String String} {converter : Converter}
    {first : String} (h : seen.get? converter.artifactIdentity = some first) (rest : List Converter) :
    firstCollision seen (converter :: rest) =
      some (.collision converter.artifactIdentity first converter.qualifiedName) := by
  simp [firstCollision, h]

end ConverterBuilders.Converter
