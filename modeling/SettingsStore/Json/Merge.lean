import SettingsStore.Json.Basic

/-!
# Merging a patch into a document

A patch is an object.  Each of its members replaces the member of the target
with that key, except that null takes the member away and an object is merged
into the object that the target holds there (into the empty one if it holds
none).  Arrays are values like any other: they replace and are not merged.
-/

namespace SettingsStore.Json

mutual

/--
What a value of a patch makes of the value at its place: none if it takes it
away.
-/
def overlay : Json → Option Json → Option Json
  | .null, _ => none
  | .object patch, target =>
      some (.object (overlayMembers patch ((target.bind members?).getD [])))
  | value, _ => some value

/-- The members of a target after those of a patch, in order. -/
def overlayMembers : List (Text × Json) → Members → Members
  | [], target => target
  | (key, value) :: patch, target =>
    overlayMembers patch (target.update key (value.overlay (target.find? key)))

end

/--
Merges a patch into a target; one that is not an object counts as the empty
object.
-/
def mergePatch (target : Json) (patch : Members) : Members :=
  overlayMembers patch (target.members?.getD [])

mutual

/--
The frames that merging a value of a patch takes: one for each object, and those
of copying an array.
-/
def overlayCost : Json → Nat
  | .object patch => overlayCostOfMembers patch + 1
  | .array items => copyCost (.array items)
  | _ => 0

/-- The greatest cost among the values of a patch. -/
def overlayCostOfMembers : List (Text × Json) → Nat
  | [] => 0
  | (_, value) :: rest => max value.overlayCost (overlayCostOfMembers rest)

end

/-- The frames that merging takes: the target is copied first. -/
def mergeCost (target : Json) (patch : Members) : Nat :=
  max (if target.members?.isSome then target.copyCost else 0)
    (overlayCostOfMembers patch)

/-- Merges a patch unless target or patch is nested too deeply. -/
def mergePatch? (target : Json) (patch : Members) : Option Members :=
  if mergeCost target patch ≤ copyFrames then
    some (mergePatch target patch)
  else none

end SettingsStore.Json
