import SettingsStore.Proofs.Json.Merging
import SettingsStore.Proofs.Json.Nesting

/-!
# Merging path by path

A path is a list of keys that lead from object to object.  A merged document is
told path by path: the path is followed through the patch alone, and what is met
there decides.  A null takes away whatever is at the path or beyond it, any
other value that is no object stands as it is, with nothing beyond it, and where
the patch has no such key the target is kept.  A path that leads to an object of
the patch leads to an object.
-/

namespace SettingsStore.Json

/-- What is found along a path of keys, through objects. -/
def along? : List Text → Json → Option Json
  | [], value => some value
  | key :: path, value => (value.field? key).bind (along? path)

/-- What is met when a path is followed through a patch. -/
inductive Encounter where
  /-- The patch has no such key. -/
  | missing
  /-- A null, at the path or before its end. -/
  | removal
  /--
  A value that is neither null nor an object, and the keys of the path that are
  left there.
  -/
  | replacement (value : Json) (beyond : List Text)
  /-- An object, at the end of the path. -/
  | object

/--
What is met when a path is followed through a patch while it meets objects.
-/
def encounter : List Text → Members → Encounter
  | [], _ => .object
  | key :: path, patch =>
    match patch.find? key with
    | none => .missing
    | some .null => .removal
    | some (.object inner) => encounter path inner
    | some value => .replacement value path

/--
What is found along a path of a merged document after an encounter, where the
target kept something or nothing.
-/
def Encounter.Leaves (kept found : Option Json) : Encounter → Prop
  | .missing => found = kept
  | .removal => found = none
  | .replacement value beyond =>
      found = if beyond = [] then some value else none
  | .object => ∃ members, found = some (.object members)

/-! ## Paths -/

theorem along?_cons_object
    (key : Text)
    (path : List Text)
    (members : Members) :
    along? (key :: path) (.object members) =
      (members.find? key).bind (along? path) :=
  rfl

/-- No path leads beyond a value that is not an object. -/
theorem along?_of_no_members
    {value : Json}
    (none : value.members? = none)
    (path : List Text) :
    along? path value = if path = [] then some value else .none := by
  cases path with
  | nil => rfl
  | cons key path =>
      rw [along?, field?, none, Option.bind_none, Option.bind_none,
        if_neg (List.cons_ne_nil key path)]

/--
A target counts by its members: along a path one that is no object has what the
empty object has.
-/
theorem along?_members
    (target : Json)
    {path : List Text}
    (proper : path ≠ []) :
    along? path (.object (target.members?.getD [])) = along? path target := by
  cases path with
  | nil => exact absurd rfl proper
  | cons key path => cases target <;> rfl

/--
What a member holds, or the empty object, has along a path what the member has.
-/
theorem along?_held
    (held : Option Json)
    {path : List Text}
    (proper : path ≠ []) :
    along? path (.object ((held.bind members?).getD [])) =
      held.bind (along? path) := by
  cases held with
  | none =>
      cases path with
      | nil => exact absurd rfl proper
      | cons key path => rfl
  | some value => exact along?_members value proper

/--
The encounter with a path settles what is found along it, whatever the target
holds.
-/
theorem encounter_overlayMembers
    {patch : Members}
    (distinct : (Json.object patch).DistinctKeys)
    (target : Members)
    {path : List Text}
    (proper : path ≠ []) :
    (encounter path patch).Leaves (along? path (.object target))
      (along? path (.object (overlayMembers patch target))) := by
  -- the target of the induction is what the member on the way holds
  induction path generalizing patch target with
  | nil => exact absurd rfl proper
  | cons key path induction =>
      obtain ⟨top, inside⟩ := distinct
      rw [encounter, along?_cons_object, along?_cons_object,
        find?_overlayMembers top]
      cases found : patch.find? key with
      | none => rfl
      | some value =>
          cases value with
          | null => rfl
          | object inner =>
              dsimp only
              rw [overlay, Option.bind_some]
              by_cases last : path = []
              · subst last
                exact ⟨_, rfl⟩
              · have innerDistinct :=
                  distinctKeysInMembers_iff.mp inside _
                    (Members.mem_of_find? found)
                rw [← along?_held _ last]
                exact induction innerDistinct _ last
          | bool | integer | double | string | array =>
              exact along?_of_no_members rfl path

/-! ## Levels that can be merged -/

/-- Laying a value over another one takes no more than copying it. -/
theorem overlayCost_le_copyCost
    (value : Json) :
    value.overlayCost ≤ value.copyCost := by
  induction value using nestedInduction with
  | object members inside =>
      have each :
          overlayCostOfMembers members ≤ 2 * depthOfMembers members := by
        refine overlayCostOfMembers_le_iff.mpr fun member among =>
          Nat.le_trans (inside member among) ?_
        exact Nat.mul_le_mul_left 2
          (depthOfMembers_le_iff.mp (Nat.le_refl _) member among)
      rw [overlayCost, copyCost, depth]
      omega
  | array => exact Nat.le_refl _
  | null | bool | integer | double | string => exact Nat.zero_le _

/-- Documents of this many levels are copied and merged. -/
def safeLevels : Nat := 300

theorem mergeCost_le_copyFrames
    {target : Json}
    {patch : Members}
    (targetWithin : target.depth ≤ safeLevels)
    (patchWithin : (Json.object patch).depth ≤ safeLevels) :
    mergeCost target patch ≤ copyFrames := by
  have laid := overlayCost_le_copyCost (.object patch)
  rw [overlayCost, copyCost] at laid
  rw [safeLevels] at targetWithin patchWithin
  refine Nat.max_le.mpr ⟨?_, ?_⟩
  · split
    · rw [copyCost, copyFrames]
      omega
    · exact Nat.zero_le _
  · rw [copyFrames]
    omega

/--
Documents of up to three hundred levels can be merged.  Along a path of keys
that is not empty, what is found in a merged document is settled by what is met
when the path is followed through the patch: nothing, where that is a null; the
value and nothing beyond it, where it is another value that is no object; what
the target has, where the patch has no such key; and an object, where the path
ends at one.
-/
theorem mergePatch_along
    (target : Json)
    {patch : Members}
    (distinct : (Json.object patch).DistinctKeys) :
    (target.depth ≤ safeLevels → (Json.object patch).depth ≤ safeLevels →
        ∃ merged, mergePatch? target patch = some merged) ∧
      ∀ merged, mergePatch? target patch = some merged →
        ∀ path, path ≠ [] →
          (encounter path patch).Leaves (along? path target)
            (along? path (.object merged)) := by
  constructor
  · intro targetWithin patchWithin
    exact ⟨_, if_pos (mergeCost_le_copyFrames targetWithin patchWithin)⟩
  · intro merged merges path proper
    obtain ⟨-, rfl⟩ := mergePatch?_eq_some_iff.mp merges
    rw [mergePatch, ← along?_members target proper]
    exact encounter_overlayMembers distinct _ proper

/--
A scalar of the target gives way to an object, whose null finds nothing to take
away; a list stands as it is, with the null in it; and what the patch does not
name is kept.
-/
theorem mergePatch_along_nested :
    let target : Json :=
      .object [("a", .object [("kept", .bool true)]), ("b", .integer 1)]
    let patch : Members :=
      [("b", .object [("gone", .null), ("list", .array [.null])]),
        ("a", .object [("new", .string "x")])]
    ∃ merged,
      mergePatch? target patch = some merged ∧
        along? ["b", "gone"] (.object merged) = none ∧
          along? ["b", "list"] (.object merged) = some (.array [.null]) ∧
            along? ["a", "kept"] (.object merged) = some (.bool true) ∧
              ∃ members, along? ["a"] (.object merged) =
                some (.object members) := by
  intro target patch
  have distinct : (Json.object patch).DistinctKeys :=
    ⟨by decide, ⟨by decide, trivial, ⟨trivial, trivial⟩, trivial⟩,
      ⟨by decide, trivial, trivial⟩, trivial⟩
  obtain ⟨merges, settled⟩ := mergePatch_along target distinct
  obtain ⟨merged, merges⟩ := merges (by decide) (by decide)
  exact ⟨merged, merges, settled merged merges ["b", "gone"] nofun,
    settled merged merges ["b", "list"] nofun,
    settled merged merges ["a", "kept"] nofun,
    settled merged merges ["a"] nofun⟩

end SettingsStore.Json
