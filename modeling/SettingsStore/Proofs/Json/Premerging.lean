import SettingsStore.Proofs.Json.Paths

/-!
# Merging patches beforehand

Two patches that are merged into a target one after the other can be merged into
each other first, provided that the later one takes nothing away and finds
nothing but an object, or nothing at all, wherever it has an object itself.  A
null of the later patch would be lost when the two are merged, and an object
that meets another value would be merged into the target where it should replace
what the earlier patch put there.  The results are the same but for the order of
members.
-/

namespace SettingsStore.Json

/--
Two values are the same but for the order in which their objects show the
members.
-/
inductive Alike : Json → Json → Prop where
  | null : Alike .null .null
  | bool (value : Bool) : Alike (.bool value) (.bool value)
  | integer (value : Int) : Alike (.integer value) (.integer value)
  | double (value : Double) : Alike (.double value) (.double value)
  | string (value : Text) : Alike (.string value) (.string value)
  | array {first second : List Json}
      (items : ∀ index : Nat, Option.Rel Alike first[index]? second[index]?) :
      Alike (.array first) (.array second)
  | object {first second : Members}
      (members : ∀ key, Option.Rel Alike (first.find? key) (second.find? key)) :
      Alike (.object first) (.object second)

/-- What is there or not is alike if what is there is alike to itself. -/
theorem alike_option_refl
    {held : Option Json}
    (each : ∀ value, held = some value → Alike value value) :
    Option.Rel Alike held held := by
  cases held with
  | none => exact .none
  | some value => exact .some (each value rfl)

theorem Alike.refl (value : Json) : Alike value value := by
  induction value using nestedInduction with
  | null => exact .null
  | bool truth => exact .bool truth
  | integer number => exact .integer number
  | double number => exact .double number
  | string text => exact .string text
  | array items inside =>
      exact .array fun index => alike_option_refl fun item found =>
        inside item (List.mem_of_getElem? found)
  | object members inside =>
      exact .object fun key => alike_option_refl fun value found =>
        inside _ (Members.mem_of_find? found)

/-- No path through the objects of a patch leads to a null. -/
def NullFree (patch : Members) : Prop :=
  ∀ path, along? path (.object patch) ≠ some .null

/--
Wherever the later patch has an object, the earlier one has none or no other
value.
-/
def GivesWay (earlier later : Members) : Prop :=
  ∀ path inner value,
    along? path (.object later) = some (.object inner) →
      along? path (.object earlier) = some value →
      ∃ members, value = .object members

section

variable {earlier later inner members : Members} {key : Text}

theorem along?_cons_of_find?
    {value : Json}
    (found : members.find? key = some value)
    (path : List Text) :
    along? (key :: path) (.object members) = along? path value := by
  rw [along?_cons_object, found, Option.bind_some]

theorem along?_cons_single
    (next only : Text)
    (value : Json)
    (path : List Text) :
    along? (next :: path) (.object [(only, value)]) = if next =
      only then along? path value else none := by
  rw [along?_cons_object, Members.find?, lookup_cons_eq]
  split <;> rfl

theorem NullFree.ne_null
    (nullFree : NullFree later) :
    later.find? key ≠ some .null := by
  intro found
  exact nullFree [key] (along?_cons_of_find? found [])

theorem NullFree.find?
    (nullFree : NullFree later)
    (found : later.find? key = some (.object inner)) :
    NullFree inner := by
  intro path
  rw [← along?_cons_of_find? found path]
  exact nullFree (key :: path)

/--
What gives way to an object is an object, and inside the two the same holds.
-/
theorem GivesWay.find?
    {value : Json}
    (givesWay : GivesWay earlier later)
    (found : later.find? key = some (.object inner))
    (before : earlier.find? key = some value) :
    ∃ members, value = .object members ∧ GivesWay members inner := by
  obtain ⟨members, rfl⟩ :=
    givesWay [key] inner value (along?_cons_of_find? found [])
      (along?_cons_of_find? before [])
  refine ⟨members, rfl, fun path => ?_⟩
  rw [← along?_cons_of_find? found path, ← along?_cons_of_find? before path]
  exact givesWay (key :: path)

/-- The empty object gives way to everything. -/
theorem givesWay_nil (later : Members) : GivesWay [] later := by
  intro path inner value _ before
  cases path with
  | nil => exact ⟨[], (Option.some.inj before).symm⟩
  | cons key path => cases before

/-- A patch is taken with what is known of the objects in it. -/
@[elab_as_elim]
theorem patchInduction
    {motive : Members → Prop}
    (patch : Members)
    (step : ∀ patch,
      (∀ key inner, Members.find? patch key = some (.object inner) →
        motive inner) → motive patch) :
    motive patch := by
  have objects :
      ∀ document, ∀ members, document = Json.object members →
        motive members := by
    intro document
    induction document using nestedInduction with
    | object all inside =>
        rintro members same
        cases same
        exact step all fun key inner found =>
          inside _ (Members.mem_of_find? found) inner rfl
    | null | bool | integer | double | string | array => exact nofun
  exact objects _ patch rfl

theorem distinctKeys_of_find?
    {value : Json}
    (distinct : (Json.object members).DistinctKeys)
    (found : members.find? key = some value) :
    value.DistinctKeys :=
  distinctKeysInMembers_iff.mp distinct.2 _ (Members.mem_of_find? found)

end

/--
Patches laid over a target one after the other, or over each other first, come
to the same.
-/
theorem alike_overlayMembers
    {earlier later : Members}
    (earlierDistinct : (Json.object earlier).DistinctKeys)
    (laterDistinct : (Json.object later).DistinctKeys)
    (nullFree : NullFree later)
    (givesWay : GivesWay earlier later)
    (target : Members) :
    Alike (.object (overlayMembers later (overlayMembers earlier target)))
      (.object (overlayMembers (overlayMembers later earlier) target)) := by
  induction later using patchInduction generalizing earlier target with
  | step later induction =>
      have bothDistinct :
          (Json.object (overlayMembers later earlier)).DistinctKeys :=
        distinctKeys_mergePatch earlierDistinct laterDistinct
      refine .object fun key => ?_
      rw [find?_overlayMembers laterDistinct.1,
        find?_overlayMembers earlierDistinct.1,
        find?_overlayMembers bothDistinct.1,
        find?_overlayMembers laterDistinct.1]
      cases found : later.find? key with
      | none => exact alike_option_refl fun value _ => .refl value
      | some value =>
          cases value with
          | null => exact absurd found nullFree.ne_null
          | object inner =>
              have innerDistinct := distinctKeys_of_find? laterDistinct found
              cases before : earlier.find? key with
              -- where the earlier patch is silent, the object is merged into
              -- the empty one beforehand
              | none =>
                  exact .some (@induction key inner found []
                      ⟨.nil, trivial⟩ innerDistinct (nullFree.find? found)
                      (givesWay_nil inner) _)
              | some value =>
                  obtain ⟨members, rfl, givesWay⟩ := givesWay.find? found before
                  exact .some
                    (induction key inner found
                      (distinctKeys_of_find? earlierDistinct before)
                      innerDistinct
                      (nullFree.find? found) givesWay _)
          | bool | integer | double | string | array =>
              exact alike_option_refl fun value _ => .refl value

/--
Take two patches of which the later one has no null that is reached through
objects, and finds an object or nothing in the earlier one wherever it has an
object.  Merging them into a target one after the other, or merging the later
one into the earlier one first and then the result into the target, comes to the
same but for the order of members.  Where target and patches have up to three
hundred levels, all these merges can be made.
-/
theorem mergePatch_premerged
    (target : Json)
    {earlier later : Members}
    (earlierDistinct : (Json.object earlier).DistinctKeys)
    (laterDistinct : (Json.object later).DistinctKeys)
    (nullFree : NullFree later)
    (givesWay : GivesWay earlier later) :
    (target.depth ≤ safeLevels → (Json.object earlier).depth ≤ safeLevels →
      (Json.object later).depth ≤ safeLevels →
        ∃ once twice both premerged,
          mergePatch? target earlier = some once ∧
            mergePatch? (.object once) later = some twice ∧
            mergePatch? (.object earlier) later = some both ∧
              mergePatch? target both = some premerged) ∧
      ∀ once twice both premerged,
        mergePatch? target earlier = some once →
          mergePatch? (.object once) later = some twice →
          mergePatch? (.object earlier) later = some both →
            mergePatch? target both = some premerged →
            Alike (.object twice) (.object premerged) := by
  constructor
  · intro targetWithin earlierWithin laterWithin
    have onceWithin := depth_mergePatch_le targetWithin earlierWithin
    have bothWithin := depth_mergePatch_le earlierWithin laterWithin
    exact ⟨_, _, _, _, if_pos
        (mergeCost_le_copyFrames targetWithin earlierWithin),
      if_pos (mergeCost_le_copyFrames onceWithin laterWithin),
      if_pos (mergeCost_le_copyFrames earlierWithin laterWithin),
      if_pos (mergeCost_le_copyFrames targetWithin bothWithin)⟩
  · intro once twice both premerged mergedOnce mergedTwice mergedBoth mergedLast
    obtain ⟨-, rfl⟩ := mergePatch?_eq_some_iff.mp mergedOnce
    obtain ⟨-, rfl⟩ := mergePatch?_eq_some_iff.mp mergedTwice
    obtain ⟨-, rfl⟩ := mergePatch?_eq_some_iff.mp mergedBoth
    obtain ⟨-, rfl⟩ := mergePatch?_eq_some_iff.mp mergedLast
    exact alike_overlayMembers earlierDistinct laterDistinct nullFree givesWay _

/--
The earlier patch takes `old` away and the later one adds beside its `colour`,
in an object that the target does not have; merged beforehand or not, the target
loses `old` and gets both.
-/
theorem mergePatch_premerged_themes :
    let target : Json := .object [("old", .integer 1), ("theme", .bool true)]
    let earlier : Members :=
      [("old", .null), ("theme", .object [("colour", .string "red")])]
    let later : Members := [("theme", .object [("size", .array [.null])])]
    ∃ once twice both premerged,
      mergePatch? target earlier = some once ∧
        mergePatch? (.object once) later = some twice ∧
        mergePatch? (.object earlier) later = some both ∧
          mergePatch? target both = some premerged ∧
          Alike (.object twice) (.object premerged) := by
  intro target earlier later
  have earlierDistinct : (Json.object earlier).DistinctKeys :=
    ⟨by decide, trivial, ⟨by decide, trivial, trivial⟩, trivial⟩
  have laterDistinct : (Json.object later).DistinctKeys :=
    ⟨by decide, ⟨by decide, ⟨trivial, trivial⟩, trivial⟩, trivial⟩
  -- only three paths lead anywhere in the later patch
  have led : ∀ path value, along? path (.object later) = some value →
      (path = [] ∧ value = .object later) ∨
        (path = [Text.ofString "theme"] ∧
          value = .object [("size", .array [.null])]) ∨
          (path = [Text.ofString "theme", Text.ofString "size"] ∧
            value = .array [.null]) := by
    rintro (_ | ⟨key, _ | ⟨next, _ | ⟨last, path⟩⟩⟩) value found
    · exact Or.inl ⟨rfl, (Option.some.inj found).symm⟩
    all_goals
      rw [along?_cons_single, Option.ite_none_right_eq_some] at found
      obtain ⟨rfl, found⟩ := found
    · exact Or.inr (Or.inl ⟨rfl, (Option.some.inj found).symm⟩)
    all_goals
      rw [along?_cons_single, Option.ite_none_right_eq_some] at found
      obtain ⟨rfl, found⟩ := found
    · exact Or.inr (Or.inr ⟨rfl, (Option.some.inj found).symm⟩)
    · cases found
  have nullFree : NullFree later := by
    intro path found
    rcases led path _ found with
      ⟨-, same⟩ | ⟨-, same⟩ | ⟨-, same⟩ <;> cases same
  have givesWay : GivesWay earlier later := by
    intro path inner value found before
    rcases led path _ found with ⟨rfl, -⟩ | ⟨rfl, -⟩ | ⟨-, same⟩
    · exact ⟨_, (Option.some.inj before).symm⟩
    · exact ⟨_, (Option.some.inj before).symm⟩
    · cases same
  obtain ⟨merges, alike⟩ :=
    mergePatch_premerged target earlierDistinct laterDistinct nullFree givesWay
  obtain ⟨once, twice, both, premerged, mergedOnce, mergedTwice, mergedBoth,
    mergedLast⟩ :=
    merges (by decide) (by decide) (by decide)
  exact ⟨once, twice, both, premerged, mergedOnce, mergedTwice,
    mergedBoth, mergedLast,
    alike once twice both premerged mergedOnce mergedTwice
      mergedBoth mergedLast⟩

end SettingsStore.Json
