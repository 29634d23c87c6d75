import SettingsStore.Json.Merge
import SettingsStore.Proofs.Json.Nesting
import SettingsStore.Proofs.Lookup

/-!
# What stands in a merged document

Setting a key and taking one away change what is found under this key and under
no other.  So what is found under a key of a merged object is decided by what
the patch and the target hold under that key alone: where the patch is silent
the target is kept, and elsewhere the value of the patch is laid over that of
the target.  Merging costs no more than copying the target and laying each value
of the patch over it.
-/

namespace SettingsStore

namespace Members

theorem find?_put
    (members : Members)
    (key other : Text)
    (value : Json) :
    (members.put key value).find? other =
      if other = key then some value else members.find? other := by
  induction members with
  | nil => exact lookup_cons_eq other key value []
  | cons member members induction =>
      obtain ⟨first, held⟩ := member
      rw [find?] at induction ⊢
      rw [put]
      by_cases here : first = key
      · rw [if_pos here, find?, lookup_cons_eq, lookup_cons_eq, here]
        split <;> rfl
      · rw [if_neg here, find?, lookup_cons_eq, lookup_cons_eq, induction]
        by_cases same : other = first
        · rw [if_pos same, if_pos same, if_neg (same ▸ here)]
        · rw [if_neg same, if_neg same]
          rfl

/-- A change of one key is found under that key and under no other. -/
theorem find?_update
    (members : Members)
    (key other : Text)
    (value : Option Json) :
    (members.update key value).find? other = if other =
      key then value else members.find? other := by
  cases value with
  | none => exact lookup_filter_ne members key other
  | some value => exact find?_put members key other value

/-- What is found under a key is one of the members. -/
theorem mem_of_find?
    {members : Members}
    {key : Text}
    {value : Json}
    (found : members.find? key = some value) :
    (key, value) ∈ members :=
  mem_of_lookup found

/-- No two members have the same key. -/
abbrev Distinct (members : Members) : Prop :=
  members.Pairwise fun first second => first.1 ≠ second.1

theorem mem_put
    {members : Members}
    {key : Text}
    {value : Json}
    {member : Text × Json}
    (there : member ∈ members.put key value) :
    member = (key, value) ∨ member ∈ members := by
  induction members with
  | nil => exact Or.inl (List.mem_singleton.mp there)
  | cons first rest induction =>
      obtain ⟨held, old⟩ := first
      rw [put] at there
      split at there
      · rename_i same
        rcases List.mem_cons.mp there with rfl | there
        · exact Or.inl (congrArg (·, value) same)
        · exact Or.inr (List.mem_cons_of_mem _ there)
      · rcases List.mem_cons.mp there with rfl | there
        · exact Or.inr List.mem_cons_self
        · exact (induction there).imp_right (List.mem_cons_of_mem _)

theorem Distinct.put
    {members : Members}
    (distinct : members.Distinct)
    (key : Text)
    (value : Json) :
    (members.put key value).Distinct := by
  induction members with
  | nil => exact List.pairwise_singleton _ _
  | cons first rest induction =>
      obtain ⟨held, old⟩ := first
      obtain ⟨apart, others⟩ := List.pairwise_cons.mp distinct
      rw [Members.put]
      split
      · exact List.pairwise_cons.mpr ⟨apart, others⟩
      · rename_i other
        refine List.pairwise_cons.mpr ⟨fun member there => ?_, induction others⟩
        rcases mem_put there with rfl | there
        · exact other
        · exact apart member there

/--
A change of one key puts its value under it, if it has one, and brings no other
member.
-/
theorem mem_update
    {members : Members}
    {key : Text}
    {value : Option Json}
    {member : Text × Json}
    (there : member ∈ members.update key value) :
    (member.1 = key ∧ value = some member.2) ∨ member ∈ members := by
  cases value with
  | none => exact Or.inr (List.mem_filter.mp there).1
  | some value =>
      refine (mem_put there).imp_left ?_
      rintro rfl
      exact ⟨rfl, rfl⟩

theorem Distinct.update
    {members : Members}
    (distinct : members.Distinct)
    (key : Text)
    (value : Option Json) :
    (members.update key value).Distinct := by
  cases value with
  | none => exact List.Pairwise.filter _ distinct
  | some value => exact distinct.put key value

end Members

namespace Json

/--
What is found under a key of a merged object is what the value of the patch
makes of that of the target.
-/
theorem find?_overlayMembers
    {patch : Members}
    (distinct : patch.Distinct)
    (target : Members)
    (key : Text) :
    (overlayMembers patch target).find? key =
      match patch.find? key with
      | none => target.find? key
      | some value => value.overlay (target.find? key) := by
  -- the target of the induction is what the members so far made of the first
  -- one
  induction patch generalizing target with
  | nil => rfl
  | cons member patch induction =>
      obtain ⟨first, value⟩ := member
      obtain ⟨others, distinct⟩ := List.pairwise_cons.mp distinct
      have found : Members.find? ((first, value) :: patch) key =
          if key = first then some value else Members.find? patch key :=
        lookup_cons_eq key first value patch
      rw [overlayMembers, induction distinct, Members.find?_update, found]
      by_cases here : key = first
      · have once : Members.find? patch key = none := by
          refine List.lookup_eq_none_iff.mpr fun member among => ?_
          simpa [here] using others member among
        rw [if_pos here, if_pos here, once, here]
      · rw [if_neg here, if_neg here]

/--
What the target has, and each change by a member of the patch keeps, the merged
object has.
-/
theorem overlayMembers_keeps
    {Kept : Members → Prop}
    {patch target : Members}
    (start : Kept target)
    (step : ∀ member ∈ patch, ∀ sofar, Kept sofar →
      Kept (sofar.update member.1 (member.2.overlay (sofar.find? member.1)))) :
    Kept (overlayMembers patch target) := by
  induction patch generalizing target with
  | nil => exact start
  | cons member patch induction =>
      obtain ⟨first, others⟩ := List.forall_mem_cons.mp step
      exact induction (first target start) others

/--
What is said of a value at every level is kept by merging: what is said at the
top of an object holds of the empty object as well, and no change of one key
loses it.
-/
theorem overlay_keeps
    {Good : Nat → Json → Prop}
    {Top : Nat → Members → Prop}
    (object : ∀ levels members,
      Good levels (.object members) ↔
        Top levels members ∧ ∀ member ∈ members, Good (levels - 1) member.2)
    (empty : ∀ levels members, Top levels members → Top levels [])
    (update :
      ∀ levels members key value, Top levels members →
        Top levels (members.update key value))
    {levels : Nat}
    {value found : Json}
    {held : Option Json}
    (good : Good levels value)
    (goodHeld : ∀ old, held = some old → Good levels old)
    (laid : value.overlay held = some found) :
    Good levels found := by
  induction value using nestedInduction generalizing levels found held with
  | null => cases laid
  | bool | integer | double | string | array =>
      cases laid
      exact good
  | object patch inside =>
      obtain ⟨top, values⟩ := (object levels patch).mp good
      rw [overlay] at laid
      cases laid
      let Kept (members : Members) : Prop :=
        Top levels members ∧ ∀ member ∈ members, Good (levels - 1) member.2
      have start : Kept ((held.bind members?).getD []) := by
        cases held with
        | none => exact ⟨empty levels patch top, nofun⟩
        | some old =>
            cases old with
            | object members =>
                exact (object levels members).mp (goodHeld _ rfl)
            | null | bool | integer | double | string | array =>
                exact ⟨empty levels patch top, nofun⟩
      refine (object levels _).mpr (@overlayMembers_keeps Kept patch _ start ?_)
      rintro ⟨key, value⟩ among sofar ⟨sofarTop, sofarValues⟩
      refine ⟨update levels sofar key _ sofarTop, ?_⟩
      intro member there
      rcases Members.mem_update there with ⟨-, laid⟩ | before
      · refine inside _ among (values _ among) ?_ laid
        exact fun old found => sofarValues _ (Members.mem_of_find? found)
      · exact sofarValues member before

/--
A merged value holds no key twice in any object if neither of the two does.
-/
theorem distinctKeys_overlay
    {value found : Json}
    {held : Option Json}
    (distinct : value.DistinctKeys)
    (heldDistinct : ∀ old, held = some old → old.DistinctKeys)
    (laid : value.overlay held = some found) :
    found.DistinctKeys := by
  refine @overlay_keeps (fun _ => DistinctKeys)
    (fun _ => Members.Distinct) ?_ ?_ ?_ 0 _ _ _ distinct heldDistinct laid
  · intro _ members
    rw [DistinctKeys, distinctKeysInMembers_iff]
  · exact fun _ _ _ => List.Pairwise.nil
  · exact fun _ _ key value distinct => distinct.update key value

/-- It is nested no deeper than the deeper one of the two. -/
theorem depth_overlay_le
    {levels : Nat}
    {value found : Json}
    {held : Option Json}
    (shallow : value.depth ≤ levels)
    (heldShallow : ∀ old, held = some old → old.depth ≤ levels)
    (laid : value.overlay held = some found) :
    found.depth ≤ levels := by
  refine @overlay_keeps (fun levels value => value.depth ≤ levels)
    (fun levels _ => 0 < levels) ?_ ?_ ?_
    levels _ _ _ shallow heldShallow laid
  · intro levels members
    rw [depth, ← depthOfMembers_le_iff]
    omega
  · exact fun _ _ some => some
  · exact fun _ _ _ _ some => some

theorem distinctKeys_mergePatch
    {target : Json}
    {patch : Members}
    (targetDistinct : target.DistinctKeys)
    (patchDistinct : (Json.object patch).DistinctKeys) :
    (Json.object (mergePatch target patch)).DistinctKeys :=
  @distinctKeys_overlay _ _ (some target) patchDistinct
    (fun _ same => Option.some.inj same ▸ targetDistinct) rfl

theorem depth_mergePatch_le
    {levels : Nat}
    {target : Json}
    {patch : Members}
    (targetShallow : target.depth ≤ levels)
    (patchShallow : (Json.object patch).depth ≤ levels) :
    (Json.object (mergePatch target patch)).depth ≤ levels :=
  @depth_overlay_le _ _ _ (some target) patchShallow
    (fun _ same => Option.some.inj same ▸ targetShallow) rfl

/-! ## What merging costs -/

theorem overlayCostOfMembers_le_iff
    {patch : Members}
    {frames : Nat} :
    overlayCostOfMembers patch ≤ frames ↔
      ∀ member ∈ patch, member.2.overlayCost ≤ frames := by
  induction patch with
  | nil => simp [overlayCostOfMembers]
  | cons member patch induction =>
      rw [overlayCostOfMembers, Nat.max_le, induction, List.forall_mem_cons]

theorem mergePatch?_eq_some_iff
    {target : Json}
    {patch merged : Members} :
    mergePatch? target patch = some merged ↔
      mergeCost target patch ≤ copyFrames ∧
        mergePatch target patch = merged := by
  rw [mergePatch?, Option.ite_none_right_eq_some, Option.some.injEq]

/--
Objects can be merged if the target can be copied and the patch be laid over it.
-/
theorem mergeCost_object_le_iff
    {target patch : Members}
    {frames : Nat} :
    mergeCost (.object target) patch ≤ frames ↔
      copyCost (.object target) ≤ frames ∧
        overlayCostOfMembers patch ≤ frames :=
  Nat.max_le

end Json

end SettingsStore
