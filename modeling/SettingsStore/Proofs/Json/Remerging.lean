import SettingsStore.Proofs.Json.Premerging

/-!
# Merging a patch again

A target fulfils a patch if each value of the patch would make of what stands
under its key just what stands there.  Such a target is left as it is by a
merge, the order of its members included: a null finds nothing to take away, and
every other value is put where it already is.  What comes out of a merge fulfils
the patch, since a value that was laid over something and is laid over the
outcome changes nothing.  So merging a patch twice is merging it once.
-/

namespace SettingsStore

namespace Members

variable {members : Members} {key : Text} {value : Json}

theorem put_of_find?
    (found : members.find? key = some value) :
    members.put key value = members := by
  induction members with
  | nil => cases found
  | cons member members induction =>
      obtain ⟨first, held⟩ := member
      rw [find?, lookup_cons_eq] at found
      rw [put]
      by_cases here : first = key
      · rw [if_pos here.symm, Option.some.injEq] at found
        rw [if_pos here, found]
      · rw [if_neg (Ne.symm here)] at found
        rw [if_neg here, induction found]

theorem erase_of_find?
    (absent : members.find? key = none) :
    members.erase key = members := by
  refine List.filter_eq_self.mpr fun member among => decide_eq_true ?_
  have apart : key ≠ member.1 := by
    simpa using List.lookup_eq_none_iff.mp absent member among
  exact apart.symm

/--
Setting a key to what is found under it, or taking it away if nothing is,
changes nothing.
-/
theorem update_find?
    (members : Members)
    (key : Text) :
    members.update key (members.find? key) = members := by
  cases found : members.find? key with
  | none => exact erase_of_find? found
  | some value => exact put_of_find? found

end Members

namespace Json

/--
Each value of a patch makes of what the target has under its key what the target
has there already.
-/
def Fulfils (target patch : Members) : Prop :=
  ∀ member ∈ patch, member.2.overlay (target.find? member.1) =
    target.find? member.1

section

variable {target patch : Members}

/-- A target that fulfils a patch stays as it is, member by member. -/
theorem Fulfils.overlayMembers
    (fulfils : Fulfils target patch) :
    overlayMembers patch target = target := by
  induction patch with
  | nil => rfl
  | cons member patch induction =>
      obtain ⟨first, others⟩ := List.forall_mem_cons.mp fulfils
      rw [Json.overlayMembers, first, Members.update_find?, induction others]

theorem find?_of_mem
    {member : Text × Json}
    (distinct : patch.Distinct)
    (among : member ∈ patch) :
    patch.find? member.1 = some member.2 :=
  lookup_of_mem (List.pairwise_map.mpr distinct) among

/--
What a merge makes of a target fulfils the patch if a second layer of each of
its values changes nothing.
-/
theorem fulfils_overlayMembers
    (distinct : patch.Distinct)
    (again :
      ∀ member ∈ patch, ∀ held,
        member.2.overlay (member.2.overlay held) = member.2.overlay held)
    (target : Members) :
    Fulfils (overlayMembers patch target) patch := by
  intro member among
  rw [find?_overlayMembers distinct, find?_of_mem distinct among]
  exact again member among (target.find? member.1)

end

/-- The levels of a value that can be copied. -/
theorem copyable_iff
    {value : Json} :
    value.Copyable ↔ value.depth ≤ copyFrames / 2 := by
  rw [Copyable, copyCost]
  omega

/-- A value that is laid over what it made of something changes nothing. -/
theorem overlay_overlay
    {value : Json}
    (distinct : value.DistinctKeys)
    (held : Option Json) :
    value.overlay (value.overlay held) = value.overlay held := by
  induction value using nestedInduction generalizing held with
  | null | bool | integer | double | string | array => rfl
  | object patch inside =>
      obtain ⟨top, values⟩ := distinct
      have again :
          ∀ member ∈ patch, ∀ held,
            member.2.overlay (member.2.overlay held) = member.2.overlay held :=
        fun member among held =>
          inside member among (distinctKeysInMembers_iff.mp values member among)
          held
      have settled :=
        (fulfils_overlayMembers top again
            ((held.bind members?).getD [])).overlayMembers
      rw [overlay, overlay]
      exact congrArg (fun members => some (object members)) settled

/--
Merging a patch into what it was merged into before gives the same object again,
with its members in the same order at every level, whatever the target was and
whatever the patch takes away.  Where target and patch can be copied, both
merges can be made; in general the second one can be made if the outcome of the
first one can be copied.
-/
theorem mergePatch_again
    (target : Json)
    {patch : Members}
    (distinct : (Json.object patch).DistinctKeys) :
    (target.Copyable → (Json.object patch).Copyable →
        ∃ once, mergePatch? target patch = some once ∧
          mergePatch? (.object once) patch = some once) ∧
      ∀ once, mergePatch? target patch = some once →
        mergePatch? (.object once) patch =
          if (Json.object once).Copyable then some once else none := by
  have same :
      mergePatch (.object (mergePatch target patch)) patch =
        mergePatch target patch :=
    Json.object.inj (Option.some.inj (overlay_overlay distinct (some target)))
  have second : ∀ once, mergePatch? target patch = some once →
      mergePatch? (.object once) patch =
        if (Json.object once).Copyable then some once else none := by
    intro once merges
    obtain ⟨within, merged⟩ := mergePatch?_eq_some_iff.mp merges
    rw [merged] at same
    have laid : overlayCostOfMembers patch ≤ copyFrames :=
      (Nat.max_le.mp within).2
    rw [mergePatch?, same]
    have fits :
        mergeCost (.object once) patch ≤ copyFrames ↔
          (Json.object once).Copyable :=
      mergeCost_object_le_iff.trans (and_iff_left laid)
    exact ite_congr (propext fits) (fun _ => rfl) fun _ => rfl
  refine ⟨fun targetWithin patchWithin => ?_, second⟩
  have within : mergeCost target patch ≤ copyFrames := by
    have laid := overlayCost_le_copyCost (.object patch)
    rw [overlayCost] at laid
    refine Nat.max_le.mpr ⟨?_,
      Nat.le_trans (Nat.le_of_succ_le laid) patchWithin⟩
    split
    · exact targetWithin
    · exact Nat.zero_le _
  have merges : mergePatch? target patch = some (mergePatch target patch) :=
    if_pos within
  have copyable : (Json.object (mergePatch target patch)).Copyable :=
    copyable_iff.mpr (depth_mergePatch_le (copyable_iff.mp targetWithin)
        (copyable_iff.mp patchWithin))
  exact ⟨_, merges, (second _ merges).trans (if_pos copyable)⟩

/--
The patch takes `old` away, puts an object that is all nulls in the place of a
truth value, and adds to an object; the second time it finds nothing to do.
-/
theorem mergePatch_again_themes :
    let target : Json :=
      .object [("theme", .bool true), ("old", .integer 1),
        ("view", .object [("wide", .null)])]
    let patch : Members :=
      [("old", .null), ("view", .object [("size", .array [.null])]),
        ("theme", .object [("colour", .null)])]
    let once : Members :=
      [("theme", .object []),
        ("view", .object [("wide", .null), ("size", .array [.null])])]
    mergePatch? target patch = some once ∧
      mergePatch? (.object once) patch = some once := by
  intro target patch once
  have distinct : (Json.object patch).DistinctKeys :=
    ⟨by decide, trivial, ⟨by decide, ⟨trivial, trivial⟩, trivial⟩,
      ⟨by decide, trivial, trivial⟩, trivial⟩
  have merges : mergePatch? target patch = some once := rfl
  exact ⟨merges, ((mergePatch_again target distinct).2 once merges).trans
      (if_pos (by decide))⟩

end Json

end SettingsStore
