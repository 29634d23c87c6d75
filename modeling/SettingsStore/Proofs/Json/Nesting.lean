import SettingsStore.Json.Basic

/-!
# Nested values

What holds of null, of truth values, numbers and strings, of an array whenever
it holds of its items, and of an object whenever it holds of the values of its
members, holds of every value.  What is said of a value at every level is said
of each of its items, or of each of its members.
-/

namespace SettingsStore.Json

/-- Values are taken with what is known of the values inside them. -/
@[elab_as_elim]
theorem nestedInduction
    {motive : Json → Prop}
    (null : motive .null)
    (bool : ∀ truth, motive (.bool truth))
    (integer : ∀ number, motive (.integer number))
    (double : ∀ number, motive (.double number))
    (string : ∀ text, motive (.string text))
    (array : ∀ items, (∀ item ∈ items, motive item) → motive (.array items))
    (object :
      ∀ members, (∀ member ∈ members, motive member.2) →
        motive (.object members))
    (document : Json) :
    motive document := by
  refine @Json.rec motive (fun items => ∀ item ∈ items, motive item)
    (fun members => ∀ member ∈ members, motive member.2)
      (fun member => motive member.2)
    null bool integer double string array object ?_ ?_ ?_ ?_ ?_ document
  · exact fun _ member => (List.not_mem_nil member).elim
  · exact fun _ _ first others => List.forall_mem_cons.mpr ⟨first, others⟩
  · exact fun _ member => (List.not_mem_nil member).elim
  · exact fun _ _ first others => List.forall_mem_cons.mpr ⟨first, others⟩
  · exact fun _ _ inside => inside

variable {levels : Nat} {items : List Json} {members : List (Text × Json)}

theorem depthOfItems_le_iff :
    depthOfItems items ≤ levels ↔ ∀ item ∈ items, item.depth ≤ levels := by
  induction items with
  | nil => simp [depthOfItems]
  | cons item items induction =>
      rw [depthOfItems, Nat.max_le, induction, List.forall_mem_cons]

theorem depthOfMembers_le_iff :
    depthOfMembers members ≤ levels ↔
      ∀ member ∈ members, member.2.depth ≤ levels := by
  induction members with
  | nil => simp [depthOfMembers]
  | cons member members induction =>
      rw [depthOfMembers, Nat.max_le, induction, List.forall_mem_cons]

theorem distinctKeysInItems_iff :
    DistinctKeysInItems items ↔ ∀ item ∈ items, item.DistinctKeys := by
  induction items with
  | nil => simp [DistinctKeysInItems]
  | cons item items induction => simp [DistinctKeysInItems, induction]

theorem distinctKeysInMembers_iff :
    DistinctKeysInMembers members ↔
      ∀ member ∈ members, member.2.DistinctKeys := by
  induction members with
  | nil => simp [DistinctKeysInMembers]
  | cons member members induction => simp [DistinctKeysInMembers, induction]

theorem hasHugeIntegerInItems_eq_false_iff :
    hasHugeIntegerInItems items = false ↔
      ∀ item ∈ items, item.hasHugeInteger = false := by
  induction items with
  | nil => simp [hasHugeIntegerInItems]
  | cons item items induction => simp [hasHugeIntegerInItems, induction]

theorem hasHugeIntegerInMembers_eq_false_iff :
    hasHugeIntegerInMembers members = false ↔
      ∀ member ∈ members, member.2.hasHugeInteger = false := by
  induction members with
  | nil => simp [hasHugeIntegerInMembers]
  | cons member members induction => simp [hasHugeIntegerInMembers, induction]

end SettingsStore.Json
