/-!
# Looking keys up in lists of pairs

Objects and file systems are lists of pairs of which the first one with a key
counts.  What is found in such a list is one of its pairs and decided pair by
pair, and taking away all pairs with a key hides that key and no other.
-/

namespace SettingsStore

variable {Key Value : Type} [BEq Key] [LawfulBEq Key] [DecidableEq Key]

omit [DecidableEq Key] in
theorem mem_of_lookup
    {pairs : List (Key × Value)}
    {key : Key}
    {value : Value}
    (found : pairs.lookup key = some value) :
    (key, value) ∈ pairs := by
  obtain ⟨before, after, equal, -⟩ := List.lookup_eq_some_iff.mp found
  rw [equal]
  simp

theorem lookup_cons_eq
    (key first : Key)
    (value : Value)
    (pairs : List (Key × Value)) :
    ((first, value) :: pairs).lookup key = if key =
      first then some value else pairs.lookup key := by
  by_cases same : key = first
  · simp [same]
  · simp [List.lookup_cons, same, beq_false_of_ne same]

/-- If no two pairs share a key, each of them is found by its own. -/
theorem lookup_of_mem
    {pairs : List (Key × Value)}
    {key : Key}
    {value : Value}
    (distinct : (pairs.map Prod.fst).Nodup)
    (among : (key, value) ∈ pairs) :
    pairs.lookup key = some value := by
  induction pairs with
  | nil => cases among
  | cons first pairs induction =>
      obtain ⟨apart, distinct⟩ := List.nodup_cons.mp distinct
      rw [lookup_cons_eq]
      rcases List.mem_cons.mp among with rfl | among
      · exact if_pos rfl
      · have other : key ≠ first.1 :=
          fun same => apart (same ▸ List.mem_map_of_mem among)
        rw [if_neg other]
        exact induction distinct among

omit [BEq Key] [LawfulBEq Key] in
/-- If no two pairs share a key, each of them is the only one with its own. -/
theorem filter_key_of_mem
    {pairs : List (Key × Value)}
    {key : Key}
    {value : Value}
    (distinct : (pairs.map Prod.fst).Nodup)
    (among : (key, value) ∈ pairs) :
    (pairs.filter fun pair => pair.1 = key) = [(key, value)] := by
  induction pairs with
  | nil => cases among
  | cons first pairs induction =>
      obtain ⟨apart, distinct⟩ := List.nodup_cons.mp distinct
      rcases List.mem_cons.mp among with rfl | among
      · have others : ∀ pair ∈ pairs, pair.1 ≠ key := by
          intro pair member same
          exact apart (List.mem_map.mpr ⟨pair, member, same⟩)
        rw [List.filter_cons_of_pos (by simp),
          List.filter_eq_nil_iff.mpr (by simpa using others)]
      · have other : first.1 ≠ key :=
          fun same => apart (same ▸ List.mem_map_of_mem among)
        rw [List.filter_cons_of_neg (by simpa using other)]
        exact induction distinct among

theorem lookup_filter_ne
    (pairs : List (Key × Value))
    (gone key : Key) :
    (pairs.filter fun pair => pair.1 ≠ gone).lookup key =
      if key = gone then none else pairs.lookup key := by
  induction pairs with
  | nil => simp
  | cons pair pairs induction =>
      obtain ⟨first, value⟩ := pair
      by_cases here : first = gone
      · rw [List.filter_cons_of_neg (by simpa using here), induction,
          lookup_cons_eq, here]
        split <;> rfl
      · rw [List.filter_cons_of_pos (by simpa using here), lookup_cons_eq,
          lookup_cons_eq, induction]
        by_cases same : key = first
        · rw [if_pos same, if_pos same, if_neg (same ▸ here)]
        · rw [if_neg same, if_neg same]

end SettingsStore
