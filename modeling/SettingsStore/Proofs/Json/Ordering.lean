import SettingsStore.Proofs.Json.Premerging
import SettingsStore.Proofs.Json.RoundTrip

/-!
# The order of the keys in a merged document

A merged object shows the keys of the target first, in the order of the target
and without those that the patch takes away, and behind them the keys that the
patch sets and the target lacks, in the order of the patch.  The merge goes
through the patch member by member, and the keys that are expected in the end,
of the members that are left and of what was made of the target so far, stay the
same on the way.  Where a path leads through objects of the patch to an object,
this object is merged into the one that the target has there, or into the empty
one, so that the same is true at every level.  What the patch does not reach is
kept with its order.
-/

namespace SettingsStore

/-- Whether a value is null. -/
def Json.isNull : Json → Bool
  | .null => true
  | _ => false

namespace Members

/-- The keys that a patch takes away, in order. -/
def removedKeys (patch : Members) : List Text :=
  keys (patch.filter fun member => member.2.isNull)

/-- The keys that a patch sets, in order. -/
def setKeys (patch : Members) : List Text :=
  keys (patch.filter fun member => !member.2.isNull)

/--
The keys of a target in its order without those that a patch takes away, and
behind them the keys that the patch sets and the target lacks, in the order of
the patch.
-/
def mergedKeys (target patch : Members) : List Text :=
  target.keys.removeAll patch.removedKeys ++ patch.setKeys.removeAll target.keys

/-! ## What one change does to the keys -/

theorem keys_cons
    (key : Text)
    (value : Json)
    (members : Members) :
    keys ((key, value) :: members) = key :: members.keys :=
  rfl

theorem keys_erase
    (members : Members)
    (key : Text) :
    (members.erase key).keys = members.keys.filter fun other =>
      !other == key := by
  rw [keys, keys, List.filter_map]
  refine congrArg (List.map Prod.fst) (List.filter_congr fun member _ => ?_)
  rw [Function.comp_apply, decide_not, beq_eq_decide]

/-- A key that is set again keeps its place. -/
theorem keys_put_of_mem
    {members : Members}
    {key : Text}
    (held : key ∈ members.keys)
    (value : Json) :
    (members.put key value).keys = members.keys := by
  induction members with
  | nil => cases held
  | cons member members induction =>
      obtain ⟨first, old⟩ := member
      rw [put]
      by_cases here : first = key
      · rw [if_pos here, keys_cons, keys_cons]
      · have later : key ∈ keys members :=
          List.mem_of_ne_of_mem (Ne.symm here) held
        rw [if_neg here, keys_cons, keys_cons, induction later]

/-- A key that is new comes last. -/
theorem keys_put_of_not_mem
    {members : Members}
    {key : Text}
    (absent : key ∉ members.keys)
    (value : Json) :
    (members.put key value).keys = members.keys ++ [key] := by
  have apart : ∀ member ∈ members, member.1 ≠ key := by
    rintro member among rfl
    exact absent (List.mem_map_of_mem among)
  rw [put_of_absent apart, keys, List.map_append]
  rfl

theorem nodup_keys_iff
    {members : Members} :
    members.keys.Nodup ↔ members.Distinct :=
  List.pairwise_map

/-! ## What is expected while the patch is gone through -/

theorem removedKeys_cons
    (key : Text)
    (value : Json)
    (patch : Members) :
    removedKeys ((key, value) :: patch) =
      if value.isNull then key :: patch.removedKeys else patch.removedKeys := by
  rw [removedKeys, List.filter_cons]
  split <;> rfl

theorem setKeys_cons
    (key : Text)
    (value : Json)
    (patch : Members) :
    setKeys ((key, value) :: patch) =
      if value.isNull then patch.setKeys else key :: patch.setKeys := by
  rw [setKeys, List.filter_cons]
  cases value.isNull <;> rfl

section

variable {patch : Members} {key : Text}

theorem not_mem_removedKeys
    (once : key ∉ patch.keys) :
    key ∉ patch.removedKeys :=
  fun among => once ((List.filter_sublist.map Prod.fst).subset among)

theorem ne_of_mem_setKeys
    (once : key ∉ patch.keys) :
    ∀ other ∈ patch.setKeys, other ≠ key := by
  rintro other among rfl
  exact once ((List.filter_sublist.map Prod.fst).subset among)

/-- What the patch sets anew does not depend on a key that it does not have. -/
theorem setKeys_removeAll_congr
    {first second : List Text}
    (once : key ∉ patch.keys)
    (same : ∀ other, other ≠ key → (other ∈ first ↔ other ∈ second)) :
    patch.setKeys.removeAll first = patch.setKeys.removeAll second := by
  refine List.filter_congr fun other among =>
    congrArg not (Bool.eq_iff_iff.mpr ?_)
  rw [List.elem_iff, List.elem_iff]
  exact same other (ne_of_mem_setKeys once other among)

/--
Taking a key away at once, or leaving that to a patch, comes to the same keys.
-/
theorem mergedKeys_erase
    (once : key ∉ patch.keys)
    (target : Members) :
    (target.erase key).mergedKeys patch =
      target.mergedKeys ((key, .null) :: patch) := by
  -- the target lacks the key from now on, but nothing that is left of the patch
  -- sets it
  have new :
      patch.setKeys.removeAll (target.keys.filter fun other => !other == key) =
      patch.setKeys.removeAll target.keys :=
    setKeys_removeAll_congr once fun other apart => by simp [apart]
  rw [mergedKeys, keys_erase, ← List.removeAll_cons, new]
  rfl

/--
Setting a key at once, or leaving that to a patch, comes to the same keys.
-/
theorem mergedKeys_put
    {value : Json}
    (once : key ∉ patch.keys)
    (set : value.isNull = false)
    (target : Members)
    (made : Json) :
    (target.put key made).mergedKeys patch =
      target.mergedKeys ((key, value) :: patch) := by
  have kept : ¬value.isNull = true := Bool.eq_false_iff.mp set
  rw [mergedKeys, mergedKeys, removedKeys_cons, setKeys_cons, if_neg kept,
    if_neg kept, List.cons_removeAll]
  by_cases held : key ∈ target.keys
  · rw [keys_put_of_mem held, if_neg (by simpa using held)]
  -- a key that is new stands between the keys of the target and those that are
  -- left to be set
  · have left :
        (target.keys ++ [key]).removeAll patch.removedKeys =
          target.keys.removeAll patch.removedKeys ++ [key] :=
      calc
        (target.keys ++ [key]).removeAll patch.removedKeys =
            target.keys.removeAll patch.removedKeys ++
              [key].removeAll patch.removedKeys := List.filter_append ..
        _ = target.keys.removeAll patch.removedKeys ++ [key] := by
          rw [List.cons_removeAll,
            if_pos (by simpa using not_mem_removedKeys once),
            List.nil_removeAll]
    have new :
        patch.setKeys.removeAll (target.keys ++ [key]) =
          patch.setKeys.removeAll target.keys :=
      setKeys_removeAll_congr once fun other apart => by simp [apart]
    rw [keys_put_of_not_mem held, left, new, if_pos (by simpa using held),
      List.append_assoc, List.singleton_append]

/-- A patch that has no members leaves the keys of the target. -/
theorem mergedKeys_nil
    (target : Members) :
    target.mergedKeys [] = target.keys :=
  (List.append_nil _).trans List.removeAll_nil

end

end Members

namespace Json

/--
When the first member of a patch has been merged, the keys that are expected in
the end are the same as before.
-/
theorem mergedKeys_update
    {patch : Members}
    {key : Text}
    (once : key ∉ patch.keys)
    (target : Members)
    (value : Json) :
    (target.update key (value.overlay (target.find? key))).mergedKeys patch =
      target.mergedKeys ((key, value) :: patch) := by
  cases value with
  | null => exact Members.mergedKeys_erase once target
  | bool | integer | double | string | array | object =>
      exact Members.mergedKeys_put once rfl target _

/--
A merged object shows the keys of the target that are left, and behind them the
new ones of the patch.
-/
theorem keys_overlayMembers
    {patch : Members}
    (distinct : patch.Distinct)
    (target : Members) :
    Members.keys (overlayMembers patch target) = target.mergedKeys patch := by
  -- the target of the induction is what the members so far made of the first
  -- one
  induction patch generalizing target with
  | nil => exact target.mergedKeys_nil.symm
  | cons member patch induction =>
      obtain ⟨key, value⟩ := member
      have once : key ∉ Members.keys patch :=
        (List.nodup_cons.mp (Members.nodup_keys_iff.mpr distinct)).1
      rw [overlayMembers, induction distinct.of_cons, mergedKeys_update once]

/-! ## Objects along a path -/

/--
The members of the object that is found along a path; where there is none, no
members.
-/
def membersAlong (path : List Text) (value : Json) : Members :=
  ((along? path value).bind members?).getD []

/--
Along a path, what a member holds has the members that its own members lead to.
-/
theorem membersAlong_held
    (held : Option Json)
    (path : List Text) :
    membersAlong path (.object ((held.bind members?).getD [])) =
      ((held.bind (along? path)).bind members?).getD [] := by
  cases path with
  | nil => cases held <;> rfl
  | cons key path =>
      rw [membersAlong, along?_held held (List.cons_ne_nil key path)]

/-- Only an object leads to an object. -/
theorem eq_object_of_along?
    {path : List Text}
    {value : Json}
    {inner : Members}
    (leads : along? path value = some (.object inner)) :
    ∃ members, value = .object members := by
  cases path with
  | nil => exact ⟨inner, Option.some.inj leads⟩
  | cons key path =>
      cases value with
      | object members => exact ⟨members, rfl⟩
      | null | bool | integer | double | string | array => cases leads

/--
What is found along a path holds no key twice in any object if the document does
not.
-/
theorem distinctKeys_of_along?
    {path : List Text}
    {value found : Json}
    (distinct : value.DistinctKeys)
    (leads : along? path value = some found) :
    found.DistinctKeys := by
  induction path generalizing value with
  | nil =>
      cases leads
      exact distinct
  | cons key path induction =>
      cases value with
      | object members =>
          rw [along?_cons_object, Option.bind_eq_some_iff] at leads
          obtain ⟨next, held, leads⟩ := leads
          exact induction (distinctKeys_of_find? distinct held) leads
      | null | bool | integer | double | string | array => cases leads

/--
Where a path leads through the patch to an object, that object is merged into
the one that the target has there.
-/
theorem along?_overlayMembers
    {patch inner : Members}
    (distinct : (Json.object patch).DistinctKeys)
    {path : List Text}
    (leads : along? path (.object patch) = some (.object inner))
    (target : Members) :
    along? path (.object (overlayMembers patch target)) =
      some
        (.object
          (overlayMembers inner (membersAlong path (.object target)))) := by
  -- the target of the induction is what the member on the way holds
  induction path generalizing patch target with
  | nil =>
      cases leads
      rfl
  | cons key path induction =>
      rw [along?_cons_object, Option.bind_eq_some_iff] at leads
      obtain ⟨value, found, leads⟩ := leads
      obtain ⟨next, rfl⟩ := eq_object_of_along? leads
      have merged :=
        induction (distinctKeys_of_find? distinct found) leads
          (((target.find? key).bind members?).getD [])
      rw [along?_cons_object, find?_overlayMembers distinct.1, found]
      dsimp only
      rw [overlay, Option.bind_some, merged, membersAlong_held]
      rfl

/--
An object in a merged document is one that the patch leads to, or one of the
target to which it does not lead.
-/
theorem reached_or_untouched
    {patch target members : Members}
    (distinct : (Json.object patch).DistinctKeys)
    {path : List Text}
    (found :
      along? path (.object (overlayMembers patch target)) =
        some (.object members)) :
    (∃ inner, along? path (.object patch) = some (.object inner)) ∨
      encounter path patch = .missing := by
  induction path generalizing patch target with
  | nil => exact Or.inl ⟨patch, rfl⟩
  | cons key path induction =>
      rw [along?_cons_object, find?_overlayMembers distinct.1] at found
      rw [along?_cons_object, encounter]
      cases held : patch.find? key with
      | none => exact Or.inr rfl
      | some value =>
          rw [held] at found
          cases value with
          | null => cases found
          | object next =>
              exact induction (distinctKeys_of_find? distinct held) found
          | bool | integer | double | string | array =>
              obtain ⟨_, same⟩ := eq_object_of_along? found
              cases same

/-! ## The whole document -/

/--
A merged document shows its keys in the order that target and patch prescribe.
-/
structure InOrder (target : Json) (patch merged : Members) : Prop where
  /--
  Where the patch leads to an object, so does the merged document, and its keys
  are those of the two.
  -/
  reached : ∀ path inner, along? path (.object patch) = some (.object inner) →
    ∃ members : Members, along? path (.object merged) = some (.object members) ∧
      members.keys.Nodup ∧ members.keys =
        (membersAlong path target).mergedKeys inner
  /--
  Where the patch does not lead, the value of the target stands as it is,
  objects in it included.
  -/
  untouched : ∀ path, encounter path patch = .missing →
    along? path (.object merged) = along? path target
  /--
  Every object that the merged document has along a path is the one or the
  other.
  -/
  nowhereElse :
    ∀ path members, along? path (.object merged) = some (.object members) →
    (∃ inner, along? path (.object patch) = some (.object inner)) ∨
      encounter path patch = .missing

/--
Documents of up to three hundred levels can be merged.  In a merged document, at
the top and at every object that is reached through objects of the patch, no key
occurs twice, and the keys are those of the target, which are none if it has no
object there, in its order and without those that the patch sets to null, and
behind them those that the patch sets to anything else and the target lacks, in
the order of the patch.  What the patch does not reach is kept as it is, and
there are no other objects along the paths of the merged document.
-/
theorem mergePatch_inOrder
    {target : Json}
    {patch : Members}
    (targetDistinct : target.DistinctKeys)
    (patchDistinct : (Json.object patch).DistinctKeys) :
    (target.depth ≤ safeLevels → (Json.object patch).depth ≤ safeLevels →
        ∃ merged, mergePatch? target patch = some merged) ∧
      ∀ merged, mergePatch? target patch = some merged →
        InOrder target patch merged := by
  constructor
  · intro targetWithin patchWithin
    exact ⟨_, if_pos (mergeCost_le_copyFrames targetWithin patchWithin)⟩
  · intro merged merges
    obtain ⟨-, rfl⟩ := mergePatch?_eq_some_iff.mp merges
    have mergedDistinct := distinctKeys_mergePatch targetDistinct patchDistinct
    constructor
    · intro path inner leads
      have found :=
        along?_overlayMembers patchDistinct leads (target.members?.getD [])
      refine ⟨_, found, ?_, ?_⟩
      · exact Members.nodup_keys_iff.mpr
          (distinctKeys_of_along? mergedDistinct found).1
      · rw [keys_overlayMembers (distinctKeys_of_along? patchDistinct leads).1]
        exact congrArg (Members.mergedKeys · inner)
          (membersAlong_held (some target) path)
    · intro path missing
      have proper : path ≠ [] := by
        rintro rfl
        cases missing
      have left :=
        encounter_overlayMembers patchDistinct (target.members?.getD []) proper
      rw [missing, along?_members target proper] at left
      exact left
    · intro path members found
      exact reached_or_untouched patchDistinct found

/--
A key that is set keeps its place, at the top and in `view`; `size` comes last;
`theme`, where the target has no object, shows the keys of the patch that are
not null; and `kept` stands as it was.
-/
theorem mergePatch_inOrder_view :
    let kept : Members := [("b", .null), ("a", .integer 0)]
    let target : Json := .object [("theme", .integer 1), ("old", .integer 2),
      ("view", .object [("wide", .null), ("zoom", .integer 3),
      ("tab", .integer 4)]), ("kept", .object kept)]
    let patch : Members := [("size", .integer 5), ("old", .null),
      ("view", .object [("bar", .integer 6), ("tab", .integer 7),
      ("zoom", .null)]),
      ("theme", .object [("plain", .null), ("dark", .bool true)])]
    ∃ merged : Members,
      mergePatch? target patch = some merged ∧
        merged.keys = (["theme", "view", "kept", "size"] : List Text) ∧
        (∃ view : Members, along? ["view"] (.object merged) =
            some (.object view) ∧
          view.keys = (["wide", "tab", "bar"] : List Text)) ∧
        (∃ theme : Members, along? ["theme"] (.object merged) =
            some (.object theme) ∧
          theme.keys = (["dark"] : List Text)) ∧
          along? ["kept"] (.object merged) = some (.object kept) := by
  intro kept target patch
  have targetDistinct : target.DistinctKeys :=
    ⟨by decide, trivial, trivial,
      ⟨by decide, trivial, trivial, trivial, trivial⟩,
      ⟨by decide, trivial, trivial, trivial⟩, trivial⟩
  have patchDistinct : (Json.object patch).DistinctKeys :=
    ⟨by decide, trivial, trivial,
      ⟨by decide, trivial, trivial, trivial, trivial⟩,
      ⟨by decide, trivial, trivial, trivial⟩, trivial⟩
  obtain ⟨merges, inOrder⟩ := mergePatch_inOrder targetDistinct patchDistinct
  obtain ⟨merged, merges⟩ := merges (by decide) (by decide)
  obtain ⟨reached, untouched, -⟩ := inOrder merged merges
  obtain ⟨whole, foundWhole, -, keys⟩ := reached [] patch rfl
  cases foundWhole
  obtain ⟨view, foundView, -, viewKeys⟩ := reached ["view"] _ rfl
  obtain ⟨theme, foundTheme, -, themeKeys⟩ := reached ["theme"] _ rfl
  exact ⟨merged, merges, keys, ⟨view, foundView, viewKeys⟩,
    ⟨theme, foundTheme, themeKeys⟩, untouched ["kept"] rfl⟩

end Json

end SettingsStore
