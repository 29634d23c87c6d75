import SettingsStore.Manager.Load
import SettingsStore.Proofs.Config.Precedence
import SettingsStore.Proofs.Json.RoundTrip

/-!
# Writing a configuration that was loaded

The strings of a configuration are built in, or they stand in the documents that
it was decoded from, whichever layer settled them.  Strings that can be read
back are therefore all that a loaded configuration holds, and so the document
that is written for it is read back as it is.
-/

namespace SettingsStore

namespace Stance

variable {Value : Type} {Said : Value → Prop}

/-- Something is said of the value of a layer, if it chose one. -/
def All (Said : Value → Prop) : Stance Value → Prop
  | .chosen value => Said value
  | _ => True

theorem all_ofMember
    {read : Json → Option Value}
    {member : Option Json}
    (each :
      ∀ value chosen, member = some value → read value = some chosen →
        Said chosen) :
    (ofMember read member).All Said := by
  cases member with
  | none => trivial
  | some value =>
      rw [ofMember]
      cases chosen : read value with
      | none => trivial
      | some chosen_ => exact each value chosen_ rfl chosen

/--
What holds of the value that is built in and of those that were chosen holds of
the one that is settled on.
-/
theorem settle_of_all
    {builtIn : Value}
    {defaults user : Stance Value}
    (inside : Said builtIn)
    (ofDefaults : defaults.All Said)
    (ofUser : user.All Said) :
    Said (settle builtIn defaults user) := by
  cases user with
  | chosen => exact ofUser
  | unusable => exact inside
  | silent =>
      cases defaults with
      | chosen => exact ofDefaults
      | unusable | silent => exact inside

end Stance

section

variable {members : Members}

theorem spelled_of_find?
    {key : Text}
    {value : Json}
    (spelled : (Json.object members).Spelled)
    (found : members.find? key = some value) :
    value.Spelled :=
  (Json.spelledInMembers_iff.mp spelled _ (Members.mem_of_find? found)).2

theorem Members.unpaired_versionStance
    (spelled : (Json.object members).Spelled) :
    members.versionStance.All Text.Unpaired := by
  refine Stance.all_ofMember fun value text found read => ?_
  cases value with
  | string =>
      cases read
      exact spelled_of_find? spelled found
  | _ => cases read

theorem Members.unpaired_backendsStance
    (spelled : (Json.object members).Spelled) :
    members.backendsStance.All fun backends => ∀ text ∈ backends,
      text.Unpaired := by
  rw [backendsStance, searched]
  cases search : members.find? "search" with
  | none => trivial
  | some value =>
      cases value with
      | object settings =>
          refine Stance.all_ofMember fun value backends found read => ?_
          cases value with
          | array items =>
              cases read
              have items :=
                Json.spelledInItems_iff.mp
                  (spelled_of_find? (spelled_of_find? spelled search) found)
              intro text among
              obtain ⟨item, there, same⟩ := List.mem_filterMap.mp among
              cases item with
              | string =>
                  cases same
                  exact items _ there
              | _ => cases same
          | _ => cases read
      | _ => trivial

end

/--
The strings of a configuration are those of the documents that it was decoded
from, or built in.
-/
theorem Layers.unpaired_of_decode
    {layers : Layers}
    {codec : RecordCodec}
    {config : Config}
    {session : Session}
    (defaults : (Json.object layers.defaults.members).Spelled)
    (user :
      (Json.object layers.user.members).DistinctKeys ∧
        (Json.object layers.user.members).Spelled)
    (decoded : layers.decode codec = .ok (config, session)) :
    config.version.Unpaired ∧
      ∀ text ∈ config.search.backends, text.Unpaired := by
  obtain ⟨distinct, user⟩ := user
  have builtIn : ∀ text ∈ (["rg", "simple"] : List Text), text.Unpaired :=
    List.forall_mem_cons.mpr
      ⟨Text.unpaired_ofString _,
      List.forall_mem_singleton.mpr (Text.unpaired_ofString _)⟩
  rw [Layers.decode] at decoded
  split at decoded
  · cases decoded
  · rename_i merged merges
    have settled : config = Config.ofJson (.object merged) := by
      split at decoded <;> cases decoded
      rfl
    obtain ⟨-, rfl⟩ := Json.mergePatch?_eq_some_iff.mp merges
    rw [settled, Json.mergePatch, Json.members?, Option.getD_some,
      Config.ofJson_merged distinct]
    constructor
    · exact Stance.settle_of_all (Text.unpaired_ofString _)
        (Members.unpaired_versionStance defaults)
        (Members.unpaired_versionStance user)
    · exact Stance.settle_of_all builtIn
        (Members.unpaired_backendsStance defaults)
        (Members.unpaired_backendsStance user)

/-- A configuration whose strings can be read back can be read back itself. -/
theorem Config.faithful_toJson
    {config : Config}
    (version : config.version.Unpaired)
    (backends : ∀ text ∈ config.search.backends, text.Unpaired) :
    Json.Faithful Json.levelLimit config.toJson := by
  have key := Text.unpaired_ofString
  have string :
      ∀ text : Text, text.Unpaired →
        ∀ levels, Json.Faithful levels (.string text) :=
    fun _ unpaired _ => ⟨Nat.zero_le _, trivial, rfl, unpaired⟩
  have items :
      Json.Faithful 998 (.array (config.search.backends.map .string)) := by
    refine Json.faithful_array_iff.mpr fun item among => ?_
    obtain ⟨text, there, rfl⟩ := List.mem_map.mp among
    exact string text (backends text there) 997
  have search : Json.Faithful 999 config.search.toJson :=
    Json.faithful_object_iff.mpr
      ⟨List.pairwise_singleton _ _,
      List.forall_mem_singleton.mpr ⟨key _, items⟩⟩
  have apart : Text.ofString "version" ≠ Text.ofString "search" := by decide
  have levels : Json.levelLimit = 999 + 1 := rfl
  rw [levels]
  refine Json.faithful_object_iff.mpr ⟨List.pairwise_pair.mpr apart, ?_⟩
  exact List.forall_mem_cons.mpr
    ⟨⟨key _, string _ version 999⟩,
    List.forall_mem_singleton.mpr ⟨key _, search⟩⟩

end SettingsStore
