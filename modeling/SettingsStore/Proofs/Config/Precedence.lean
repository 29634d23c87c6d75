import SettingsStore.Config
import SettingsStore.Proofs.Json.Merging
import SettingsStore.Proofs.Json.Nesting

/-!
# Which layer decides a setting

The settings of the user are merged over the packaged defaults, and the
configuration is read from the result.  For each setting this comes to what the
two layers say about it: the user decides by giving a value; a user who puts
something unusable there gets the value that is built in, and not the packaged
one; and only where the user is silent do the packaged defaults have their say.
Nothing else in the documents matters.
-/

namespace SettingsStore

/-- What a layer says about a setting. -/
inductive Stance (Value : Type) where
  | silent
  /-- What stands there is no value of the setting. -/
  | unusable
  | chosen (value : Value)

namespace Stance

variable {Value : Type}

/-- The stance of a layer that holds a member for a setting or not. -/
def ofMember (read : Json → Option Value) : Option Json → Stance Value
  | none => .silent
  | some value =>
    match read value with
    | none => .unusable
    | some value => .chosen value

/--
The value of a setting on which the packaged defaults and the user have their
stances.
-/
def settle (builtIn : Value) (defaults user : Stance Value) : Value :=
  match user, defaults with
  | .chosen value, _ => value
  | .silent, .chosen value => value
  | _, _ => builtIn

/-- Packaged defaults without a usable value might as well be silent. -/
theorem settle_unusable
    (builtIn : Value)
    (user : Stance Value) :
    settle builtIn .unusable user = settle builtIn .silent user := by
  cases user <;> rfl

/--
Where null and objects are no values of a setting, the merged member is read as
the stances settle it.
-/
theorem settle_of_overlay
    {read : Json → Option Value}
    (builtIn : Value)
    (noNull : read .null = none)
    (noObject : ∀ members, read (.object members) = none)
    (defaults user : Option Json) :
    ((match user with
      | none => defaults
      | some value => value.overlay defaults).bind read).getD builtIn =
      settle builtIn (ofMember read defaults) (ofMember read user) := by
  -- a patch that is neither null nor an object stands as it is, and then its
  -- reading decides
  have standing : ∀ value : Json, ((some value).bind read).getD builtIn =
      settle builtIn (ofMember read defaults) (ofMember read (some value)) := by
    intro value
    rw [ofMember, Option.bind_some]
    cases read value <;> rfl
  cases user with
  | none =>
      cases defaults with
      | none => rfl
      | some value =>
          rw [ofMember, ofMember, Option.bind_some]
          cases read value <;> rfl
  | some value =>
      cases value with
      | null =>
          rw [ofMember, noNull]
          dsimp only
          rw [Json.overlay]
          rfl
      | object members =>
          rw [ofMember, noObject]
          dsimp only
          rw [Json.overlay, Option.bind_some, noObject]
          rfl
      | bool | integer | double | string | array => exact standing _

end Stance

/--
The member for the backends, under the one for the search if that is there and
an object.
-/
def Members.searched (members : Members) : Option (Option (Option Json)) :=
  (members.find? "search").map fun search =>
    search.members?.map fun settings => settings.find? "backends"

/-- The backends in a value: the strings in a list. -/
def Json.backends? (value : Json) : Option (List Text) :=
  value.items?.map fun items => items.filterMap Json.string?

/-- What a layer says about the version. -/
def Members.versionStance (members : Members) : Stance Text :=
  .ofMember Json.string? (members.find? "version")

/-- What a layer says about the backends. -/
def Members.backendsStance (members : Members) : Stance (List Text) :=
  match members.searched with
  | none => .silent
  | some none => .unusable
  | some (some backends) => .ofMember Json.backends? backends

/--
Two layers hold the same members for the settings, whatever else they hold.
-/
structure SameSettings (first second : Members) : Prop where
  version : second.find? "version" = first.find? "version"
  searched : second.searched = first.searched

/-- Layers that hold the same members for the settings have the same stances. -/
theorem SameSettings.stances
    {first second : Members}
    (same : SameSettings first second) :
    second.versionStance = first.versionStance ∧
      second.backendsStance = first.backendsStance := by
  constructor
  · rw [Members.versionStance, Members.versionStance, same.version]
  · rw [Members.backendsStance, Members.backendsStance, same.searched]

theorem SearchConfig.backends_ofMembers (members : Members) :
    (SearchConfig.ofMembers members).backends =
      ((members.find? "backends").bind Json.backends?).getD ["rg",
        "simple"] := by
  rw [ofMembers]
  cases members.find? "backends" with
  | none => rfl
  | some value => cases value <;> rfl

namespace Config

/-- The backends are those of the search settings, if there are any. -/
theorem backends_ofJson (members : Members) :
    (ofJson (.object members)).search.backends =
      ((((members.find? "search").bind Json.members?).bind
        fun settings => settings.find? "backends").bind Json.backends?).getD
          ["rg", "simple"] := by
  have search : (ofJson (.object members)).search =
      ((((members.find? "search").bind Json.members?).map
          SearchConfig.ofMembers).getD {}) :=
    rfl
  rw [search]
  cases (members.find? "search").bind Json.members? with
  | none => rfl
  | some settings => exact SearchConfig.backends_ofMembers settings

theorem version_ofJson (members : Members) :
    (ofJson (.object members)).version =
      ((members.find? "version").bind Json.string?).getD "0.1.0" :=
  rfl

/-! ## Each setting of a merged document -/

variable {user : Members}

theorem version_merged
    (distinct : user.Distinct)
    (defaults : Members) :
    (ofJson (.object (Json.overlayMembers user defaults))).version =
      Stance.settle ("0.1.0" : Text) defaults.versionStance
        user.versionStance := by
  rw [version_ofJson, Json.find?_overlayMembers distinct]
  exact Stance.settle_of_overlay _ rfl (fun _ => rfl) _ _

/--
Where the user holds search settings, these are laid over those of the packaged
defaults.
-/
theorem backends_merged_of_settings
    {settings : Members}
    (distinct : settings.Distinct)
    (defaults : Members) :
    ((Members.find? (Json.overlayMembers settings
        (((defaults.find? "search").bind Json.members?).getD []))
          "backends").bind
          Json.backends?).getD ["rg", "simple"] =
      Stance.settle (["rg", "simple"] : List Text) defaults.backendsStance
        (.ofMember Json.backends? (settings.find? "backends")) := by
  rw [Json.find?_overlayMembers distinct]
  refine (Stance.settle_of_overlay _ rfl (fun _ => rfl) _ _).trans ?_
  rw [Members.backendsStance, Members.searched]
  cases defaults.find? "search" with
  | none => rfl
  | some search =>
      cases search with
      | object members => rfl
      | null | bool | integer | double | string | array =>
          exact (Stance.settle_unusable _ _).symm

theorem backends_merged
    (distinct : (Json.object user).DistinctKeys)
    (defaults : Members) :
    (ofJson (.object (Json.overlayMembers user defaults))).search.backends =
      Stance.settle (["rg", "simple"] : List Text) defaults.backendsStance
        user.backendsStance := by
  obtain ⟨top, inside⟩ := distinct
  rw [backends_ofJson, Json.find?_overlayMembers top]
  cases found : user.find? "search" with
  | none =>
      rw [Members.backendsStance, Members.backendsStance, Members.searched,
        Members.searched, found]
      cases defaults.find? "search" with
      | none => rfl
      | some search =>
          cases search with
          | object settings =>
              exact Stance.settle_of_overlay _ rfl (fun _ => rfl)
                (Members.find? settings "backends") none
          | null | bool | integer | double | string | array => rfl
  | some search =>
      cases search with
      | object settings =>
          have settingsDistinct : Members.Distinct settings :=
            (Json.distinctKeysInMembers_iff.mp inside _
                (Members.mem_of_find? found)).1
          have stance : user.backendsStance =
              .ofMember Json.backends? (Members.find? settings "backends") := by
            rw [Members.backendsStance, Members.searched, found]
            rfl
          rw [stance]
          exact backends_merged_of_settings settingsDistinct defaults
      | null | bool | integer | double | string | array =>
          have stance : user.backendsStance = .unusable := by
            rw [Members.backendsStance, Members.searched, found]
            rfl
          rw [stance]
          rfl

theorem ofJson_merged
    (distinct : (Json.object user).DistinctKeys)
    (defaults : Members) :
    ofJson (.object (Json.overlayMembers user defaults)) =
      ⟨Stance.settle ("0.1.0" : Text) defaults.versionStance user.versionStance,
        ⟨Stance.settle (["rg", "simple"] : List Text) defaults.backendsStance
          user.backendsStance⟩⟩ := by
  rw [← version_merged distinct.1 defaults, ← backends_merged distinct defaults]

/--
Documents that are not nested too deeply can be merged, and each setting of the
result is settled by what the two layers say about it.  Documents that hold the
same members for the settings come to the same configuration.
-/
theorem ofJson_mergePatch
    (defaults user : Members)
    (distinct : (Json.object user).DistinctKeys)
    (within : Json.mergeCost (.object defaults) user ≤ Json.copyFrames) :
    ∃ merged,
      Json.mergePatch? (.object defaults) user = some merged ∧
        ofJson (.object merged) =
          ⟨Stance.settle ("0.1.0" : Text) defaults.versionStance
              user.versionStance,
            ⟨Stance.settle (["rg", "simple"] : List Text)
                defaults.backendsStance
                user.backendsStance⟩⟩ ∧
          ∀ otherDefaults otherUser otherMerged : Members,
            (Json.object otherUser).DistinctKeys →
              SameSettings defaults otherDefaults →
                SameSettings user otherUser →
                Json.mergePatch? (.object otherDefaults) otherUser =
                  some otherMerged →
                  ofJson (.object otherMerged) = ofJson (.object merged) := by
  refine ⟨Json.overlayMembers user defaults, if_pos within,
    ofJson_merged distinct defaults, ?_⟩
  intro otherDefaults otherUser otherMerged otherDistinct sameDefaults
    sameUser merges
  obtain ⟨defaultVersion, defaultBackends⟩ := sameDefaults.stances
  obtain ⟨userVersion, userBackends⟩ := sameUser.stances
  rw [Json.mergePatch?] at merges
  split at merges
  · cases merges
    calc
      ofJson (.object (Json.overlayMembers otherUser otherDefaults)) = _ :=
        ofJson_merged otherDistinct otherDefaults
      _ = _ := by
        rw [defaultVersion, defaultBackends, userVersion, userBackends]
      _ = ofJson (.object (Json.overlayMembers user defaults)) :=
        (ofJson_merged distinct defaults).symm
  · cases merges

/--
A null hides the packaged version, and of the backends only the strings count.
-/
theorem ofJson_mergePatch_nullVersion :
    ∃ merged,
      Json.mergePatch? (.object [("version", .string "9.0")])
          [("version", .null),
            ("search",
            .object [("backends", .array [.string "fd", .integer 3])])] =
              some merged ∧
        ofJson (.object merged) = ⟨"0.1.0", ⟨["fd"]⟩⟩ := by
  obtain ⟨merged, merges, config, -⟩ := ofJson_mergePatch
    [("version", .string "9.0")]
    [("version", .null),
      ("search", .object [("backends", .array [.string "fd", .integer 3])])]
    ⟨by decide, trivial,
      ⟨by decide, ⟨trivial, trivial, trivial⟩, trivial⟩, trivial⟩
    (by decide)
  exact ⟨merged, merges, config⟩

end Config

end SettingsStore
