import SettingsStore.Proofs.Config.Precedence
import SettingsStore.Proofs.Json.Premerging
import SettingsStore.Proofs.Json.Remerging

/-!
# The schema of the configuration

A configuration is written down as an object with a version, which is a string,
and with the settings of the search, whose only member is a list of strings.
Reading such a document and writing it again gives the same document, but for
the order of members; any other document loses or changes something, be it a
member outside the schema, a value of the wrong type or a default that was not
written out.  So reading and writing again is a projection onto the documents of
the schema.
-/

namespace SettingsStore

/-- An object has these keys and no others. -/
def Members.HasKeys (members : Members) (keys : List Text) : Prop :=
  ∀ key, (members.find? key).isSome ↔ key ∈ keys

/--
The search settings of the schema: an object with nothing but a list of strings
for the backends.
-/
structure SearchConfig.Fits (members : Members) : Prop where
  keys : members.HasKeys ["backends"]
  backends : ∃ items, members.find? "backends" = some (.array items) ∧
    ∀ item ∈ items, ∃ text, item = .string text

/--
The members of a configuration of the schema: a string for the version and an
object for the search.
-/
structure Config.Fits (members : Members) : Prop where
  keys : members.HasKeys ["version", "search"]
  version : ∃ text, members.find? "version" = some (.string text)
  search : ∃ settings, members.find? "search" = some (.object settings) ∧
    SearchConfig.Fits settings

/-- A document is one of the schema. -/
def Config.Schema (document : Json) : Prop :=
  ∃ members, document = .object members ∧ Fits members

theorem Members.hasKeys_keys
    (members : Members) :
    members.HasKeys members.keys := by
  intro key
  induction members with
  | nil => exact ⟨nofun, nofun⟩
  | cons member members induction =>
      rw [find?, lookup_cons_eq, keys, List.map_cons, List.mem_cons]
      by_cases here : key = member.1
      · rw [if_pos here]
        exact ⟨fun _ => .inl here, fun _ => rfl⟩
      · rw [if_neg here, or_iff_right here]
        exact induction

namespace Json

/-! ### What is alike to what -/

theorem alike_string_iff
    {text : Text}
    {value : Json} :
    Alike (.string text) value ↔ value = .string text := by
  constructor
  · intro alike
    cases alike
    rfl
  · rintro rfl
    exact .string text

/-- Strings are alike to nothing else, and so are lists of strings. -/
theorem alike_strings_iff
    {texts : List Text}
    {value : Json} :
    Alike (.array (texts.map string)) value ↔
      value = .array (texts.map string) := by
  refine ⟨fun alike => ?_, fun same => same ▸ Alike.refl _⟩
  cases alike with
  | @array _ items each =>
      refine congrArg array (List.ext_getElem? fun index => ?_)
      have here := each index
      rw [List.getElem?_map] at here ⊢
      generalize items[index]? = item at here ⊢
      generalize texts[index]? = text at here ⊢
      cases text with
      | none =>
          cases here
          rfl
      | some text =>
          cases here with
          | some alike => exact congrArg some (alike_string_iff.mp alike)

/--
What is alike to an object has its keys, and under each of them a value that is
alike.
-/
theorem alike_object_iff
    {members : Members}
    (distinct : members.Distinct)
    {value : Json} :
    Alike (.object members) value ↔
      ∃ others : Members,
        value = .object others ∧ others.HasKeys members.keys ∧
          ∀ member ∈ members, ∃ other, others.find? member.1 = some other ∧
            Alike member.2 other := by
  constructor
  · intro alike
    cases alike with
    | @object _ others each =>
        refine ⟨others, rfl, fun key => ?_, fun member among => ?_⟩
        · rw [← members.hasKeys_keys key]
          have here := each key
          generalize members.find? key = held at here ⊢
          generalize others.find? key = other at here ⊢
          cases here <;> exact Iff.rfl
        · have here := each member.1
          rw [find?_of_mem distinct among] at here
          generalize others.find? member.1 = other at here ⊢
          cases here with
          | some alike => exact ⟨_, rfl, alike⟩
  · rintro ⟨others, rfl, keys, each⟩
    refine .object fun key => ?_
    have known := (members.hasKeys_keys key).trans (keys key).symm
    cases held : members.find? key with
    | none =>
        rw [held] at known
        rw [Option.not_isSome_iff_eq_none.mp (mt known.mpr nofun)]
        exact .none
    | some value =>
        obtain ⟨other, found, alike⟩ := each _ (Members.mem_of_find? held)
        rw [found]
        exact .some alike

/-- The strings among items are all of them, if the items are strings. -/
theorem strings_of_all
    {items : List Json}
    (all : ∀ item ∈ items, ∃ text, item = .string text) :
    (items.filterMap string?).map string = items := by
  induction items with
  | nil => rfl
  | cons item items induction =>
      obtain ⟨⟨text, rfl⟩, others⟩ := List.forall_mem_cons.mp all
      exact congrArg (string text :: ·) (induction others)

theorem filterMap_strings
    (texts : List Text) :
    (texts.map string).filterMap string? = texts := by
  rw [List.filterMap_map]
  exact List.filterMap_some

end Json

open Json

namespace Config

/-- What is read of the document of a configuration is the configuration. -/
theorem ofJson_toJson (config : Config) : ofJson config.toJson = config := by
  obtain ⟨version, ⟨backends⟩⟩ := config
  have read :
      (SearchConfig.ofMembers
          [("backends", .array (backends.map string))]).backends = backends :=
    filterMap_strings backends
  exact congrArg (fun backends =>
      ({ version, search := ⟨backends⟩ } : Config)) read

end Config

theorem SearchConfig.alike_toJson_iff
    {search : SearchConfig}
    {document : Json} :
    Alike search.toJson document ↔
      ∃ settings : Members,
        document = .object settings ∧ settings.HasKeys ["backends"] ∧
          settings.find? "backends" =
            some (.array (search.backends.map string)) := by
  have distinct :
      Members.Distinct [("backends", .array (search.backends.map string))] :=
    List.pairwise_singleton _ _
  rw [toJson, alike_object_iff distinct]
  simp only [List.forall_mem_singleton, alike_strings_iff, exists_eq_right]
  rfl

namespace Config

/--
A document is that of a configuration, but for the order of members, if it has
the version and the backends alone.
-/
theorem alike_toJson_iff
    {config : Config}
    {document : Json} :
    Alike config.toJson document ↔
      ∃ members : Members,
        document = .object members ∧ members.HasKeys ["version", "search"] ∧
          members.find? "version" = some (.string config.version) ∧
            ∃ settings : Members,
              members.find? "search" = some (.object settings) ∧
                settings.HasKeys ["backends"] ∧
                settings.find? "backends" =
                  some (.array (config.search.backends.map string)) := by
  have apart : Text.ofString "version" ≠ Text.ofString "search" := by decide
  have distinct :
      Members.Distinct [("version", .string config.version),
        ("search", config.search.toJson)] :=
    List.pairwise_pair.mpr apart
  rw [toJson, alike_object_iff distinct]
  refine exists_congr fun members => and_congr_right fun _ =>
    and_congr_right fun _ => ?_
  rw [List.forall_mem_cons, List.forall_mem_singleton]
  simp only [alike_string_iff, exists_eq_right, SearchConfig.alike_toJson_iff]
  refine and_congr_right fun _ => ⟨?_, ?_⟩
  · rintro ⟨value, search, settings, rfl, rest⟩
    exact ⟨settings, search, rest⟩
  · rintro ⟨settings, search, rest⟩
    exact ⟨_, search, settings, rfl, rest⟩

/--
What is a configuration written down, but for the order of members, is a
document of the schema.
-/
theorem schema_of_alike
    {config : Config}
    {document : Json}
    (alike : Alike config.toJson document) :
    Schema document := by
  obtain ⟨members, same, keys, version, settings, search, settingsKeys,
    backends⟩ :=
    alike_toJson_iff.mp alike
  refine ⟨members, same, keys, ⟨_, version⟩, settings, search, settingsKeys, _,
    backends, fun item among => ?_⟩
  obtain ⟨text, -, equal⟩ := List.mem_map.mp among
  exact ⟨text, equal.symm⟩

/--
A document of the schema is that of the configuration that is read of it, but
for the order of members.
-/
theorem alike_of_schema
    {document : Json}
    (schema : Schema document) :
    Alike (ofJson document).toJson document := by
  obtain ⟨members, rfl, keys, ⟨text, version⟩, settings, search, settingsKeys,
    items, backends, strings⟩ := schema
  have versionRead : (ofJson (.object members)).version = text := by
    rw [version_ofJson, version]
    rfl
  have backendsRead :
      (ofJson (.object members)).search.backends = items.filterMap string? := by
    rw [backends_ofJson, search, Option.bind_some, members?,
      Option.bind_some, backends]
    rfl
  refine alike_toJson_iff.mpr ⟨members, rfl, keys, ?_, settings, search,
    settingsKeys, ?_⟩
  · rw [versionRead, version]
  · rw [backendsRead, strings_of_all strings, backends]

/--
A configuration is read back from its document.  A document that is read and
written again is the same, but for the order of members, exactly if it is one of
the schema; and what comes of any document is one of the schema.
-/
theorem ofJson_projects :
    (∀ config : Config, ofJson config.toJson = config) ∧
      ∀ document,
        (Alike (ofJson document).toJson document ↔ Schema document) ∧
          Schema (ofJson document).toJson := by
  refine ⟨ofJson_toJson, fun document =>
      ⟨⟨schema_of_alike, alike_of_schema⟩, ?_⟩⟩
  exact schema_of_alike (Alike.refl _)

end Config

end SettingsStore
