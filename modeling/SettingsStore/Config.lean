import SettingsStore.Json.Basic

/-!
# The configuration

The settings that a program reads: a version and the search backends in order of
preference.  Reading a document never fails: a setting that is missing or of the
wrong type takes its default, and members outside the schema are dropped.
-/

namespace SettingsStore

/-- The settings of the search. -/
structure SearchConfig where
  backends : List Text := ["rg", "simple"]
  deriving DecidableEq

namespace SearchConfig

/--
The settings in the members of an object: the strings among the backends, if
those are a list.
-/
def ofMembers (members : Members) : SearchConfig :=
  match (members.find? "backends").bind Json.items? with
  | some items => ⟨items.filterMap Json.string?⟩
  | none => {}

/-- The document of the settings. -/
def toJson (search : SearchConfig) : Json :=
  .object [("backends", .array (search.backends.map Json.string))]

end SearchConfig

/-- The effective configuration. -/
structure Config where
  version : Text := "0.1.0"
  search : SearchConfig := {}
  deriving DecidableEq

namespace Config

/-- The configuration in a document. -/
def ofJson (document : Json) : Config where
  version := ((document.field? "version").bind Json.string?).getD "0.1.0"
  search :=
    (((document.field? "search").bind Json.members?).map
        SearchConfig.ofMembers).getD {}

/-- The document of a configuration. -/
def toJson (config : Config) : Json :=
  .object [("version", .string config.version),
    ("search", config.search.toJson)]

end Config

end SettingsStore
