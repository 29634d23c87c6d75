import SettingsStore.Error
import SettingsStore.Json.Basic

/-!
# The session

The state that a program keeps between its runs: the list of its notebook
records.  A record codec turns the value of a document into a record and back;
the usual one keeps the value as it is.
-/

namespace SettingsStore

/-- Why a record was not turned into a value or back. -/
inductive RecordError where
  /-- The record is of a type that has no value. -/
  | unsupported (text : Text)
  /-- The record or the value is out of range. -/
  | invalid (text : Text)
  /-- The codec reports an error of the store. -/
  | failed (error : StoreError)
  /-- The value is nested too deeply to be copied. -/
  | tooDeep
  deriving DecidableEq

/-- How records are read from documents and written to them. -/
structure RecordCodec where
  name : String
  decode : Json → Except RecordError Json
  encode : Json → Except RecordError Json

namespace RecordCodec

/-- A copy of a value, unless it is nested too deeply. -/
def copy (value : Json) : Except RecordError Json :=
  if value.Copyable then .ok value else .error .tooDeep

/-- Keeps records as they stand in the document. -/
def verbatim : RecordCodec where
  name := "JsonRecordCodec"
  decode := copy
  encode := copy

end RecordCodec

/-- The records that are kept between runs. -/
structure Session where
  notebooks : List Json := []

namespace Session

/--
The session in a document: the records in its `notebooks`, if that is a list.
-/
def ofJson
    (codec : RecordCodec)
    (document : Json) :
    Except RecordError Session :=
  match (document.field? "notebooks").bind Json.items? with
  | none => .ok {}
  | some items => do
    let notebooks ← items.mapM codec.decode
    return ⟨notebooks⟩

/-- The document of a session. -/
def toJson
    (codec : RecordCodec)
    (session : Session) :
    Except RecordError Json := do
  let items ← session.notebooks.mapM codec.encode
  return .object [("notebooks", .array items)]

/-- A copy of a session, unless a record is nested too deeply. -/
def copy (session : Session) : Except RecordError Session := do
  let notebooks ← session.notebooks.mapM RecordCodec.copy
  return ⟨notebooks⟩

end Session

end SettingsStore
