import SettingsStore.Text.Basic

/-!
# Store errors

What can go wrong with the store is classified by a kind.  The text of an error
is the wording of its kind, followed by the detail if there is one to tell.
-/

namespace SettingsStore

/--
The classes of store errors; a code that none of them has stands for itself.
-/
inductive ErrorKind where
  | ok
  | io
  | jsonParse
  | jsonSerialize
  | notInitialized
  | other (code : Text)
  deriving DecidableEq

namespace ErrorKind

/-- The wording of a kind. -/
def message : ErrorKind → Text
  | .ok => "Success"
  | .io => "I/O error"
  | .jsonParse => "JSON parse error"
  | .jsonSerialize => "JSON serialize error"
  | .notInitialized => "Not initialized"
  | .other _ => "Unknown error"

/-- The code of a kind. -/
def code : ErrorKind → Text
  | .ok => "ok"
  | .io => "io"
  | .jsonParse => "json_parse"
  | .jsonSerialize => "json_serialize"
  | .notInitialized => "not_initialized"
  | .other code => code

/-- The kind of a code. -/
def ofCode (code : Text) : ErrorKind :=
  if code = "ok" then .ok
  else if code = "io" then .io
  else if code = "json_parse" then .jsonParse
  else if code = "json_serialize" then .jsonSerialize
  else if code = "not_initialized" then .notInitialized
  else .other code

/--
A kind is known by its code, unless it is a foreign one that takes a code of
ours.
-/
theorem ofCode_code
    (kind : ErrorKind)
    (ours : ∀ code, kind ≠ .other code) :
    ofCode kind.code = kind := by
  cases kind with
  | other code => exact absurd rfl (ours code)
  | _ => decide

end ErrorKind

/-- An error of the store, with what it was about. -/
structure StoreError where
  kind : ErrorKind
  detail : Option Text
  deriving DecidableEq

/-- The text of an error; an empty detail says nothing. -/
def StoreError.text (error : StoreError) : Text :=
  match error.detail with
  | none => error.kind.message
  | some detail =>
    if detail = "" then
      error.kind.message
    else error.kind.message ++ ": " ++ detail

end SettingsStore
