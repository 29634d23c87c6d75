import SettingsStore.Json.Printer
import SettingsStore.Log.Level
import SettingsStore.Log.Moment

/-!
# Log records

An event is what the program has to tell: who tells it, how urgent it is and the
message.  A record is an event with the moment, the process and, if there was
one, the failure behind it.  A record is written as a line of text, or as one
JSON object on a line, in which the printer leaves no line break.
-/

namespace SettingsStore.Log

/-- Something that the program tells. -/
structure Event where
  logger : Text
  level : Level
  message : Text
  deriving DecidableEq

/--
The name of the logger that is called so; the one that is called by nothing is
the root of all.
-/
def loggerName (called : Text) : Text :=
  if called = "" then "root" else called

/-- An event as it is recorded. -/
structure Record where
  /-- The name of the logger. -/
  logger : Text
  level : Level
  /--
  The name of the level, which is its usual one unless another was given to it.
  -/
  levelName : Text := level.name
  message : Text
  /-- The text of the failure behind the event. -/
  failure : Option Text
  /-- The moment, in seconds. -/
  created : Int
  process : Nat
  deriving DecidableEq

/-- The form of a log. -/
inductive LineFormat where
  | text
  | jsonLines
  deriving DecidableEq

/-- The name of a form. -/
def LineFormat.name : LineFormat → String
  | .text => "text"
  | .jsonLines => "jsonl"

/--
The text of a failure: its class, and what it says unless that is nothing.
-/
def failureText (kind text : Text) : Text :=
  if text.isEmpty then kind else kind ++ ": " ++ text

namespace Record

/-- The object that stands for a record. -/
def toJson (record : Record) : Json :=
  let member (key value : Text) : Text × Json := (key, .string value)
  .object ([member "ts" (stamp record.created),
      member "level" record.levelName,
      member "logger" record.logger,
      member "msg" record.message] ++
    match record.failure with
    | none => []
    | some failure => [member "exc" failure])

/-- The line of a record, without its end. -/
def line (format : LineFormat) (record : Record) : Text :=
  match format with
  | .jsonLines => Text.ofChars (Json.render .line record.toJson)
  | .text =>
    stamp record.created ++ " " ++ record.levelName ++ " pid=" ++
      toString record.process ++ " " ++
      record.logger ++ ": " ++ record.message

end Record

end SettingsStore.Log
