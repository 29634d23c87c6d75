import SettingsStore.Host.Directories
import SettingsStore.Json.Parser
import SettingsStore.Session.Basic

/-!
# Faults

Everything that can stop the construction of a manager, a load, a save or the
set-up of the log.  Errors of the store are what callers are meant to handle;
the other faults pass through as they arise.
-/

namespace SettingsStore

/-- The number that the system has for a refusal, and its words. -/
def FileError.report : FileError → Nat × String
  | .noEntry => (2, "No such file or directory")
  | .alreadyExists => (17, "File exists")
  | .notDirectory => (20, "Not a directory")
  | .isDirectory => (21, "Is a directory")
  | .nameTooLong => (36, "File name too long")
  | .linkLoop => (40, "Too many levels of symbolic links")
  | .name _ => (22, "Invalid argument")

/-- The words for an operation that the system refused on a path. -/
def FileError.message (error : FileError) (path : Path) : Text :=
  match error with
  | .name error => error.message
  | error =>
    let (number, words) := error.report
    "[Errno " ++ toString number ++ "] " ++ words ++ ": " ++ path.toText.quoted

/-- The words for a record that was not turned into a value or back. -/
def RecordError.message : RecordError → Text
  | .unsupported text => text
  | .invalid text => text
  | .failed error => error.text
  | .tooDeep => "maximum recursion depth exceeded"

/-- What stopped an operation. -/
inductive Fault where
  | store (error : StoreError)
  | path (error : PathError)
  | file (error : FileError) (path : Path)
  | record (error : RecordError)
  /-- A document holds a whole number with more digits than are read. -/
  | hugeInteger (digits : Nat)
  deriving DecidableEq

namespace Fault

/-- The words for a fault. -/
def message : Fault → Text
  | .store error => error.text
  | .path error => error.message
  | .file error refused => error.message refused
  | .record error => error.message
  | .hugeInteger digits => (Json.ParseError.hugeInteger digits).message

/-- A fault of the kind that reading and writing files has. -/
def io (detail : Text) : Fault :=
  .store ⟨.io, some detail⟩

/-- A fault in a document. -/
def jsonParse (detail : Text) : Fault :=
  .store ⟨.jsonParse, some detail⟩

/--
A refused operation on a file, told as an error of the store; that the path is
none that the system could be asked about passes through.
-/
def ofFileError (error : FileError) (detail : Text) : Fault :=
  match error with
  | .name error => .path (.name error)
  | _ => io detail

end Fault

end SettingsStore
