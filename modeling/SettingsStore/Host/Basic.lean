import SettingsStore.Files.Resolve

/-!
# The host

What a process finds on the machine where it runs: its environment, the account
database, the known folders of a desktop system, the name of the platform, how
the program was installed, and the files.
-/

namespace SettingsStore

/-- Why a variable cannot be set. -/
inductive VariableError where
  /-- The name or the value is none that the system could keep. -/
  | text (error : NameError)
  | equalsInName
  | emptyName
  deriving DecidableEq

/-- The words for a variable error. -/
def VariableError.message : VariableError → Text
  | .text error => error.message
  | .equalsInName => "illegal environment variable name"
  | .emptyName => "[Errno 22] Invalid argument"

/-- The variables of a process. -/
abbrev Environment := List (Text × Text)

namespace Environment

/-- The value of a variable. -/
def get? (environment : Environment) (name : Text) : Option Text :=
  environment.lookup name

/-- The environment without a variable. -/
def unset (environment : Environment) (name : Text) : Environment :=
  environment.filter fun entry => entry.1 ≠ name

/--
The environment with a variable set to a value; the system keeps the octets of
both, so that they come back in their stored form.
-/
def set?
    (environment : Environment)
    (name value : Text) :
    Except VariableError Environment :=
  match name.nameOctets?, value.nameOctets? with
  | .error found, _ => .error (.text (.unencodable found))
  | _, .error found => .error (.text (.unencodable found))
  | .ok nameOctets, .ok valueOctets =>
    if nameOctets.contains 0 || valueOctets.contains 0 then
      .error (.text .nullByte)
    else if name.contains '=' then .error .equalsInName
    else if name.isEmpty then .error .emptyName
    else .ok ((name.stored, value.stored) :: environment.unset name.stored)

end Environment

/--
The account database: the home directory of the current user, and those of users
by name.
-/
structure Accounts where
  /-- Whether there is a database at all. -/
  available : Bool := true
  current : Option Text := none
  users : List (Text × Text) := []

/-- The folders that a desktop system assigns to applications for their data. -/
structure KnownFolders where
  /--
  The path of the folder for an application, for the data that moves with the
  user or for the data that stays on the machine, or why there is none.
  -/
  lookUp (roaming : Bool) (application : Text) : Except Text Text :=
    .error "no known folder"

/-- The machine as a process sees it. -/
structure Host where
  environment : Environment
  accounts : Accounts
  knownFolders : KnownFolders
  platform : Text
  /-- Whether the program runs from a bundle that holds everything it needs. -/
  bundled : Bool
  /-- The path of the running binary; empty if it is not known. -/
  executable : Text
  /-- The directory in which the program is installed. -/
  packageDirectory : Path
  temporaryDirectory : Path
  files : FileSystem

end SettingsStore
