import SettingsStore.Host.Home
import SettingsStore.Log.Record
import SettingsStore.Text.Quoted

/-!
# Where the directories are

Three directories matter: the one of the executable, the one of the data that
belongs to the user, and the one of the data that stays on the machine.  Each
platform has its own conventions for the last two; the first is the same for
all.  A directory that cannot be determined is left open.
-/

namespace SettingsStore

/--
Conventions by which directories are found, for an application of a given name.
-/
inductive DirectorySource where
  /-- No conventions: the data directories cannot be asked for. -/
  | bare (application : Text)
  | unix (application : Text)
  | mac (application : Text)
  | windows (application : Text)
  /-- Directories that are given beforehand. -/
  | fixed (executable userData machineData : Option Path)
  deriving DecidableEq

/-- The words for a path error. -/
def PathError.message : PathError → Text
  | .undeterminedHome => "Could not determine home directory."
  | .linkLoop path => "Symlink loop from " ++ path.quoted
  | .name error => error.message
  | .workDirectoryGone => "[Errno 2] No such file or directory"
  | .unsupported => ""

namespace DirectorySource

/-- The application that directories are for unless another one is named. -/
def defaultApplication : Text := "VNote"

/-- The name of the conventions. -/
def name : DirectorySource → String
  | .bare _ => "DirectoryResolver"
  | .unix _ => "UnixDirectoryResolver"
  | .mac _ => "MacDirectoryResolver"
  | .windows _ => "WindowsDirectoryResolver"
  | .fixed _ _ _ => "FixedResolver"

/-- The application that the directories are for. -/
def application : DirectorySource → Text
  | .bare application => application
  | .unix application => application
  | .mac application => application
  | .windows application => application
  | .fixed _ _ _ => defaultApplication

/-- The conventions of a platform. -/
def ofPlatform (platform application : Text) : DirectorySource :=
  if platform.startsWith "win" then .windows application
  else if platform = "darwin" then .mac application
  else .unix application

/-- What is told when the conventions of a platform are chosen. -/
def chosenEvent (platform : Text) (source : DirectorySource) : Log.Event where
  logger := "vxcore.paths"
  level := Log.Level.debug
  message :=
    "directory resolver platform=" ++ platform ++ " resolver=" ++ source.name

end DirectorySource

namespace Host

/-- A path from the root, without links where that can be had. -/
def absolute? (host : Host) : Option Path → Except PathError (Option Path)
  | none => .ok none
  | some path =>
    match host.files.absolutePath path with
    | .error error => .error error
    | .ok found => .ok (some found)

/--
The directory of the executable: what a variable says, else where the binary is,
else where the program is installed.
-/
def executableDirectory (host : Host) : Except PathError (Option Path) :=
  match host.variableDirectory "VXCORE_EXECUTABLE_DIR" with
  | .error error => .error error
  | .ok (some path) => host.absolute? (some path)
  | .ok none =>
    if !host.bundled then .ok (some host.packageDirectory)
    else if host.executable = "" then .ok none
    else
      match host.files.absolutePath (Path.ofText host.executable) with
      | .error error => .error error
      | .ok path => .ok (some path.parent)

/--
A directory under the one that a variable names, or else under one below the
home directory.
-/
def baseDirectory
    (host : Host)
    (variableName : Text)
    (belowHome : List Text)
    (application : Text) :
    Except PathError (Option Path) :=
  match host.variableDirectory variableName with
  | .error error => .error error
  | .ok (some base) =>
      host.absolute? (some (base.join (Path.ofText application)))
  | .ok none =>
    match host.homeDirectory with
    | .error error => .error error
    | .ok none => .ok none
    | .ok (some home) =>
      host.absolute?
        (some ((home.join ⟨.relative, belowHome⟩).join
          (Path.ofText application)))

/-- A directory below the home directory. -/
def libraryDirectory
    (host : Host)
    (belowHome : List Text)
    (application : Text) :
    Except PathError (Option Path) :=
  match host.homeDirectory with
  | .error error => .error error
  | .ok none => .ok none
  | .ok (some home) =>
    host.absolute?
      (some ((home.join ⟨.relative, belowHome⟩).join (Path.ofText application)))

/--
The known folder of an application, or what went wrong with looking it up.
-/
def knownDirectory (host : Host) (roaming : Bool) (application : Text) :
    Except Text Path :=
  match host.knownFolders.lookUp roaming application with
  | .error reason => .error reason
  | .ok folder =>
    match host.files.absolutePath (Path.ofText folder) with
    | .error error => .error error.message
    | .ok path => .ok path

/-- The directory of data that belongs to the user. -/
def userDataDirectory
    (host : Host) :
    DirectorySource → Except PathError (Option Path)
  | .bare _ => .error .unsupported
  | .unix application =>
      host.baseDirectory "XDG_DATA_HOME" [".local", "share"] application
  | .mac application =>
      host.libraryDirectory ["Library", "Application Support"] application
  | .windows application =>
    .ok (host.knownDirectory true application).toOption
  | .fixed _ userData _ => .ok userData

/-- The directory of data that stays on the machine. -/
def machineDataDirectory
    (host : Host) :
    DirectorySource → Except PathError (Option Path)
  | .bare _ => .error .unsupported
  | .unix application =>
      host.baseDirectory "XDG_CACHE_HOME" [".cache"] application
  | .mac application => host.libraryDirectory ["Library", "Caches"] application
  | .windows application =>
    .ok (host.knownDirectory false application).toOption
  | .fixed _ _ machineData => .ok machineData

/-- The directory of the executable as a source of directories tells it. -/
def executableDirectoryOf
    (host : Host) :
    DirectorySource → Except PathError (Option Path)
  | .fixed executable _ _ => .ok executable
  | _ => host.executableDirectory

/--
What is told when a data directory is asked for: that a known folder could not
be looked up.
-/
def folderEvents
    (host : Host)
    (roaming : Bool) :
    DirectorySource → List Log.Event
  | .windows application =>
    match host.knownDirectory roaming application with
    | .ok _ => []
    | .error reason =>
      [{ logger := "vxcore.paths"
         level := Log.Level.warning
         message := "known folder lookup failed roaming=" ++
           (if roaming then "True" else "False") ++ ": " ++ reason }]
  | _ => []

end Host

end SettingsStore
