import SettingsStore.Config
import SettingsStore.Host.Directories
import SettingsStore.Log.Listener
import SettingsStore.Manager.Fault
import SettingsStore.Text.Case

/-!
# The manager

A manager holds the configuration and the session of a program together with the
directories in which they are kept.  The directories are chosen once, when the
manager is made: the sandbox in test mode, the directory `config` beside the
executable if there is one, and otherwise what the conventions of the platform
say.
-/

namespace SettingsStore

/-- How far a manager has come. -/
inductive ManagerState where
  | pathsResolved
  | ready
  | failed
  deriving DecidableEq

/-- The name of a state. -/
def ManagerState.name : ManagerState → String
  | .pathsResolved => "paths_resolved"
  | .ready => "ready"
  | .failed => "failed"

/-- The directories of a manager, as far as they are known. -/
structure ResolvedPaths where
  executable : Option Path
  userData : Option Path
  machineData : Option Path
  deriving DecidableEq

namespace ResolvedPaths

/-- The packaged defaults. -/
def defaultConfig (paths : ResolvedPaths) : Option Path :=
  paths.executable.map fun directory =>
    (directory.child "data").child "vxcore.json"

/-- The settings of the user, which override the defaults. -/
def userConfig (paths : ResolvedPaths) : Option Path :=
  paths.userData.map fun directory => directory.child "vxcore.json"

/-- The session. -/
def session (paths : ResolvedPaths) : Option Path :=
  paths.machineData.map fun directory => directory.child "session.json"

end ResolvedPaths

/-- The keeper of a configuration and a session. -/
structure Manager where
  codec : RecordCodec
  testMode : Bool
  paths : ResolvedPaths
  state : ManagerState := .pathsResolved
  config : Config := {}
  session : Session := {}

/-- What is told about managers. -/
def managerEvent (level : Log.Level) (message : Text) : Log.Event where
  logger := "vxcore.config_manager"
  level := level
  message := message

/-- The text of a path that may be unknown. -/
def pathText : Option Path → Text
  | none => "None"
  | some path => path.toText

/-- The directory in which everything is kept in test mode. -/
def Host.sandbox (host : Host) : Except PathError Path :=
  host.files.resolve (host.temporaryDirectory.child "vxcore_test")

/--
The words that switch test mode on when the environment holds one of them.
-/
def testModeWords : List Text := ["1", "true", "yes", "y", "on"]

/-- The host with other files. -/
def Host.withFiles (host : Host) (files : FileSystem) : Host :=
  { host with files }

/--
The data directories that the conventions say, with what is told on the way to
them.
-/
def Host.chooseByConventions
    {World : Type}
    (host : Host)
    (listener : Log.Listener World)
    (world : World)
    (source : DirectorySource)
    (executable : Option Path) :
    Except PathError ResolvedPaths × World :=
  let now := host.withFiles (listener.files world)
  let userData := now.userDataDirectory source
  let world := listener.hearAll world (now.folderEvents true source)
  match userData with
  | .error error => (.error error, world)
  | .ok userData =>
    let now := host.withFiles (listener.files world)
    let machineData := now.machineDataDirectory source
    let world := listener.hearAll world (now.folderEvents false source)
    match machineData with
    | .error error => (.error error, world)
    | .ok machineData =>
      (.ok ⟨executable, userData, machineData⟩,
        listener.hear world (managerEvent .debug
          ("resolved paths executable=" ++ pathText executable ++
              " app_data=" ++
            pathText userData ++ " local_data=" ++ pathText machineData)))

/--
The directories that are chosen in a mode, with what is told on the way to them.
-/
def Host.choosePaths
    {World : Type}
    (host : Host)
    (listener : Log.Listener World)
    (world : World)
    (source : DirectorySource)
    (testMode : Bool) :
    Except PathError ResolvedPaths × World :=
  let now := host.withFiles (listener.files world)
  match now.executableDirectoryOf source with
  | .error error => (.error error, world)
  | .ok executable =>
    if testMode then
      match now.sandbox with
      | .error error => (.error error, world)
      | .ok sandbox =>
        (.ok ⟨executable, some sandbox, some sandbox⟩,
          listener.hear world (managerEvent .info
            ("test mode: using sandbox data dir " ++ sandbox.toText)))
    else
      match (executable.map fun directory => directory.child "config").filter
          now.files.pathExists with
      | some portable =>
        (.ok ⟨executable, some portable, some portable⟩,
          listener.hear world (managerEvent .info
            ("portable install: using data dir " ++ portable.toText)))
      | none => host.chooseByConventions listener world source executable

namespace Manager

/--
A manager on a host, with what is told on the way to it.  Without a source of
directories the conventions of the platform hold, and without a mode the mode of
the process.
-/
def constructTelling
    {World : Type}
    (host : Host)
    (listener : Log.Listener World)
    (world : World)
    (processTestMode : Bool)
    (source : Option DirectorySource)
    (codec : RecordCodec)
    (testMode : Option Bool) :
    Except PathError Manager × World :=
  let conventions :=
    DirectorySource.ofPlatform host.platform DirectorySource.defaultApplication
  let world :=
    match source with
    | some _ => world
    | none => listener.hear world (conventions.chosenEvent host.platform)
  let testMode := testMode.getD processTestMode
  match host.choosePaths listener world (source.getD conventions) testMode with
  | (.error error, world) => (.error error, world)
  | (.ok paths, world) => (.ok { codec, testMode, paths }, world)

/--
A manager on a host whose files stay what they are while it is made, and what is
told.
-/
def construct
    (host : Host)
    (processTestMode : Bool)
    (source : Option DirectorySource)
    (codec : RecordCodec)
    (testMode : Option Bool) :
    Except PathError Manager × List Log.Event :=
  constructTelling host (Log.Listener.quiet host.files) [] processTestMode
    source codec testMode

end Manager

/-- Whether the environment switches test mode on. -/
def Environment.testMode (value : Option Text) : Bool :=
  testModeWords.contains (value.getD "").strip.toLowerWord

end SettingsStore
