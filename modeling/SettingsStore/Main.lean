import SettingsStore.CommandLine.Run
import Std.Time

/-!
# The program

The outer layer around the running program.  It takes a picture of the files
that a command line can touch, runs the command line on the picture, and then
makes the real files what they have become there.  The home directories of
accounts are not looked up; the environment alone says where the user is at
home.
-/

namespace SettingsStore

/-! ## Taking the picture -/

/--
The string of a text; a surrogate, which the system would not take either, is
left out.
-/
def textString (text : Text) : String :=
  String.ofList (text.filterMap CodePoint.toChar?)

/-- The string of the path to a place. -/
def placeText (place : Place) : String :=
  textString (Path.mk .root place).toText

/-- The canonical path of what a path leads to, if it leads to anything. -/
def canonicalText (text : String) : IO (Option String) := do
  match ← (IO.FS.realPath text).toBaseIO with
  | .ok found => return some (toString found)
  | .error _ => return none

/-- What is at a canonical path. -/
def entryAt (text : String) : IO Entry := do
  if (← canonicalText (text ++ "/.")).isSome then return .directory 0o755
  else
    match ← (IO.FS.readBinFile text).toBaseIO with
    | .ok content => return .file content 0o644
    | .error _ => return .file ByteArray.empty 0o644

/-- Adds what is on the way to a place without links. -/
def recordWay (files : FileSystem) (place : Place) : IO FileSystem :=
  (List.range place.length).foldlM (fun files count => do
    let reached := place.take (count + 1)
    return files.put reached (← entryAt (placeText reached))) files

/-- Adds what is on the way along names from a place without links. -/
def recordNames : Place → List Text → FileSystem → IO FileSystem
  | _, [], files => return files
  | place, name :: rest, files => do
    if name = ".." then recordNames place.dropLast rest files
    else
      let next := place ++ [name]
      match ← canonicalText (placeText next) with
      | none => return files
      | some found =>
        if found = placeText next then
          recordNames next rest (files.put next (← entryAt found))
        else
          let target := (Path.ofText found).names
          recordNames target rest
            (← recordWay (files.put next (.link found)) target)

/-- Adds what is on the way along paths. -/
def recordPaths (files : FileSystem) (paths : List Path) : IO FileSystem :=
  paths.foldlM (fun files path =>
    match files.fromRoot? path with
    | none => return files
    | some whole => recordNames [] whole.names files) files

/-! ## What the program may touch -/

/-- The variables that the program reads. -/
def variableNames : List String :=
  ["HOME", "XDG_DATA_HOME", "XDG_CACHE_HOME", "TMPDIR", "VXCORE_EXECUTABLE_DIR",
    "VXCORE_TEST_MODE",
    "VXCORE_LOG_LEVEL", "VXCORE_LOG_FILE", "VXCORE_LOG_FORMAT"]

/-- The variables that name directories. -/
def directoryVariables : List Text :=
  ["HOME", "XDG_DATA_HOME", "XDG_CACHE_HOME", "VXCORE_EXECUTABLE_DIR"]

/-- How this program reads command lines. -/
def convention : CommandLine.Convention := .newer

/-- The path of the log file that a command line asks for. -/
def logPath (host : Host) (words : List Text) : Option Path :=
  match CommandLine.Arguments.ofWords convention words with
  | .error _ => none
  | .ok arguments => do
    let options ← arguments.journalOptions?
    let path ← options.filePath host.environment
    (host.expandHome path).toOption

/-- The directories from which all others are found, and the log file. -/
def startingPaths (host : Host) (words : List Text) : List Path :=
  [⟨.relative, []⟩, host.packageDirectory, host.temporaryDirectory] ++
    directoryVariables.filterMap
      (fun name => ((host.variableDirectory name).toOption).join) ++
    (logPath host words).toList

/-- The files that managers on the host have. -/
def managerPaths (host : Host) : List Path :=
  [true, false].flatMap fun testMode =>
    match (Manager.construct host testMode none .verbatim none).1 with
    | .error _ => []
    | .ok manager =>
      [manager.paths.defaultConfig, manager.paths.userConfig,
        manager.paths.session,
        manager.paths.executable.map fun directory =>
          directory.child "config"].filterMap id

/-- The log file at its canonical path, with the old ones. -/
def logPaths (host : Host) (words : List Text) : List Path :=
  match (logPath host words).map (Log.filePathOn host host.files) with
  | some (.ok path) =>
    path :: (List.range Log.File.oldFiles).map fun number =>
      Log.File.oldPath path (number + 1)
  | _ => []

/-- The directory from which relative paths start. -/
def workDirectory : IO WorkDirectory := do
  match ← IO.currentDir.toBaseIO with
  | .ok found => return .present (Path.ofText (toString found)).names
  | .error _ => return .removed []

/--
The machine as this process finds it, with the files that a command line can
touch.
-/
def readHost (words : List Text) : IO Host := do
  let environment ← variableNames.filterMapM fun name => do
    return (← IO.getEnv name).map fun value =>
      (Text.ofString name, Text.ofString value)
  let work ← workDirectory
  let executable := toString (← IO.appPath)
  let host : Host :=
    { environment
      accounts := { available := false }
      knownFolders := {}
      platform := "linux"
      bundled := false
      executable
      packageDirectory := (Path.ofText executable).parent
      temporaryDirectory :=
        Path.ofText ((Environment.get? environment "TMPDIR").getD "/tmp")
      files := ⟨[], work, 0o022⟩ }
  let files ← recordPaths host.files (startingPaths host words)
  let host := { host with files }
  let files ← recordPaths host.files (managerPaths host ++ logPaths host words)
  return { host with files }

/-! ## Making it so -/

/-- Makes the real files what they have become in the picture. -/
def makeSo (before after : FileSystem) : IO Unit := do
  for (place, entry) in after.entries do
    if before.get? place ≠ some entry then
      match entry with
      | .directory _ => IO.FS.createDirAll (placeText place)
      | .file content _ => IO.FS.writeBinFile (placeText place) content
      | .link _ => pure ()
  for (place, _) in before.entries do
    if after.get? place = none then IO.FS.removeFile (placeText place)

/-- The number of this process, as far as it can be found. -/
def processNumber : IO Nat := do
  let found ← canonicalText "/proc/self"
  let name := found.bind fun text => (Path.ofText text).names.getLast?
  return (name.bind fun name => (textString name).toNat?).getD 0

end SettingsStore

open SettingsStore in
/-- Runs the command line of the process. -/
def main (arguments : List String) : IO UInt32 := do
  let words := arguments.map Text.ofString
  let host ← readHost words
  let now ← Std.Time.Timestamp.now
  let process ← processNumber
  let program :=
    { Program.start host with
      moment := now.toSecondsSinceUnixEpoch.val
      process
      convention
      console := .utf8 }
  let (ending, program) := program.run Program.commandLogger words
  makeSo host.files program.files
  (← IO.getStdout).putStr (textString program.output)
  (← IO.getStderr).putStr (textString program.errorOutput)
  match ending with
  | .exit exit => return exit.code.toUInt32
  | .code code => return code.toUInt32
  | .fault fault => stopped fault.message
  | .noText => stopped "no text was given for the log file"
  | .unwritten error => stopped error.message
where
  /-- Ends with a message on the error output. -/
  stopped (message : SettingsStore.Text) : IO UInt32 := do
    (← IO.getStderr).putStr (textString message ++ "\n")
    return 1
