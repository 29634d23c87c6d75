import SettingsStore.Host.Directories
import SettingsStore.Log.File
import SettingsStore.Manager.Fault
import SettingsStore.Text.Case

/-!
# The journal

The journal takes the events of the program.  Before it is set up, warnings and
worse go to the error output as bare messages.  Afterwards every event from a
threshold on becomes a line on the error output and, if there is one, in a log
file.  Threshold, file and form are given or taken from the environment; values
that say nothing sensible fall back to the defaults, except that a log file that
cannot be had is a fault.
-/

namespace SettingsStore.Log

/-- Where lines go once the journal is set up. -/
structure Outlet where
  format : LineFormat
  file : Option File

/-- The state of the journal. -/
structure Journal where
  threshold : Level := Level.warning
  outlet : Option Outlet := none

/--
What the journal is set up with; what is not given is taken from the
environment.
-/
structure JournalOptions where
  level : Option Text := none
  file : Option Text := none
  format : Option Text := none

/-- The first of two values that is given and not empty. -/
def firstNonEmpty (first second : Option Text) : Option Text :=
  let given (text : Text) : Bool := text ≠ ""
  (first.filter given).or (second.filter given)

namespace JournalOptions

/-- The threshold that the options ask for. -/
def threshold (options : JournalOptions) (environment : Environment) : Level :=
  let word :=
    (firstNonEmpty options.level (environment.get? "VXCORE_LOG_LEVEL")).getD
      "warning"
  (Level.ofWord? word.strip.toUpperWord).getD Level.warning

/-- The log file that the options ask for; blank means none. -/
def filePath
    (options : JournalOptions)
    (environment : Environment) :
    Option Path :=
  let text :=
    ((options.file.or (environment.get? "VXCORE_LOG_FILE")).getD "").strip
  if text = "" then none else some (Path.ofText text)

/-- The form that the options ask for. -/
def lineFormat
    (options : JournalOptions)
    (environment : Environment) :
    LineFormat :=
  let word :=
    (firstNonEmpty options.format (environment.get? "VXCORE_LOG_FORMAT")).getD
      "text"
  let word := word.strip.toLowerWord
  if word = "jsonl" ∨ word = "json" then .jsonLines else .text

end JournalOptions

/-- The canonical path of a log file. -/
def filePathOn
    (host : Host)
    (files : FileSystem)
    (path : Path) :
    Except PathError Path :=
  match host.expandHome path with
  | .error error => .error error
  | .ok path => files.resolve path

/--
Opens the log file of the options, making the directories on the way to it.
-/
def openFile (host : Host) (path : Path) : Except Fault File × FileSystem :=
  match filePathOn host host.files path with
  | .error error => (.error (.path error), host.files)
  | .ok path =>
    let (made, trail) :=
      (FileSystem.makeDirectories path.parent).runOn host.files
    match made with
    | .error (error, refused) => (.error (.file error refused), trail.files)
    | .ok () =>
      match File.openAt trail.files path with
      | .error error => (.error (.file error path), trail.files)
      | .ok (file, files) => (.ok file, files)

namespace Journal

/-- Whether an event of a level is taken. -/
def takes (journal : Journal) (level : Level) : Bool :=
  0 < level && journal.threshold ≤ level

/--
What recording an event leaves: the journal, the file system and the error
output.
-/
structure Recorded where
  journal : Journal
  files : FileSystem
  errorOutput : Text

/-- Records an event at a moment. -/
def record
    (journal : Journal)
    (files : FileSystem)
    (entry : Record) :
    Recorded :=
  if journal.takes entry.level then
    match journal.outlet with
    | none =>
      ⟨journal, files,
        if Level.warning ≤ entry.level then entry.message ++ "\n" else []⟩
    | some outlet =>
      let line := entry.line outlet.format ++ "\n"
      match outlet.file with
      | none => ⟨journal, files, line⟩
      | some file =>
        let (file, files) := file.append files line
        ⟨{ journal with outlet := some { outlet with file := some file } },
          files, line⟩
  else ⟨journal, files, []⟩

/-- The journal after others took away what stood at some places. -/
def afterRemoval
    (journal : Journal)
    (before : FileSystem)
    (removed : Place → Bool) :
    Journal :=
  { journal with
    outlet := journal.outlet.map fun outlet =>
      { outlet with file := outlet.file.map fun file =>
        file.afterRemoval before removed } }

/-- What is told when the journal is set up. -/
def setUpEvent
    (threshold : Level)
    (format : LineFormat)
    (path : Option Path) :
    Event where
  logger := "vxcore.logging_utils"
  level := Level.debug
  message :=
    let file : Text :=
      match path with
      | none => "(stderr)"
      | some path => path.toText
    "logging configured level=" ++ threshold.name ++ " format=" ++
      format.name ++
      " log_file=" ++ file

/--
Sets the journal up: the new journal with what is told about it, or a fault, and
the file system.  What is told names the path of the log file, which is asked
for again once the journal is there.
-/
def setUp (host : Host) (options : JournalOptions) :
    Except Fault (Journal × Except PathError Event) × FileSystem :=
  let threshold := options.threshold host.environment
  let format := options.lineFormat host.environment
  match options.filePath host.environment with
  | none =>
    (.ok (⟨threshold, some ⟨format, none⟩⟩,
      .ok (setUpEvent threshold format none)), host.files)
  | some wanted =>
    match openFile host wanted with
    | (.error fault, files) => (.error fault, files)
    | (.ok file, files) =>
      (.ok (⟨threshold, some ⟨format, some file⟩⟩,
        (filePathOn host files wanted).map fun path =>
          setUpEvent threshold format (some path)), files)

end Journal

end SettingsStore.Log
