import SettingsStore.CommandLine.Grammar
import SettingsStore.Log.Journal
import SettingsStore.Manager.Save
import SettingsStore.Program.Console

/-!
# The running program

A running program has a machine to run on, a journal for what it tells and a
mode, which decides where new managers look for their files.  What it writes to
its output, which may refuse a text, and to its error output, which takes every
text, is kept here in full.  Managers are values of their own; the operations
below tell the journal what happens to them.
-/

namespace SettingsStore

/-- A program at work. -/
structure Program where
  host : Host
  journal : Log.Journal := {}
  testMode : Bool := false
  /--
  If present, what the store tells is gathered here, the latest first, and
  written nowhere.
  -/
  gathered : Option (List Log.Event) := none
  /-- The moment of what is told, in seconds. -/
  moment : Int := 0
  /-- The number of the process. -/
  process : Nat := 1
  /-- How command lines are read. -/
  convention : CommandLine.Convention := .older
  console : Console := .lenient
  output : Text := []
  errorOutput : Text := []

namespace Program

/-- A program that starts on a host: the environment says in which mode. -/
def start (host : Host) : Program where
  host := host
  testMode := Environment.testMode (host.environment.get? "VXCORE_TEST_MODE")

/-- The files of the host. -/
def files (program : Program) : FileSystem :=
  program.host.files

/--
Takes over a file system in which what stood at some places was taken away.
-/
def withFiles
    (program : Program)
    (files : FileSystem)
    (removed : Place → Bool) :
    Program :=
  { program with
    host := { program.host with files }
    journal := program.journal.afterRemoval program.files removed }

/-- Sets the environment. -/
def withEnvironment (program : Program) (environment : Environment) : Program :=
  { program with host := { program.host with environment } }

/-- Sets the mode for managers that are made from now on. -/
def withTestMode (program : Program) (testMode : Bool) : Program :=
  { program with testMode }

/-- Writes to the output, if that takes the text. -/
def print (program : Program) (text : Text) :
    Except OutputError Unit × Program :=
  match program.console.refusal? text with
  | some error => (.error error, program)
  | none => (.ok (), { program with output := program.output ++ text })

/-- Writes texts to the output one after the other, until one is refused. -/
def printAll (program : Program) :
    List Text → Except OutputError Unit × Program
  | [] => (.ok (), program)
  | text :: rest =>
    match program.print text with
    | (.error error, program) => (.error error, program)
    | (.ok (), program) => program.printAll rest

/-- Writes to the error output. -/
def complain (program : Program) (text : Text) : Program :=
  { program with errorOutput := program.errorOutput ++ text }

/-- Whether a logger belongs to the store. -/
def isOfStore (logger : Text) : Bool :=
  logger = "vxcore" || logger.startsWith "vxcore."

/-- Whether what a logger tells at a level is gathered. -/
def gathers (program : Program) (logger : Text) (level : Log.Level) : Bool :=
  program.gathered.isSome && isOfStore logger && Log.Level.debug ≤ level

/-- Tells the journal of an event, or gathers it. -/
def tell (program : Program) (event : Log.Event) : Program :=
  let recorded (program : Program) : Program :=
    let written := program.journal.record program.files
      { logger := event.logger
        level := event.level
        message := event.message
        failure := none
        created := program.moment
        process := program.process }
    { program with
      host := { program.host with files := written.files }
      journal := written.journal
      errorOutput := program.errorOutput ++ written.errorOutput }
  match program.gathered with
  | none => recorded program
  | some events =>
    if isOfStore event.logger then
      if Log.Level.debug ≤ event.level then
        { program with gathered := some (event :: events) }
      else program
    else recorded program

/-- What a program does with an event. -/
def listener : Log.Listener Program where
  files := files
  hear := tell

/-- Tells the journal of events in order. -/
def tellAll (program : Program) (events : List Log.Event) : Program :=
  listener.hearAll program events

/--
Sets the journal up and tells so; without its log file the journal is the one
from before.
-/
def setUpJournal (program : Program) (options : Log.JournalOptions) :
    Except Fault Unit × Program :=
  match Log.Journal.setUp program.host options with
  | (.error fault, files) =>
      (.error fault, program.withFiles files fun _ => false)
  | (.ok (journal, told), files) =>
    let program := { program.withFiles files (fun _ => false) with journal }
    match told with
    | .error error => (.error (.path error), program)
    | .ok event => (.ok (), program.tell event)

/-- Makes a manager. -/
def construct
    (program : Program)
    (source : Option DirectorySource)
    (codec : RecordCodec)
    (testMode : Option Bool) :
    Except PathError Manager × Program :=
  Manager.constructTelling program.host listener program program.testMode source
    codec testMode

/-- Loads the documents of a manager. -/
def load
    (program : Program)
    (manager : Manager) :
    Except Fault Unit × Manager × Program :=
  let (made, trail) := (ensureDataDirectories manager.paths).runOn program.files
  manager.loadDocuments listener
    (program.withFiles trail.files fun _ => false) made

/-- Whether a path names a place itself and not what a link there leads to. -/
def names (files : FileSystem) (path : Path) (place : Place) : Bool :=
  match files.locate path false with
  | .ok spot => spot.place = place
  | .error _ => false

/-- Saves the session of a manager; the file that is replaced is taken away. -/
def save
    (program : Program)
    (manager : Manager) :
    Except Fault Unit × Program :=
  let outcome := manager.save program.files
  let replaced (place : Place) : Bool :=
    match outcome.result, manager.paths.session with
    | .ok (), some path => names program.files path place
    | _, _ => false
  (outcome.result, (program.withFiles outcome.files replaced).tellAll
      outcome.events)

end Program

end SettingsStore
