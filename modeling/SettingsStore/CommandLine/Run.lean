import SettingsStore.CommandLine.Arguments
import SettingsStore.CommandLine.Dump

/-!
# Running a command line

A command line is read, the journal is set up as it says, test mode is switched
on if it asks for that, and then the command is carried out.  A line that
cannot be read, or that asks for help, ends the program before any of this.
What a command comes to is told once it is complete.
-/

namespace SettingsStore

/--
What arguments say about the journal, in which a level or a form given as
nothing counts as not given; there is no telling if the file is given so.
-/
def CommandLine.Arguments.journalOptions?
    (arguments : CommandLine.Arguments) :
    Option Log.JournalOptions :=
  if arguments.logFile = some .nothing then none
  else
    some
      { level := arguments.logLevel.bind OptionValue.text?
        file := arguments.logFile.bind OptionValue.text?
        format := arguments.logFormat.bind OptionValue.text? }

namespace Program

/-- The logger of the command line. -/
def commandLogger : Text := "vxcore.cli"

/-- What is told when a command is complete. -/
def completeEvent
    (logger : Text)
    (arguments : CommandLine.Arguments)
    (code : Nat) :
    Log.Event where
  logger := logger
  level := Log.Level.info
  message :=
    "command complete cmd=" ++ arguments.command.headD "" ++
      " rc=" ++ toString code

/-- Carries out what the arguments say, under the name of a logger. -/
def carryOut
    (program : Program)
    (logger : Text)
    (arguments : CommandLine.Arguments) :
    Ending × Program :=
  match arguments.journalOptions? with
  | none => (.noText, program)
  | some options =>
    match program.setUpJournal options with
    | (.error fault, program) => (.fault fault, program)
    | (.ok (), program) =>
      let program :=
        if arguments.testMode then program.withTestMode true else program
      match program.dump arguments.pathsOnly with
      | (.code code, program) =>
        (.code code, program.tell (completeEvent logger arguments code))
      | stopped => stopped

/-- Runs a command line under the name of a logger. -/
def run (program : Program) (logger : Text) (words : List Text) :
    Ending × Program :=
  match CommandLine.Arguments.ofWords program.convention words with
  | .error exit =>
    match program.print exit.output with
    | (.error error, program) => (.unwritten error, program)
    | (.ok (), program) => (.exit exit, program.complain exit.errorOutput)
  | .ok arguments => program.carryOut logger arguments

end Program

end SettingsStore
