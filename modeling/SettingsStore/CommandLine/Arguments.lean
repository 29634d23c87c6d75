import SettingsStore.CommandLine.Grammar

/-!
# The arguments of the program

The program has one command of two words, `config dump`.  Options before the
command say how to log and in which mode to work; one option after it leaves
the contents out.  A command stands in the grammar only if an action is bound
to it.
-/

namespace SettingsStore.CommandLine

/-- What a command line says. -/
structure Arguments where
  logLevel : Option OptionValue := none
  logFile : Option OptionValue := none
  logFormat : Option OptionValue := none
  testMode : Bool := false
  pathsOnly : Bool := false
  /-- The words of the command, in order. -/
  command : List Text := []
  deriving DecidableEq

/-- No action is bound to a command that the grammar has. -/
structure MissingAction where
  name : Text
  deriving DecidableEq

/-- The words for a missing action. -/
def MissingAction.message (missing : MissingAction) : Text :=
  "missing parser handler: " ++ missing.name

/-- A text of lines. -/
def ofLines (lines : List Text) : Text :=
  lines.flatMap (· ++ "\n")

namespace Arguments

/-- The option that asks for help. -/
def helpOption : OptionSpec Arguments :=
  ⟨["-h", "--help"], .help⟩

/-- The command follows a word. -/
def withWord (word : Text) (arguments : Arguments) : Arguments :=
  { arguments with command := arguments.command ++ [word] }

/-- The forms of a log that can be asked for. -/
def logFormats : List Text := ["text", "jsonl"]

/-- How the whole program is called. -/
def programUsage : Text :=
  ofLines
    ["usage: vxcore [-h] [--log-level LOG_LEVEL] [--log-file LOG_FILE]",
      "              [--log-format \x7btext,jsonl\x7d] [--test-mode]",
      "              \x7bconfig\x7d ..."]

/-- The help on the whole program. -/
def programHelp : Text :=
  programUsage ++
    ofLines
      ["",
        "positional arguments:",
        "  \x7bconfig\x7d",
        "    config              Config utilities.",
        "",
        "options:",
        "  -h, --help            show this help message and exit",
        "  --log-level LOG_LEVEL",
        "                        Logging level (debug, info, warning, error). You can",
        "                        also set VXCORE_LOG_LEVEL.",
        "  --log-file LOG_FILE   Optional log file path. You can also set",
        "                        VXCORE_LOG_FILE.",
        "  --log-format \x7btext,jsonl\x7d",
        "                        Log format (text or jsonl). You can also set",
        "                        VXCORE_LOG_FORMAT.",
        "  --test-mode           Keep config and session in a temporary sandbox dir.",
        "                        You can also set VXCORE_TEST_MODE."]

/-- How the command `config` is called. -/
def configUsage : Text :=
  ofLines ["usage: vxcore config [-h] \x7bdump\x7d ..."]

/-- The help on the command `config`. -/
def configHelp : Text :=
  configUsage ++
    ofLines
      ["",
        "positional arguments:",
        "  \x7bdump\x7d",
        "    dump      Dump config and session paths and contents.",
        "",
        "options:",
        "  -h, --help  show this help message and exit"]

/-- How the command `config dump` is called. -/
def dumpUsage : Text :=
  ofLines ["usage: vxcore config dump [-h] [--paths-only]"]

/-- The help on the command `config dump`. -/
def dumpHelp : Text :=
  dumpUsage ++
    ofLines
      ["",
        "options:",
        "  -h, --help    show this help message and exit",
        "  --paths-only  Show only file paths."]

/-- The option for the level from which on events are logged. -/
def levelOption : OptionSpec Arguments :=
  ⟨["--log-level"], .value [] fun level arguments =>
    { arguments with logLevel := some level }⟩

/-- The option for the file of the log. -/
def fileOption : OptionSpec Arguments :=
  ⟨["--log-file"], .value [] fun file arguments =>
    { arguments with logFile := some file }⟩

/-- The option for the form of the log. -/
def formatOption : OptionSpec Arguments :=
  ⟨["--log-format"], .value logFormats fun format arguments =>
    { arguments with logFormat := some format }⟩

/-- The option for working in a sandbox. -/
def testModeOption : OptionSpec Arguments :=
  ⟨["--test-mode"], .flag fun arguments => { arguments with testMode := true }⟩

/-- The first stage: the options of the whole program. -/
def programStage : Stage Arguments where
  program := "vxcore"
  usage := programUsage
  help := programHelp
  options := [helpOption, levelOption, fileOption, formatOption, testModeOption]
  selector := some ⟨"cmd", "config", withWord "config"⟩

/-- The second stage: what to do with the configuration. -/
def configStage : Stage Arguments where
  program := "vxcore config"
  usage := configUsage
  help := configHelp
  options := [helpOption]
  selector := some ⟨"cfg_cmd", "dump", withWord "dump"⟩

/-- The last stage: what to show. -/
def dumpStage : Stage Arguments where
  program := "vxcore config dump"
  usage := dumpUsage
  help := dumpHelp
  options :=
    [helpOption,
      ⟨["--paths-only"], .flag fun arguments =>
        { arguments with pathsOnly := true }⟩]
  selector := none

/-- The action that shows the configuration and the session. -/
def dumpAction : Text := "cmd_config_dump"

/--
The stages of a command line, given the names of the actions that there are.
-/
def stages
    (actions : List Text) :
    Except MissingAction (List (Stage Arguments)) :=
  if actions.contains dumpAction then .ok [programStage, configStage, dumpStage]
  else .error ⟨dumpAction⟩

/-- Reads a command line. -/
def ofWords (convention : Convention) (words : List Text) :
    Except Exit Arguments :=
  parse convention [programStage, configStage, dumpStage] words {}

end Arguments

end SettingsStore.CommandLine
