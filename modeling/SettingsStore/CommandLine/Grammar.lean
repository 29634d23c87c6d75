import SettingsStore.Text.Printable
import SettingsStore.Text.Quoted

/-!
# Command-line grammars

A command line is read in stages.  Each stage knows options; all but the last
expect the name of a command, which hands what follows it to the next stage.
An option may be abbreviated as long as it stays the only one with that
beginning.  A word that looks like an option but is none, and a word that no
stage expects, are left over and make the whole line fail once everything else
was in order.

Two conventions are in use for the text that stands in one word with the name
of an option; a line is read under one of them.
-/

namespace SettingsStore.CommandLine

/-- How the text in one word with the name of an option is read. -/
inductive Convention where
  /--
  Two dashes alone are taken away from a value.  Behind a short option that
  takes no value stand more of them and nothing else.
  -/
  | older
  /--
  A value is whatever is given.  Behind a short option that takes no value the
  word is left over from the first character on that is none.
  -/
  | newer
  deriving DecidableEq

/-- What an option is given for its value. -/
inductive OptionValue where
  | text (text : Text)
  /-- Two dashes alone, which were taken away. -/
  | nothing
  deriving DecidableEq

/-- The text of a value, if there is any. -/
def OptionValue.text? : OptionValue → Option Text
  | .text given => some given
  | .nothing => none

/-- What an option does to the settings. -/
inductive OptionKind (Settings : Type) where
  | help
  | flag (apply : Settings → Settings)
  /-- Takes a value, one of the choices unless there are none. -/
  | value (choices : List Text) (apply : OptionValue → Settings → Settings)

/-- An option with the names that it goes by. -/
structure OptionSpec (Settings : Type) where
  names : List Text
  kind : OptionKind Settings

/-- The command that a stage expects. -/
structure Selector (Settings : Type) where
  /-- What the command is called in messages. -/
  key : Text
  command : Text
  apply : Settings → Settings

/-- One stage of a command line. -/
structure Stage (Settings : Type) where
  program : Text
  usage : Text
  help : Text
  options : List (OptionSpec Settings)
  selector : Option (Selector Settings)

/-- Why reading a command line ended without settings. -/
inductive Exit where
  /-- Help was asked for. -/
  | help (text : Text)
  /-- The line is wrong. -/
  | failure (usage program message : Text)
  deriving DecidableEq

namespace Exit

/-- The code with which the program ends. -/
def code : Exit → Nat
  | .help _ => 0
  | .failure _ _ _ => 2

/-- What is written to the standard output. -/
def output : Exit → Text
  | .help text => text
  | .failure _ _ _ => ""

/-- What is written to the error output. -/
def errorOutput : Exit → Text
  | .help _ => ""
  | .failure usage program message =>
      usage ++ program ++ ": error: " ++ message ++ "\n"

end Exit

/-- What stands between the name of an option and a text in the same word. -/
inductive Joint where
  /-- An equals sign behind a name with two dashes. -/
  | long
  /-- An equals sign behind a short name. -/
  | short
  /-- Nothing: the text follows a short name. -/
  | none
  deriving DecidableEq

/-- The joint that an equals sign behind a name is. -/
def Joint.behind (name : Text) : Joint :=
  if name.startsWith "--" then .long else .short

/-- A word as a stage takes it. -/
inductive Word (Settings : Type) where
  | plain (text : Text)
  /-- The word `--`, after which all words are plain. -/
  | dashes
  /-- An option, and the text behind its name with the joint between them. -/
  | known (option : OptionSpec Settings) (joint : Joint) (value : Option Text)
  | unknown (text : Text)

/-- A negative number is not taken for an option, nor if a line feed ends it. -/
def isNegativeNumber (text : Text) : Bool :=
  let body : Text := if text.endsWith "\n" then text.dropLast else text
  match body.after? '-' with
  | none => false
  | some digits =>
    let whole := digits.takeWhile CodePoint.isDecimalDigit
    match digits.dropWhile CodePoint.isDecimalDigit with
    | [] => !whole.isEmpty
    | point :: fraction =>
      point = '.' && !fraction.isEmpty && fraction.all CodePoint.isDecimalDigit

/-- The mark between the name of an option and its value. -/
def isEquals (point : CodePoint) : Bool :=
  point = '='

/--
The text before the first equals sign, and the text after it if there is one.
-/
def splitEquals (text : Text) : Text × Option Text :=
  match text.dropWhile (!isEquals ·) with
  | [] => (text, none)
  | _ :: value => (text.takeWhile (!isEquals ·), some value)

namespace Stage

variable {Settings : Type}

/-- The names of options with the options that they stand for. -/
def optionNames (stage : Stage Settings) : List (Text × OptionSpec Settings) :=
  stage.options.flatMap fun option =>
    option.names.map fun name => (name, option)

/-- The failure of a line at this stage. -/
def fail (stage : Stage Settings) (message : Text) : Exit :=
  .failure stage.usage stage.program message

/-- The failure of an option. -/
def failOption
    (stage : Stage Settings)
    (option : OptionSpec Settings)
    (message : Text) :
    Exit :=
  stage.fail ("argument " ++ Text.intercalate "/" option.names ++
      ": " ++ message)

/-- The complaint about a word that is none of the choices. -/
def invalidChoice (text : Text) (choices : List Text) : Text :=
  "invalid choice: " ++ text.quoted ++ " (choose from " ++
    Text.intercalate ", " (choices.map Text.quoted) ++ ")"

/--
The options that a word may abbreviate or begin with, each with its name and
the text after that.
-/
def candidates (stage : Stage Settings) (text : Text) :
    List (Text × OptionSpec Settings × Joint × Option Text) :=
  if text.startsWith "--" then
    let (beginning, value) := splitEquals text
    (stage.optionNames.filter fun entry => entry.1.startsWith beginning).map
      fun entry => (entry.1, entry.2, .long, value)
  else
    stage.optionNames.filterMap fun entry =>
      if entry.1 = text.take 2 then
        some (entry.1, entry.2, .none, some (text.drop 2))
      else if entry.1.startsWith text then
        some (entry.1, entry.2, Joint.behind entry.1, none)
      else none

/-- How a stage takes a word. -/
def classify
    (stage : Stage Settings)
    (text : Text) :
    Except Exit (Word Settings) :=
  if !text.startsWith "-" then .ok (.plain text)
  else
    match stage.optionNames.lookup text with
    | some option => .ok (.known option (Joint.behind text) none)
    | none =>
      if text.length = 1 then .ok (.plain text)
      else
        let (name, value) := splitEquals text
        match value, stage.optionNames.lookup name with
        | some value, some option =>
          .ok (.known option (Joint.behind name) (some value))
        | _, _ =>
          match stage.candidates text with
          | [(_, option, joint, value)] => .ok (.known option joint value)
          | [] =>
            if isNegativeNumber text || text.contains ' ' then .ok (.plain text)
            else .ok (.unknown text)
          | several =>
            .error
              (stage.fail ("ambiguous option: " ++ text ++ " could match " ++
              Text.intercalate ", " (several.map (·.1))))

/-- The words of a line, each with its text. -/
def classifyAll (stage : Stage Settings) :
    List Text → Except Exit (List (Text × Word Settings))
  | [] => .ok []
  | text :: rest =>
    if text = "--" then
      .ok ((text, .dashes) :: rest.map fun text => (text, .plain text))
    else
      match stage.classify text with
      | .error exit => .error exit
      | .ok word =>
        match classifyAll stage rest with
        | .error exit => .error exit
        | .ok words => .ok ((text, word) :: words)

/-- The name of a short option. -/
def shortName (mark : CodePoint) : Text :=
  ['-', mark]

/-- The failure of an option that takes no value but was given a text. -/
def refuse
    (stage : Stage Settings)
    (option : OptionSpec Settings)
    (text : Text) :
    Exit :=
  stage.failOption option ("ignored explicit argument " ++ text.quoted)

/--
What is left of a text behind a short option: marks that are short options
themselves are taken off, one after the other.
-/
def afterCluster (stage : Stage Settings) (text : Text) : Text :=
  text.dropWhile fun mark =>
    (stage.optionNames.lookup (shortName mark)).isSome

/--
The failure of an option that takes no value, by the text that it is given
under the older convention.  More short options may make up the text, of which
help is the only one, but not a text of nothing.
-/
def refuseValue
    (stage : Stage Settings)
    (option : OptionSpec Settings)
    (joint : Joint)
    (text : Text) :
    Option Exit :=
  let refused := if joint = .long then text else stage.afterCluster text
  if text ≠ "" ∧ refused = "" then none
  else some (stage.refuse option refused)

/--
The words that a text leaves over under the newer convention where it is given
to an option that takes no value, or the failure of that.  Directly behind a
short option more short options may stand; from the first mark on that is none
the text is left over, as a word with a dash in front.
-/
def readCluster (stage : Stage Settings) (option : OptionSpec Settings) :
    Joint → Text → Except Exit (List Text)
  | .none, mark :: rest =>
    if mark = '-' then .error (stage.refuse option (mark :: rest))
    else
      match stage.optionNames.lookup (shortName mark), rest with
      | none, _ => .ok ['-' :: mark :: rest]
      | some _, [] => .ok []
      | some option, following :: value =>
        if isEquals following then readCluster stage option .short value
        else readCluster stage option .none (following :: value)
  | _, text => .error (stage.refuse option text)

/--
What becomes of the text behind an option that takes no value: the words that
are left over of it, or the failure of the option.
-/
def passOver
    (stage : Stage Settings)
    (convention : Convention)
    (option : OptionSpec Settings)
    (joint : Joint) :
    Option Text → Except Exit (List Text)
  | none => .ok []
  | some text =>
    match convention with
    | .older =>
      match stage.refuseValue option joint text with
      | some exit => .error exit
      | none => .ok []
    | .newer => stage.readCluster option joint text

/-- What becomes of the settings by an option with the text for its value. -/
def takeValue
    (stage : Stage Settings)
    (convention : Convention)
    (option : OptionSpec Settings)
    (choices : List Text)
    (apply : OptionValue → Settings → Settings)
    (given : Text)
    (settings : Settings) :
    Except Exit Settings :=
  if convention = .older ∧ given = "--" then .ok (apply .nothing settings)
  else if choices.isEmpty || choices.contains given then
    .ok (apply (.text given) settings)
  else .error (stage.failOption option (invalidChoice given choices))

/--
What a word comes to where a stage expects a command: the next stage reads what
follows.
-/
def readCommand
    (stage : Stage Settings)
    (next : List Text → Settings → Except Exit (Settings × List Text))
    (name : Text)
    (following : List (Text × Word Settings))
    (settings : Settings)
    (leftOver : List Text) :
    Option (Except Exit (Settings × List Text)) :=
  stage.selector.map fun selector =>
    if name = selector.command then
      match next (following.map (·.1)) (selector.apply settings) with
      | .error exit => .error exit
      | .ok (settings, more) => .ok (settings, leftOver ++ more)
    else
      .error (stage.fail ("argument " ++ selector.key ++ ": " ++
        invalidChoice name [selector.command]))

/--
Reads a stage word by word; how the next stage reads what follows a command is
given.
-/
def readWords
    (stage : Stage Settings)
    (convention : Convention)
    (next : List Text → Settings → Except Exit (Settings × List Text)) :
    List (Text × Word Settings) → Settings → List Text →
      Except Exit (Settings × List Text)
  | [], settings, leftOver =>
    match stage.selector with
    | none => .ok (settings, leftOver)
    | some selector =>
      .error
        (stage.fail ("the following arguments are required: " ++ selector.key))
  | (text, word) :: rest, settings, leftOver =>
    match word with
    | .plain name =>
      match stage.readCommand next name rest settings leftOver with
      | some result => result
      | none =>
        readWords stage convention next rest settings (leftOver ++ [text])
    | .dashes =>
      match
        if rest.isEmpty then none
        else stage.readCommand next text rest settings leftOver
      with
      | some result => result
      | none =>
        readWords stage convention next rest settings (leftOver ++ [text])
    | .unknown _ =>
      readWords stage convention next rest settings (leftOver ++ [text])
    | .known option joint value =>
      match option.kind with
      | .help =>
        match stage.passOver convention option joint value with
        | .error exit => .error exit
        | .ok _ => .error (.help stage.help)
      | .flag apply =>
        match stage.passOver convention option joint value with
        | .error exit => .error exit
        | .ok more =>
          readWords stage convention next rest (apply settings)
            (leftOver ++ more)
      | .value choices apply =>
        let take := stage.takeValue convention option choices apply
        match value with
        | some given =>
          match take given settings with
          | .error exit => .error exit
          | .ok settings =>
            readWords stage convention next rest settings leftOver
        | none =>
          match rest with
          | (_, .plain given) :: following =>
            match take given settings with
            | .error exit => .error exit
            | .ok settings =>
              readWords stage convention next following settings leftOver
          | _ => .error (stage.failOption option "expected one argument")

end Stage

variable {Settings : Type}

/--
Reads words through the stages; the words that no stage took are left over.
-/
def readStages (convention : Convention) :
    List (Stage Settings) → List Text → Settings →
      Except Exit (Settings × List Text)
  | [], words, settings => .ok (settings, words)
  | stage :: stages, words, settings =>
    match stage.classifyAll words with
    | .error exit => .error exit
    | .ok words =>
      stage.readWords convention (readStages convention stages) words
        settings []

/-- The settings of a command line. -/
def parse
    (convention : Convention)
    (stages : List (Stage Settings))
    (words : List Text)
    (defaults : Settings) :
    Except Exit Settings :=
  match readStages convention stages words defaults with
  | .error exit => .error exit
  | .ok (settings, []) => .ok settings
  | .ok (settings, leftOver) =>
    match stages.head? with
    | none => .ok settings
    | some stage =>
      .error
        (stage.fail ("unrecognized arguments: " ++
          Text.intercalate " " leftOver))

end SettingsStore.CommandLine
