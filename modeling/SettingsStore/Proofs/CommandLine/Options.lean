import Mathlib.Data.List.Forall2
import SettingsStore.CommandLine.Arguments
import SettingsStore.Proofs.Lookup

/-!
# Options before the command

The options of the whole program may stand in any order and any number of times,
each with its full name or with a beginning that it shares with no other.  Such
a beginning leaves one candidate, so that every word is taken for the option it
gives; the options are then carried out one after the other, and for each of
them the last one wins.  The form of the log is checked every time it is given,
and the first one that does not exist is the end of it.
-/

namespace SettingsStore.CommandLine

/-- What stands behind the name of an option for its value. -/
def valueSuffix : Option Text → Text
  | none => []
  | some value => "=" ++ value

/-- A text has no equals sign in it. -/
abbrev Unmarked (text : Text) : Prop :=
  text.any isEquals = false

/-- A text without an equals sign is split off from the value behind it. -/
theorem splitEquals_append
    {name : Text}
    (unmarked : Unmarked name)
    (value : Option Text) :
    splitEquals (name ++ valueSuffix value) = (name, value) := by
  have passed : ∀ point ∈ name, (!isEquals point) = true := by
    intro point member
    rw [Bool.not_eq_true', Bool.eq_false_iff]
    exact List.any_eq_false.mp unmarked point member
  rw [splitEquals, List.dropWhile_append_of_pos passed,
    List.takeWhile_append_of_pos passed]
  cases value with
  | none => rw [valueSuffix, List.dropWhile_nil, List.append_nil]
  | some value =>
      rw [valueSuffix]
      exact congrArg (·, some value) (List.append_nil name)

namespace Stage

variable {Settings : Type} {stage : Stage Settings}
  {option : OptionSpec Settings} {beginning name : Text}

/-- The names by which a stage knows options. -/
def names (stage : Stage Settings) : List Text :=
  stage.optionNames.map Prod.fst

/--
A name in full, or a beginning of it with which no other name of the stage
begins.
-/
def Abbreviates (stage : Stage Settings) (beginning name : Text) : Prop :=
  beginning = name ∨ beginning <+: name ∧
    ∀ other ∈ stage.names, beginning <+: other → other = name

/-- No two options share a name, and no name has an equals sign. -/
structure Regular (stage : Stage Settings) : Prop where
  distinct : stage.names.Nodup
  unmarked : ∀ name ∈ stage.names, Unmarked name

theorem Abbreviates.isPrefix
    (abbreviates : stage.Abbreviates beginning name) :
    beginning <+: name := by
  rcases abbreviates with rfl | ⟨beginning, -⟩
  · exact List.prefix_rfl
  · exact beginning

/--
What is looked up by a beginning is the option, if it is the full name, and
nothing otherwise.
-/
theorem lookup_beginning
    (regular : stage.Regular)
    (among : (name, option) ∈ stage.optionNames)
    (abbreviates : stage.Abbreviates beginning name) :
    stage.optionNames.lookup beginning = if beginning =
      name then some option else none := by
  split
  case isTrue full =>
    rw [full]
    exact lookup_of_mem regular.distinct among
  case isFalse short =>
    obtain ⟨-, only⟩ := abbreviates.resolve_left short
    refine Option.eq_none_iff_forall_ne_some.mpr fun other found => ?_
    exact short
      (only beginning (List.mem_map_of_mem (mem_of_lookup found))
        List.prefix_rfl)

theorem unmarked_beginning
    (regular : stage.Regular)
    (among : (name, option) ∈ stage.optionNames)
    (abbreviates : stage.Abbreviates beginning name) :
    Unmarked beginning := by
  have unmarked :=
    List.any_eq_false.mp (regular.unmarked name (List.mem_map_of_mem among))
  exact List.any_eq_false.mpr fun point member =>
    unmarked point (abbreviates.isPrefix.subset member)

/-- A beginning that is not the full name leaves one candidate. -/
theorem candidates_beginning
    (regular : stage.Regular)
    (among : (name, option) ∈ stage.optionNames)
    (abbreviates : stage.Abbreviates beginning name)
    (dashed : "--" <+: beginning)
    (short : beginning ≠ name)
    (value : Option Text) :
    stage.candidates (beginning ++ valueSuffix value) =
      [(name, option, .long, value)] := by
  obtain ⟨isPrefix, only⟩ := abbreviates.resolve_left short
  have starts : (beginning ++ valueSuffix value).startsWith "--" = true :=
    List.isPrefixOf_iff_prefix.mpr (dashed.trans (List.prefix_append _ _))
  have chosen :
      ∀ entry ∈ stage.optionNames,
        entry.1.startsWith beginning = decide (entry.1 = name) := by
    intro entry member
    rw [Bool.eq_iff_iff, decide_eq_true_iff]
    refine ⟨fun begins => ?_, fun same => ?_⟩
    · exact only entry.1 (List.mem_map_of_mem member)
        (List.isPrefixOf_iff_prefix.mp begins)
    · rw [same]
      exact List.isPrefixOf_iff_prefix.mpr isPrefix
  rw [candidates, if_pos starts,
    splitEquals_append (unmarked_beginning regular among abbreviates)]
  dsimp only
  rw [List.filter_congr chosen, filter_key_of_mem regular.distinct among]
  rfl

/-- No name of an option has a value behind it. -/
theorem lookup_withValue
    (regular : stage.Regular)
    (beginning value : Text) :
    stage.optionNames.lookup (beginning ++ valueSuffix (some value)) =
      none := by
  refine Option.eq_none_iff_forall_ne_some.mpr fun option found => ?_
  have unmarked :=
    List.any_eq_false.mp
      (regular.unmarked _ (List.mem_map_of_mem (mem_of_lookup found)))
  exact unmarked '=' (List.mem_append_right _ (List.mem_cons_self ..))
    (by decide)

/--
A word that begins like one option alone, and with two dashes, is taken for it
with the value behind the equals sign.
-/
theorem classify_beginning
    (regular : stage.Regular)
    (among : (name, option) ∈ stage.optionNames)
    (abbreviates : stage.Abbreviates beginning name)
    (dashed : "--" <+: beginning)
    (value : Option Text) :
    stage.classify (beginning ++ valueSuffix value) =
      .ok (.known option .long value) := by
  have dash : Text.ofString "-" <+: "--" := ⟨"-", rfl⟩
  have starts : (beginning ++ valueSuffix value).startsWith "-" = true :=
    List.isPrefixOf_iff_prefix.mpr
      ((dash.trans dashed).trans (List.prefix_append _ _))
  have double : Joint.behind beginning = .long :=
    if_pos (List.isPrefixOf_iff_prefix.mpr dashed)
  have long : (beginning ++ valueSuffix value).length ≠ 1 := by
    have two : 2 ≤ beginning.length := dashed.length_le
    rw [List.length_append]
    omega
  have parts :=
    splitEquals_append (unmarked_beginning regular among abbreviates) value
  have found := lookup_beginning regular among abbreviates
  have chosen :=
    fun short =>
      candidates_beginning regular among abbreviates dashed short value
  rw [classify, starts, Bool.not_true, if_neg Bool.false_ne_true]
  cases value with
  | none =>
      rw [valueSuffix, List.append_nil] at long parts chosen ⊢
      rw [found]
      by_cases full : beginning = name
      · rw [if_pos full]
        dsimp only
        rw [double]
      · rw [if_neg full]
        dsimp only
        rw [if_neg long, parts]
        dsimp only
        rw [chosen full]
  | some value =>
      rw [lookup_withValue regular]
      dsimp only
      rw [if_neg long, parts]
      dsimp only
      rw [found]
      by_cases full : beginning = name
      · rw [if_pos full]
        dsimp only
        rw [double]
      · rw [if_neg full]
        dsimp only
        rw [chosen full]

section

variable
  {convention : Convention}
  {choices : List Text}
  {apply : OptionValue → Settings → Settings}
  {value : Text}

/-- A value is taken if there are no choices or it is one of them. -/
theorem takeValue_of_choice
    (proper : value ≠ "--")
    (choice : choices = [] ∨ value ∈ choices)
    (settings : Settings) :
    stage.takeValue convention option choices apply value settings =
      .ok (apply (.text value) settings) := by
  have taken : (choices.isEmpty || choices.contains value) = true := by
    rw [Bool.or_eq_true, List.isEmpty_iff, List.contains_iff_mem]
    exact choice
  rw [takeValue, if_neg (mt And.right proper), if_pos taken]

/-- A value is refused if there are choices and it is none of them. -/
theorem takeValue_of_no_choice
    (proper : value ≠ "--")
    (choice : ¬ (choices = [] ∨ value ∈ choices))
    (settings : Settings) :
    stage.takeValue convention option choices apply value settings =
      .error (stage.failOption option (invalidChoice value choices)) := by
  have refused : ¬ (choices.isEmpty || choices.contains value) = true := by
    rw [Bool.or_eq_true, List.isEmpty_iff, List.contains_iff_mem]
    exact choice
  rw [takeValue, if_neg (mt And.right proper), if_neg refused]

end

end Stage

open Arguments

/-- An option of the whole program, with its value if it takes one. -/
inductive GivenOption where
  | logLevel (level : Text)
  | logFile (file : Text)
  | logFormat (format : Text)
  | testMode
  deriving DecidableEq

namespace GivenOption

/-- The name of an option. -/
def name : GivenOption → Text
  | .logLevel _ => "--log-level"
  | .logFile _ => "--log-file"
  | .logFormat _ => "--log-format"
  | .testMode => "--test-mode"

/-- The value that is given with an option. -/
def value? : GivenOption → Option Text
  | .logLevel value | .logFile value | .logFormat value => some value
  | .testMode => none

/-- The level, if that is what is given. -/
def level? : GivenOption → Option Text
  | .logLevel level => some level
  | _ => none

/-- The file, if that is what is given. -/
def file? : GivenOption → Option Text
  | .logFile file => some file
  | _ => none

/-- The form, if that is what is given. -/
def format? : GivenOption → Option Text
  | .logFormat format => some format
  | _ => none

/--
An option is given with a form of the log that there is, or with something else.
-/
def Admitted (given : GivenOption) : Prop :=
  ∀ format, given.format? = some format → format ∈ logFormats

/--
A word gives an option: its name, in full or as a beginning that no other name
has, and behind an equals sign the value if it takes one.  Two dashes alone are
not taken for a value.
-/
def Gives (word : Text) (given : GivenOption) : Prop :=
  given.value? ≠ some "--" ∧
    ∃ beginning, programStage.Abbreviates beginning given.name ∧
      word = beginning ++ valueSuffix given.value?

/-- How the grammar specifies an option. -/
def spec : GivenOption → OptionSpec Arguments
  | .logLevel _ => levelOption
  | .logFile _ => fileOption
  | .logFormat _ => formatOption
  | .testMode => testModeOption

/-- What an option does to what the line says. -/
def apply (given : GivenOption) (arguments : Arguments) : Arguments :=
  match given with
  | .logLevel level => { arguments with logLevel := some (.text level) }
  | .logFile file => { arguments with logFile := some (.text file) }
  | .logFormat format => { arguments with logFormat := some (.text format) }
  | .testMode => { arguments with testMode := true }

/-- The names of the options that can be given. -/
def allNames : List Text :=
  ["--log-level", "--log-file", "--log-format", "--test-mode"]

theorem name_mem (given : GivenOption) : given.name ∈ allNames := by
  cases given <;> exact List.mem_of_elem_eq_true rfl

theorem regular_programStage : programStage.Regular :=
  ⟨by decide, by decide⟩

theorem mem_optionNames
    (given : GivenOption) :
    (given.name, given.spec) ∈ programStage.optionNames := by
  cases given <;> simp [Stage.optionNames, programStage, name, spec,
    levelOption, fileOption, formatOption, testModeOption]

section

variable {given : GivenOption} {beginning word : Text}

/--
What abbreviates an option goes beyond the two dashes, with which other names
begin as well.
-/
theorem not_isPrefix_dashes
    (abbreviates : programStage.Abbreviates beginning given.name) :
    ¬ beginning <+: "--" := by
  have longer : ∀ name ∈ allNames, ¬ name <+: "--" := by decide
  have notHelp : ∀ name ∈ allNames, Text.ofString "--help" ≠ name := by decide
  intro few
  rcases abbreviates with rfl | ⟨-, only⟩
  · exact longer _ given.name_mem few
  · exact notHelp _ given.name_mem
      (only "--help" (by decide) (few.trans (by decide)))

theorem dashes_isPrefix
    (abbreviates : programStage.Abbreviates beginning given.name) :
    "--" <+: beginning := by
  have dashed : ∀ name ∈ allNames, "--" <+: name := by decide
  exact (List.prefix_or_prefix_of_prefix
      (dashed _ given.name_mem) abbreviates.isPrefix).resolve_right
      (not_isPrefix_dashes abbreviates)

/-- A word that gives an option is taken for it. -/
theorem Gives.classify
    (gives : Gives word given) :
    word ≠ "--" ∧ programStage.classify word =
      .ok (.known given.spec .long given.value?) := by
  obtain ⟨-, beginning, abbreviates, rfl⟩ := gives
  constructor
  · intro dashes
    exact not_isPrefix_dashes abbreviates (dashes ▸ List.prefix_append _ _)
  · exact Stage.classify_beginning regular_programStage given.mem_optionNames
      abbreviates (dashes_isPrefix abbreviates) _

end

/-- The words that give options, as the first stage takes them. -/
def taken
    (words : List Text)
    (given : List GivenOption) :
    List (Text × Word Arguments) :=
  List.zipWith (fun word option =>
      (word, .known option.spec .long option.value?)) words given

/--
Words that give options are taken for them, and what stands behind is taken as
it is without them.
-/
theorem classifyAll_given
    {given : List GivenOption}
    {words : List Text}
    (gives : List.Forall₂ Gives words given)
    {rest : List Text}
    {behind : List (Text × Word Arguments)}
    (classified : programStage.classifyAll rest = .ok behind) :
    programStage.classifyAll (words ++ rest) =
      .ok (taken words given ++ behind) := by
  induction gives with
  | nil => exact classified
  | @cons word option words given first others induction =>
      obtain ⟨notDashes, known⟩ := first.classify
      rw [List.cons_append, Stage.classifyAll, if_neg notDashes,
        known, induction]
      rfl

/-- What a line says after options in order. -/
def applyAll (given : List GivenOption) (arguments : Arguments) : Arguments :=
  given.foldl (fun arguments option => option.apply arguments) arguments

/--
Of values one after the other the first one counts only if it is the last.
-/
theorem or_getLast?_cons
    (value : Text)
    (values : List Text)
    (before : Option OptionValue) :
    ((value :: values).getLast?.map OptionValue.text).or before =
      (values.getLast?.map .text).or (some (.text value)) := by
  rw [List.getLast?_cons]
  cases values.getLast? <;> rfl

/--
Of each setting the last value given counts, or else what was there before.
-/
theorem applyAll_eq
    (given : List GivenOption)
    (arguments : Arguments) :
    applyAll given arguments =
      { arguments with
        logLevel :=
          ((given.filterMap level?).getLast?.map .text).or arguments.logLevel
        logFile :=
          ((given.filterMap file?).getLast?.map .text).or arguments.logFile
        logFormat :=
          ((given.filterMap format?).getLast?.map .text).or arguments.logFormat
        testMode := given.contains .testMode || arguments.testMode } := by
  induction given generalizing arguments with
  | nil => rfl
  | cons option given induction =>
      rw [applyAll, List.foldl_cons, ← applyAll, induction]
      cases option <;>
        simp [apply, level?, file?, format?, List.filterMap_cons,
          or_getLast?_cons, -List.getLast?_filterMap]


section

variable
  {convention : Convention}
  {next : List Text → Arguments → Except Exit (Arguments × List Text)}
  {word : Text}
  {behind : List (Text × Word Arguments)}
  {arguments : Arguments}
  {leftOver : List Text}
  {given : GivenOption}

/-- An option that is admitted is carried out. -/
theorem readWords_admitted
    (proper : given.value? ≠ some "--")
    (admitted : given.Admitted) :
    programStage.readWords convention
      next ((word, .known given.spec .long given.value?) :: behind)
      arguments leftOver =
      programStage.readWords convention next behind
        (given.apply arguments) leftOver := by
  rw [Stage.readWords]
  cases given with
  | logLevel level =>
      simp only [spec, levelOption, value?]
      rw [Stage.takeValue_of_choice (mt (congrArg some) proper) (.inl rfl)]
      rfl
  | logFile file =>
      simp only [spec, fileOption, value?]
      rw [Stage.takeValue_of_choice (mt (congrArg some) proper) (.inl rfl)]
      rfl
  | logFormat format =>
      simp only [spec, formatOption, value?]
      rw [Stage.takeValue_of_choice (mt (congrArg some) proper)
          (.inr (admitted format rfl))]
      rfl
  | testMode =>
      simp only [spec, testModeOption, value?, Stage.passOver, List.append_nil]
      rfl

/-- A form of the log that there is not is the end of the line. -/
theorem readWords_refused
    (proper : given.value? ≠ some "--")
    (refused : ¬ given.Admitted) :
    ∃ message,
      programStage.readWords convention
        next ((word, .known given.spec .long given.value?) :: behind)
        arguments leftOver =
        .error (programStage.fail message) := by
  simp only [Admitted, not_forall] at refused
  obtain ⟨format, known, absent⟩ := refused
  cases given with
  | logFormat form =>
      cases known
      have noChoice : ¬ (logFormats = [] ∨ format ∈ logFormats) :=
        not_or.mpr ⟨List.cons_ne_nil _ _, absent⟩
      rw [Stage.readWords]
      simp only [spec, formatOption, value?]
      rw [Stage.takeValue_of_no_choice (mt (congrArg some) proper) noChoice]
      exact ⟨_, rfl⟩
  | logLevel | logFile | testMode => cases known

end

section

variable
  {convention : Convention}
  {next : List Text → Arguments → Except Exit (Arguments × List Text)}
  {given : List GivenOption}
  {words : List Text}

/-- Options that are all admitted are carried out in order. -/
theorem readWords_taken
    (gives : List.Forall₂ Gives words given)
    (admitted : ∀ option ∈ given, option.Admitted)
    (behind : List (Text × Word Arguments))
    (arguments : Arguments)
    (leftOver : List Text) :
    programStage.readWords convention next (taken words given ++ behind)
      arguments leftOver =
      programStage.readWords convention next behind
        (applyAll given arguments) leftOver := by
  induction gives generalizing arguments with
  | nil => rfl
  | @cons word option words given first others induction =>
      obtain ⟨here, admitted⟩ := List.forall_mem_cons.mp admitted
      rw [taken, List.zipWith_cons_cons, ← taken, List.cons_append,
        readWords_admitted first.1 here, induction admitted]
      rfl

/-- Options of which one is not admitted are the end of the line. -/
theorem readWords_taken_refused
    (gives : List.Forall₂ Gives words given)
    (refused : ¬ ∀ option ∈ given, option.Admitted)
    (behind : List (Text × Word Arguments))
    (arguments : Arguments)
    (leftOver : List Text) :
    ∃ message,
      programStage.readWords convention next (taken words given ++ behind)
        arguments leftOver =
        .error (programStage.fail message) := by
  induction gives generalizing arguments with
  | nil => exact absurd nofun refused
  | @cons word option words given first others induction =>
      rw [taken, List.zipWith_cons_cons, ← taken, List.cons_append]
      by_cases here : option.Admitted
      · rw [readWords_admitted first.1 here]
        exact induction (fun admitted =>
            refused (List.forall_mem_cons.mpr ⟨here, admitted⟩)) _
      · exact readWords_refused first.1 here

end

end GivenOption

open GivenOption

/--
The words of the command, and the option behind it if only the paths are asked
for.
-/
def commandWords (pathsOnly : Bool) : List Text :=
  "config" :: "dump" :: if pathsOnly then ["--paths-only"] else []

/-- The words behind the options, as the first stage takes them. -/
def takenCommand (pathsOnly : Bool) : List (Text × Word Arguments) :=
  ("config", .plain "config") :: ("dump", .plain "dump") ::
    if pathsOnly then [("--paths-only", .unknown "--paths-only")] else []

theorem classifyAll_command (pathsOnly : Bool) :
    programStage.classifyAll (commandWords pathsOnly) =
      .ok (takenCommand pathsOnly) := by
  cases pathsOnly <;> rfl

/--
What a line with only the command says is what was there before, and the
command.
-/
theorem readWords_command
    (convention : Convention)
    (pathsOnly : Bool)
    (arguments : Arguments) :
    programStage.readWords convention
      (readStages convention [configStage, dumpStage])
        (takenCommand pathsOnly) arguments [] =
      .ok
        ({ withWord "dump" (withWord "config" arguments) with
          pathsOnly := pathsOnly || arguments.pathsOnly }, []) := by
  cases pathsOnly <;> rfl

/--
In front of the command the options may stand in any order and any number of
times, each with its full name or with a beginning that no other has.  If every
form of the log that is given is one that there is, the line says for each
setting the value that was given last, or none.  Otherwise the line is wrong:
the code is two, and nothing is put out.
-/
theorem ofWords_given
    (convention : Convention)
    {given : List GivenOption}
    {words : List Text}
    (gives : List.Forall₂ Gives words given)
    (pathsOnly : Bool) :
    ((∀ option ∈ given, option.Admitted) →
      ofWords convention (words ++ commandWords pathsOnly) =
        .ok
          { logLevel := (given.filterMap level?).getLast?.map .text
            logFile := (given.filterMap file?).getLast?.map .text
            logFormat := (given.filterMap format?).getLast?.map .text
            testMode := given.contains .testMode
            pathsOnly
            command := ["config", "dump"] }) ∧
      ((¬ ∀ option ∈ given, option.Admitted) →
        ∃ exit, ofWords convention (words ++ commandWords pathsOnly) =
          .error exit ∧ exit.code = 2 ∧ exit.output = "") := by
  have classified := classifyAll_given gives (classifyAll_command pathsOnly)
  constructor
  · intro admitted
    rw [ofWords, parse, readStages, classified]
    dsimp only
    rw [readWords_taken gives admitted, readWords_command, applyAll_eq]
    simp [withWord]
  · intro refused
    obtain ⟨message, stopped⟩ :=
      @readWords_taken_refused convention
        (readStages convention [configStage, dumpStage]) _ _ gives refused
        (takenCommand pathsOnly) {} []
    refine ⟨programStage.fail message, ?_, rfl, rfl⟩
    rw [ofWords, parse, readStages, classified]
    dsimp only
    rw [stopped]

/--
Of two levels the last one is taken, abbreviated or not and with what it holds;
a form that there is not is refused.
-/
theorem ofWords_given_abbreviated :
    ofWords .newer ["--log-le=info", "--t", "--log-form=text",
      "--log-level=a=b --", "config", "dump"] =
        .ok
          { logLevel := some (.text "a=b --")
            logFormat := some (.text "text")
            testMode := true
            command := ["config", "dump"] } ∧
      ∃ exit,
        ofWords .older ["--log-fo=xml", "config", "dump", "--paths-only"] =
            .error exit ∧
          exit.code = 2 ∧ exit.output = "" := by
  have info : Gives "--log-le=info" (.logLevel "info") :=
    ⟨by decide, "--log-le", .inr (by decide), rfl⟩
  have mode : Gives "--t" .testMode := ⟨by decide, "--t", .inr (by decide), rfl⟩
  have text : Gives "--log-form=text" (.logFormat "text") :=
    ⟨by decide, "--log-form", .inr (by decide), rfl⟩
  have level : Gives "--log-level=a=b --" (.logLevel "a=b --") :=
    ⟨by decide, "--log-level", .inl rfl, rfl⟩
  have markup : Gives "--log-fo=xml" (.logFormat "xml") :=
    ⟨by decide, "--log-fo", .inr (by decide), rfl⟩
  constructor
  · refine (ofWords_given .newer
        (.cons info (.cons mode (.cons text (.cons level .nil)))) false).1 ?_
    simp [Admitted, format?, logFormats]
  · refine (ofWords_given .older (.cons markup .nil) true).2 fun admitted => ?_
    exact absurd (admitted _ (List.mem_singleton_self _) "xml" rfl) (by decide)

end SettingsStore.CommandLine
