import SettingsStore.CommandLine.Run
import SettingsStore.Proofs.CommandLine.Leaving
import SettingsStore.Proofs.CommandLine.Sections
import SettingsStore.Proofs.Log.Lines
import SettingsStore.Proofs.Log.Opening

/-!
# How a command line ends

A command line that is read ends with a code: 0 once the documents were loaded
and shown, and 1 if an error of the store stopped them, which is then told in
one line on the error output, among the lines of the journal, and nowhere else.
Other ends are that of a log file that is given as nothing or refused, since the
journal is set up before anything is guarded, that of an output which refuses a
path, and those of a load whose fault is no error of the store.
-/

namespace SettingsStore

namespace Program

/--
The program once a command line was read and the journal set up as it says, in
the mode that it asks for.
-/
def ready? (program : Program) (words : List Text) : Option Program :=
  match CommandLine.Arguments.ofWords program.convention words with
  | .error _ => none
  | .ok arguments =>
    match arguments.journalOptions? with
    | none => none
    | some options =>
      match program.setUpJournal options with
      | (.error _, _) => none
      | (.ok (), program) =>
        some (if arguments.testMode then program.withTestMode true else program)

/-! ## Before and after the command -/

/-- What a program tells are lines in the form of its journal. -/
theorem Told.lines
    {before after : Program}
    {format : Log.LineFormat}
    (told : before.Told after)
    (form : before.journal.outlet.map Log.Outlet.format = some format) :
    ∃ records, after.errorOutput =
      before.errorOutput ++ format.lines records := by
  obtain ⟨records, wrote⟩ := told.errorOutput
  have line :
      before.journal.lineOf = fun record : Log.Record =>
        record.line format ++ "\n" := by
    funext record
    rw [Log.Journal.lineOf, form]
  exact ⟨records, by rw [wrote, line, Log.LineFormat.lines]⟩

/--
Once the journal is set up, it has the form that was asked for, and so have the
lines that were written.
-/
theorem told_setUpJournal
    {program ready : Program}
    {options : Log.JournalOptions}
    (wellFormed : program.host.files.WellFormed)
    (set : program.setUpJournal options = (.ok (), ready)) :
    ready.journal.outlet.map Log.Outlet.format =
      some (options.lineFormat program.host.environment) ∧
      ready.output = program.output ∧
        ∃ records,
          ready.errorOutput =
            program.errorOutput ++
              (options.lineFormat program.host.environment).lines records := by
  rw [setUpJournal] at set
  cases made : Log.Journal.setUp program.host options with
  | mk outcome files =>
      rw [made] at set
      cases outcome with
      | error fault => cases set
      | ok both =>
          obtain ⟨journal, told⟩ := both
          obtain ⟨form, event, rfl⟩ := Log.Journal.setUp_eq_ok wellFormed made
          cases set
          have told :=
            told_tell
              { program.withFiles files (fun _ => false) with journal } event
          exact ⟨told.form.trans form, told.output, told.lines form⟩

/--
Among lines of the journal in a form a program wrote an error of the store to
the error output, and it wrote nothing to the output.
-/
structure Complained
    (format : Log.LineFormat)
    (error : StoreError)
    (before after : Program) :
    Prop where
  output : after.output = before.output
  errorOutput : ∃ early late : List Log.Record,
    after.errorOutput =
      before.errorOutput ++ format.lines early ++
        ("Error: " ++ error.text ++ "\n") ++ format.lines late

section

variable
  {program : Program}
  {words : List Text}
  {arguments : CommandLine.Arguments}
  {options : Log.JournalOptions}
  (read :
    CommandLine.Arguments.ofWords program.convention words = .ok arguments)

include read

/-- With nothing for a log file there is no text to make its path of. -/
theorem run_of_noText
    (nothing : arguments.journalOptions? = none)
    (logger : Text) :
    program.ready? words = none ∧ (program.run logger words).1 = .noText := by
  rw [ready?, run, read]
  dsimp only
  rw [carryOut, nothing]
  exact ⟨rfl, rfl⟩

variable (asked : arguments.journalOptions? = some options)

include asked

/-- Without its log file a command line comes to the fault of that. -/
theorem run_of_refused
    {fault : Fault}
    (unset : (program.setUpJournal options).1 = .error fault)
    (logger : Text) :
    program.ready? words = none ∧
      (program.run logger words).1 = .fault fault := by
  rw [ready?, run, read]
  dsimp only
  rw [carryOut, asked]
  dsimp only
  generalize program.setUpJournal options = outcome at unset
  obtain ⟨outcome, set⟩ := outcome
  cases unset
  exact ⟨rfl, rfl⟩

section

variable
  {set : Program}
  (journal : program.setUpJournal options = (.ok (), set))

include journal

theorem ready?_of_set :
    program.ready? words =
      some (if arguments.testMode then set.withTestMode true else set) := by
  rw [ready?, read]
  dsimp only
  rw [asked]
  dsimp only
  rw [journal]

/--
A command line whose journal is set up does what the command does, and tells of
a code.
-/
theorem run_of_set (logger : Text) :
    program.run logger words =
      match
        (if arguments.testMode then set.withTestMode true else set).dump
          arguments.pathsOnly
      with
      | (.code code, after) =>
        (.code code, after.tell (completeEvent logger arguments code))
      | stopped => stopped := by
  rw [run, read]
  dsimp only
  rewrite [carryOut, asked]
  dsimp only
  rewrite [journal]
  rfl

end

/-- An error of the store that stops a command line is told. -/
theorem complained_of_run
    {ready : Program}
    {error : StoreError}
    (wellFormed : program.host.files.WellFormed)
    (begins : program.ready? words = some ready)
    (failed : ready.loading = .error (.store error))
    (logger : Text) :
    Complained (options.lineFormat program.host.environment) error program
      (program.run logger words).2 := by
  cases journal : program.setUpJournal options with
  | mk outcome set =>
      cases outcome with
      | error fault =>
          rw [(run_of_refused read asked (by rw [journal]) logger).1] at begins
          cases begins
      | ok =>
          rw [ready?_of_set read asked journal] at begins
          have same :
              ready.journal = set.journal ∧ ready.output = set.output ∧
                ready.errorOutput = set.errorOutput := by
            cases begins
            split <;> exact ⟨rfl, rfl, rfl⟩
          obtain ⟨form, output, first, before⟩ :=
            told_setUpJournal wellFormed journal
          rw [← same.1] at form
          obtain ⟨told, loads, dumped⟩ :=
            dump_of_failed failed arguments.pathsOnly
          obtain ⟨second, between⟩ := loads.lines form
          have last :=
            told_tell (told.complain ("Error: " ++ error.text ++ "\n"))
              (completeEvent logger arguments 1)
          obtain ⟨third, after⟩ := last.lines (loads.form.trans form)
          rw [run_of_set read asked journal, Option.some.inj begins, dumped]
          refine ⟨last.output.trans
              (loads.output.trans (same.2.1.trans output)),
              first ++ second, third, ?_⟩
          dsimp only
          rw [after, complain]
          dsimp only
          rw [between, same.2.2, before, Log.LineFormat.lines_append,
            List.append_assoc program.errorOutput]

end

/-! ## The ways of a command line -/

/-- The ways in which a command line begins, with what it then comes to. -/
inductive Course
    (program : Program)
    (logger : Text)
    (words : List Text) :
    Prop where
  | left {exit : CommandLine.Exit}
      (unread :
        CommandLine.Arguments.ofWords program.convention words = .error exit)
      (none : program.ready? words = none)
      (ends : (program.run logger words).1 = .exit exit)
  | textless {arguments : CommandLine.Arguments}
      (read :
        CommandLine.Arguments.ofWords program.convention words =
          .ok arguments)
      (nothing : arguments.logFile = some .nothing)
      (asked : arguments.journalOptions? = none)
      (none : program.ready? words = none)
      (ends : (program.run logger words).1 = .noText)
  | refused
      {arguments : CommandLine.Arguments}
      {options : Log.JournalOptions}
      {fault : Fault}
      (read :
        CommandLine.Arguments.ofWords program.convention words =
          .ok arguments)
      (text : arguments.logFile ≠ some .nothing)
      (asked : arguments.journalOptions? = some options)
      (unset : (program.setUpJournal options).1 = .error fault)
      (none : program.ready? words = none)
      (ends : (program.run logger words).1 = .fault fault)
  | carriedOut
      {arguments : CommandLine.Arguments}
      {options : Log.JournalOptions}
      {ready : Program}
      (read :
        CommandLine.Arguments.ofWords program.convention words =
          .ok arguments)
      (text : arguments.logFile ≠ some .nothing)
      (asked : arguments.journalOptions? = some options)
      (set : (program.setUpJournal options).1 = .ok ())
      (begins : program.ready? words = some ready)
      (ends :
        (program.run logger words).1 =
          .ofLoading ready.loading ready.pathRefusal?)

/-- What is put out of a line that is not read is always taken. -/
theorem run_of_unread
    {program : Program}
    {words : List Text}
    {exit : CommandLine.Exit}
    (unread :
      CommandLine.Arguments.ofWords program.convention words = .error exit)
    (logger : Text) :
    (program.run logger words).1 = .exit exit := by
  have taken := program.console.refusal?_ascii exit.output
    (CommandLine.Arguments.ascii_output unread)
  rw [run, unread]
  dsimp only
  rw [print, taken]

theorem course
    (program : Program)
    (logger : Text)
    (words : List Text) :
    Course program logger words := by
  cases read : CommandLine.Arguments.ofWords program.convention words with
  | error exit =>
      exact .left read (by rw [ready?, read]) (run_of_unread read logger)
  | ok arguments =>
      cases asked : arguments.journalOptions? with
      | none =>
          have nothing : arguments.logFile = some .nothing := by
            by_contra text
            rw [CommandLine.Arguments.journalOptions?, if_neg text] at asked
            cases asked
          obtain ⟨none, ends⟩ := run_of_noText read asked logger
          exact .textless read nothing asked none ends
      | some options =>
          have text : arguments.logFile ≠ some .nothing := by
            intro nothing
            rw [CommandLine.Arguments.journalOptions?, if_pos nothing] at asked
            cases asked
          cases journal : program.setUpJournal options with
          | mk outcome set =>
              cases outcome with
              | error fault =>
                  have unset :
                      (program.setUpJournal options).1 = .error fault := by
                    rw [journal]
                  obtain ⟨none, ends⟩ :=
                    run_of_refused read asked unset logger
                  exact .refused read text asked unset none ends
              | ok =>
                  refine .carriedOut read text asked (by rw [journal])
                    (ready?_of_set read asked journal) ?_
                  rw [run_of_set read asked journal]
                  generalize
                    (if arguments.testMode then set.withTestMode true
                      else set) = ready
                  have result := ready.dump_fst arguments.pathsOnly
                  rw [← result]
                  generalize ready.dump arguments.pathsOnly = dumped
                  obtain ⟨outcome, after⟩ := dumped
                  cases outcome <;> rfl

/-! ## The whole command line -/

/--
A command line ends in one of five ways, each of which is told here exactly.

It leaves if its words are not read or ask for help.  It has no text for the
path of a log file that is given as nothing.  A fault comes out if it asks for a
log file that is refused, and if making the manager or loading the documents has
a fault that is no error of the store.  The output refuses a text if the
documents were loaded and the path of one of the two sections is such a text.
Otherwise it comes to a code, 0 after a load and 1 after an error of the store.
That error is then written to the error output, where beside it there are lines
of the journal in the form that was asked for, and nothing is written to the
output.
-/
theorem run_ends
    (program : Program)
    (logger : Text)
    (words : List Text)
    (wellFormed : program.host.files.WellFormed) :
    (∀ exit,
      (program.run logger words).1 = .exit exit ↔
        CommandLine.Arguments.ofWords program.convention words =
          .error exit) ∧
    ((program.run logger words).1 = .noText ↔
      ∃ arguments,
        CommandLine.Arguments.ofWords program.convention words =
            .ok arguments ∧
          arguments.logFile = some .nothing) ∧
    (∀ fault,
      (program.run logger words).1 = .fault fault ↔
        (∃ arguments options wanted,
          CommandLine.Arguments.ofWords program.convention words =
              .ok arguments ∧
            arguments.journalOptions? = some options ∧
              options.filePath program.host.environment = some wanted ∧
                Log.FileRefused program.host wanted fault) ∨
          ∃ ready,
            program.ready? words = some ready ∧
              ready.loading = .error fault ∧
                ∀ error, fault ≠ .store error) ∧
    (∀ error,
      (program.run logger words).1 = .unwritten error ↔
        ∃ ready,
          program.ready? words = some ready ∧
            ready.loading = .ok () ∧ ready.pathRefusal? = some error) ∧
    (∀ code,
      (program.run logger words).1 = .code code ↔
        ∃ ready,
          program.ready? words = some ready ∧
            ((code = 0 ∧ ready.loading = .ok () ∧
                ready.pathRefusal? = none) ∨
              (code = 1 ∧
                ∃ error, ready.loading = .error (.store error)))) ∧
    (∀ arguments options ready error,
      CommandLine.Arguments.ofWords program.convention words =
          .ok arguments →
        arguments.journalOptions? = some options →
          program.ready? words = some ready →
            ready.loading = .error (.store error) →
              Complained (options.lineFormat program.host.environment) error
                program (program.run logger words).2) := by
  refine ⟨?_, ?_, ?_, ?_, ?_, fun _ _ _ _ read asked begins failed =>
    complained_of_run read asked wellFormed begins failed logger⟩
  all_goals cases program.course logger words with
  | left unread none ends => simp [unread, none, ends, eq_comm]
  | textless read nothing asked none ends =>
      simp [read, nothing, asked, none, ends]
  | refused read text asked unset none ends =>
      simp [read, text, asked, none, ends,
        ← setUpJournal_eq_error_iff wellFormed, unset]
  | carriedOut read text asked set begins ends =>
      simp [read, text, asked, begins, ends,
        ← setUpJournal_eq_error_iff wellFormed, set, Ending.ofLoading_ne_exit,
        Ending.ofLoading_ne_noText, Ending.ofLoading_eq_fault_iff,
        Ending.ofLoading_eq_unwritten_iff, Ending.ofLoading_eq_code_iff]

/--
A program on a machine where a file stands in the place of the home directory.
-/
def crampedProgram : Program :=
  Program.start
    { bareProgram.host with
      environment := [("HOME", "/home")]
      files := ⟨[(["home"], .file ByteArray.empty 0o644)], .present [], 0o022⟩ }

theorem wellFormed_crampedProgram : crampedProgram.host.files.WellFormed := by
  refine FileSystem.wellFormed_of_entries ?_ ?_
  · intro pair member
    rw [List.mem_singleton.mp member]
    exact FileSystem.hasDirectory_root _
  · intro place present
    cases present
    exact FileSystem.hasDirectory_root _

theorem run_ends_crampedProgram :
    crampedProgram.host.files.WellFormed ∧
      (crampedProgram.run commandLogger ["config", "dump"]).1 = .code 1 ∧
        Complained .text
          ⟨.io, some "cannot create directory /home/.local/share/VNote"⟩
          crampedProgram
          (crampedProgram.run commandLogger ["config", "dump"]).2 := by
  have read :
      CommandLine.Arguments.ofWords .older ["config", "dump"] =
        .ok { command := [Text.ofString "config", Text.ofString "dump"] } := by
    decide +kernel
  have fails :
      (crampedProgram.ready? ["config", "dump"]).map loading =
        some
          (.error
            (.store
              ⟨.io,
                some "cannot create directory /home/.local/share/VNote"⟩)) := by
    decide +kernel
  obtain ⟨ready, begins, failed⟩ := Option.map_eq_some_iff.mp fails
  obtain ⟨-, -, -, -, codes, complains⟩ := run_ends crampedProgram
    commandLogger ["config", "dump"] wellFormed_crampedProgram
  refine ⟨wellFormed_crampedProgram, (codes 1).mpr ?_, ?_⟩
  · exact ⟨ready, begins, Or.inr ⟨rfl, _, failed⟩⟩
  · exact complains _ _ ready _ read rfl begins failed

/--
But with the root for a log file a command line that has nothing else against it
comes to the fault of that.
-/
theorem run_logFile_root :
    bareProgram.loading = .ok () ∧
      (bareProgram.run commandLogger ["--log-file=/", "config", "dump"]).1 =
        .fault (.file .isDirectory ⟨.root, []⟩) := by
  have read :
      CommandLine.Arguments.ofWords .older ["--log-file=/", "config", "dump"] =
        .ok
          { logFile := some (.text "/")
            command := [Text.ofString "config", Text.ofString "dump"] } := by
    decide +kernel
  exact ⟨by decide +kernel,
    (run_of_refused read rfl (by decide +kernel) commandLogger).2⟩

end Program

end SettingsStore
