import SettingsStore.Proofs.Manager.Telling

/-!
# What a program writes

What a program tells becomes lines on its error output, each in the form of the
journal, and nothing else.  So making a manager and loading its documents only
adds such lines to the error output, and the output stays what it was.  What is
written to the output comes there text by text, up to the first one that the
output refuses.
-/

namespace SettingsStore

namespace Log.Journal

/-- The line that is written of a record to the error output. -/
def lineOf (journal : Journal) (record : Record) : Text :=
  match journal.outlet.map Outlet.format with
  | none => record.message ++ "\n"
  | some format => record.line format ++ "\n"

/-- Recording keeps the form of the journal. -/
theorem record_form
    (journal : Journal)
    (files : FileSystem)
    (entry : Record) :
    (journal.record files entry).journal.outlet.map Outlet.format =
      journal.outlet.map Outlet.format := by
  rw [record]
  split
  · split
    · rfl
    · rename_i outlet known
      dsimp only
      split
      · rfl
      · rw [known]
        rfl
  · rfl

/-- Nothing but the line of the record is written, if it is taken. -/
theorem record_errorOutput
    (journal : Journal)
    (files : FileSystem)
    (entry : Record) :
    (journal.record files entry).errorOutput = [] ∨
      (journal.record files entry).errorOutput = journal.lineOf entry := by
  rw [record, lineOf]
  split
  · cases known : journal.outlet with
    | none =>
        dsimp only
        split
        · exact Or.inr rfl
        · exact Or.inl rfl
    | some outlet =>
        refine Or.inr ?_
        cases file : outlet.file with
        | none => simp [file]
        | some file_ => simp [file]
  · exact Or.inl rfl

theorem afterRemoval_form
    (journal : Journal)
    (before : FileSystem)
    (removed : Place → Bool) :
    (journal.afterRemoval before removed).outlet.map Outlet.format =
      journal.outlet.map Outlet.format := by
  rw [afterRemoval, Option.map_map]
  rfl

end Log.Journal

namespace Program

/--
Between two moments a program wrote lines of its journal to the error output,
and nothing else.
-/
structure Told (before after : Program) : Prop where
  form :
    after.journal.outlet.map Log.Outlet.format =
      before.journal.outlet.map Log.Outlet.format
  console : after.console = before.console
  output : after.output = before.output
  errorOutput : ∃ records : List Log.Record,
    after.errorOutput = before.errorOutput ++
      records.flatMap before.journal.lineOf

namespace Told

variable {first second third : Program}

theorem refl (program : Program) : program.Told program :=
  ⟨rfl, rfl, rfl, [], (List.append_nil _).symm⟩

theorem trans
    (early : first.Told second)
    (late : second.Told third) :
    first.Told third where
  form := late.form.trans early.form
  console := late.console.trans early.console
  output := late.output.trans early.output
  errorOutput := by
    obtain ⟨earlier, before⟩ := early.errorOutput
    obtain ⟨later, after⟩ := late.errorOutput
    have same : second.journal.lineOf = first.journal.lineOf := by
      funext record
      rw [Log.Journal.lineOf, Log.Journal.lineOf, early.form]
    refine ⟨earlier ++ later, ?_⟩
    rw [after, before, same, List.flatMap_append, List.append_assoc]

end Told

theorem told_withFiles
    (program : Program)
    (files : FileSystem)
    (removed : Place → Bool) :
    program.Told (program.withFiles files removed) :=
  ⟨program.journal.afterRemoval_form program.files removed, rfl, rfl, [],
    (List.append_nil _).symm⟩

/-- One event: it is recorded, gathered or passed over. -/
theorem told_tell
    (program : Program)
    (event : Log.Event) :
    program.Told (program.tell event) := by
  have recorded : ∀ entry : Log.Record, ∃ records : List Log.Record,
      program.errorOutput ++
        (program.journal.record program.files entry).errorOutput =
        program.errorOutput ++ records.flatMap program.journal.lineOf := by
    intro entry
    rcases program.journal.record_errorOutput program.files entry with
      nothing | line
    · exact ⟨[], by rw [nothing]; rfl⟩
    · exact ⟨[entry], by rw [line, List.flatMap_singleton]⟩
  unfold tell
  cases program.gathered with
  | none => exact ⟨program.journal.record_form _ _, rfl, rfl, recorded _⟩
  | some events =>
      dsimp only
      split
      · split
        · exact ⟨rfl, rfl, rfl, [], (List.append_nil _).symm⟩
        · exact .refl program
      · exact ⟨program.journal.record_form _ _, rfl, rfl, recorded _⟩

/--
A program that is told of events agrees with itself in that it writes lines of
its journal and nothing else.
-/
theorem listener_agree_told (start : Program) :
    listener.Agree listener fun program other => other = program ∧
      start.Told program where
  files alike := alike.1 ▸ rfl
  hear event alike := ⟨alike.1 ▸ rfl, alike.2.trans (told_tell _ event)⟩

theorem told_construct
    (program : Program)
    (source : Option DirectorySource)
    (codec : RecordCodec)
    (testMode : Option Bool) :
    program.Told (program.construct source codec testMode).2 := by
  obtain ⟨outcome, after, _, made, -, -, told⟩ :=
    (listener_agree_told program).constructTelling ⟨rfl, .refl program⟩
      program.host program.testMode source codec testMode
  rw [construct, made]
  exact told

theorem told_load
    (program : Program)
    (manager : Manager) :
    program.Told (program.load manager).2.2 := by
  unfold load
  obtain ⟨made, trail⟩ :=
    (ensureDataDirectories manager.paths).runOn program.files
  have reached := program.told_withFiles trail.files fun _ => false
  exact ((listener_agree_told program).loadDocuments _
      ⟨rfl, reached⟩ manager made).2.2.2

/-! ## The output -/

/-- The program after a text was written to its output. -/
def wrote (program : Program) (text : Text) : Program :=
  { program with output := program.output ++ text }

theorem wrote_wrote
    (program : Program)
    (first second : Text) :
    (program.wrote first).wrote second = program.wrote (first ++ second) :=
  congrArg (fun output => { program with output })
    (List.append_assoc program.output first second)

section

variable {program : Program} {texts : List Text}

/-- Texts that the output takes are written. -/
theorem printAll_of_taken
    (taken : ∀ text ∈ texts, program.console.refusal? text = none) :
    program.printAll texts = (.ok (), program.wrote texts.flatten) := by
  induction texts generalizing program with
  | nil => simp [printAll, wrote]
  | cons text rest induction =>
      obtain ⟨here, others⟩ := List.forall_mem_cons.mp taken
      rw [printAll, print, here]
      dsimp only
      rw [← wrote, @induction (program.wrote text) others, wrote_wrote,
        List.flatten_cons]

/-- Behind a text that is refused nothing is written. -/
theorem printAll_of_refused
    {text : Text}
    {error : OutputError}
    (taken : ∀ text ∈ texts, program.console.refusal? text = none)
    (refused : program.console.refusal? text = some error)
    (rest : List Text) :
    program.printAll (texts ++ text :: rest) =
      (.error error, program.wrote texts.flatten) := by
  induction texts generalizing program with
  | nil => simp [printAll, print, refused, wrote]
  | cons first others induction =>
      obtain ⟨here, behind⟩ := List.forall_mem_cons.mp taken
      rw [List.cons_append, printAll, print, here]
      dsimp only
      rw [← wrote, @induction (program.wrote first) behind refused, wrote_wrote,
        List.flatten_cons]

end

end Program

end SettingsStore
