import SettingsStore.CommandLine.Arguments

/-!
# How reading a command line ends

Whatever the words are, a line that is not read ends at one of its stages: with
a failure of that stage, or with its help.
-/

namespace SettingsStore.CommandLine

namespace Stage

variable
  {Settings : Type}
  {stage : Stage Settings}
  {option : OptionSpec Settings}
  {exit : Exit}

/-- The ways in which a line ends at a stage. -/
inductive Ends (stage : Stage Settings) : Exit → Prop where
  | failure (message : Text) : Ends stage (stage.fail message)
  | help : Ends stage (.help stage.help)

/-- A word that cannot be taken is ambiguous. -/
theorem ends_of_classify
    {text : Text}
    (stopped : stage.classify text = .error exit) :
    stage.Ends exit := by
  rw [classify] at stopped
  split at stopped
  · cases stopped
  · split at stopped
    · cases stopped
    · split at stopped
      · cases stopped
      · dsimp only at stopped
        split at stopped
        · cases stopped
        · split at stopped
          · cases stopped
          · split at stopped <;> cases stopped
          · cases stopped
            exact .failure _

theorem ends_of_classifyAll
    {words : List Text}
    (stopped : stage.classifyAll words = .error exit) :
    stage.Ends exit := by
  induction words with
  | nil => cases stopped
  | cons text rest induction =>
      rw [classifyAll] at stopped
      split at stopped
      · cases stopped
      · split at stopped
        · rename_i refused
          cases stopped
          exact ends_of_classify refused
        · split at stopped
          · rename_i refused
            cases stopped
            exact induction refused
          · cases stopped

/-- A text behind an option that is refused is a failure of the option. -/
theorem ends_of_readCluster
    {joint : Joint}
    {text : Text}
    (refused : stage.readCluster option joint text = .error exit) :
    stage.Ends exit := by
  fun_induction readCluster with
  | case2 | case3 => cases refused
  | case4 | case5 =>
      rename_i induction
      exact induction refused
  | case1 | case6 =>
      cases refused
      exact .failure _

theorem ends_of_passOver
    {convention : Convention}
    {joint : Joint}
    {value : Option Text}
    (refused : stage.passOver convention option joint value = .error exit) :
    stage.Ends exit := by
  cases value with
  | none => cases refused
  | some text =>
      cases convention with
      | older =>
          rw [passOver] at refused
          split at refused
          · rename_i known
            obtain ⟨-, same⟩ := Option.ite_none_left_eq_some.mp known
            cases same
            cases refused
            exact .failure _
          · cases refused
      | newer => exact ends_of_readCluster refused

theorem ends_of_takeValue
    {convention : Convention}
    {choices : List Text}
    {apply : OptionValue → Settings → Settings}
    {given : Text}
    {settings : Settings}
    (refused :
      stage.takeValue convention option choices apply given settings =
        .error exit) :
    stage.Ends exit := by
  rw [takeValue] at refused
  split at refused
  · cases refused
  · split at refused
    · cases refused
    · cases refused
      exact .failure _

section

variable
  {convention : Convention}
  {next : List Text → Settings → Except Exit (Settings × List Text)}

theorem ends_of_readCommand
    {name : Text}
    {following : List (Text × Word Settings)}
    {settings : Settings}
    {leftOver : List Text}
    (stopped :
      stage.readCommand next name following settings leftOver =
        some (.error exit)) :
    stage.Ends exit ∨ ∃ words settings, next words settings = .error exit := by
  obtain ⟨selector, -, found⟩ := Option.map_eq_some_iff.mp stopped
  split at found
  · split at found
    · rename_i refused
      cases found
      exact Or.inr ⟨_, _, refused⟩
    · cases found
  · cases found
    exact Or.inl (.failure _)

/-- A line ends at a stage or where the stage hands it on. -/
theorem ends_of_readWords
    {words : List (Text × Word Settings)}
    {settings : Settings}
    {leftOver : List Text}
    (stopped :
      stage.readWords convention next words settings leftOver =
        .error exit) :
    stage.Ends exit ∨ ∃ words settings, next words settings = .error exit := by
  fun_induction readWords with
  | case1 => cases stopped
  | case2 =>
      cases stopped
      exact Or.inl (.failure _)
  | case3 =>
      rename_i found
      rw [stopped] at found
      exact ends_of_readCommand found
  | case5 =>
      rename_i found
      rw [stopped] at found
      split at found
      · cases found
      · exact ends_of_readCommand found
  | case8 | case10 =>
      rename_i refused
      cases stopped
      exact Or.inl (ends_of_passOver refused)
  | case9 =>
      cases stopped
      exact Or.inl .help
  | case12 | case14 =>
      rename_i refused
      cases stopped
      exact Or.inl (ends_of_takeValue refused)
  | case16 =>
      cases stopped
      exact Or.inl (.failure _)
  | _ =>
      rename_i induction
      exact induction stopped

end

end Stage

section

variable {Settings : Type} {stages : List (Stage Settings)} {exit : Exit}

theorem ends_of_readStages
    {convention : Convention}
    {words : List Text}
    {settings : Settings}
    (stopped : readStages convention stages words settings = .error exit) :
    ∃ stage ∈ stages, stage.Ends exit := by
  induction stages generalizing words settings with
  | nil => cases stopped
  | cons stage stages induction =>
      rw [readStages] at stopped
      split at stopped
      · rename_i refused
        cases stopped
        exact ⟨stage, List.mem_cons_self, Stage.ends_of_classifyAll refused⟩
      · rcases Stage.ends_of_readWords stopped with here | ⟨_, _, later⟩
        · exact ⟨stage, List.mem_cons_self, here⟩
        · obtain ⟨other, member, ends⟩ := induction later
          exact ⟨other, List.mem_cons_of_mem _ member, ends⟩

/-- Words that are left over are a failure of the first stage. -/
theorem ends_of_parse
    {convention : Convention}
    {words : List Text}
    {defaults : Settings}
    (stopped : parse convention stages words defaults = .error exit) :
    ∃ stage ∈ stages, stage.Ends exit := by
  rw [parse] at stopped
  split at stopped
  · rename_i refused
    cases stopped
    exact ends_of_readStages refused
  · cases stopped
  · cases stages with
    | nil => cases stopped
    | cons stage stages =>
        cases stopped
        exact ⟨stage, List.mem_cons_self, .failure _⟩

end

/-- What a line that is not read puts out is nothing or a help: ASCII alone. -/
theorem Arguments.ascii_output
    {convention : Convention}
    {words : List Text}
    {exit : Exit}
    (stopped : ofWords convention words = .error exit) :
    ∀ point ∈ exit.output, point.isAscii := by
  obtain ⟨stage, member, ends⟩ := ends_of_parse stopped
  have helps : ∀ stage ∈ [programStage, configStage, dumpStage],
      stage.help.all CodePoint.isAscii = true := by
    simp only [List.forall_mem_cons]
    decide +kernel
  cases ends with
  | failure => exact nofun
  | help => exact List.all_eq_true.mp (helps stage member)

end SettingsStore.CommandLine
