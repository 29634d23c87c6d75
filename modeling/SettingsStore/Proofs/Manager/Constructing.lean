import SettingsStore.Proofs.Host.Answers
import SettingsStore.Proofs.Manager.Isolation

/-!
# Making a manager

To make a manager is to ask its source for directories and, in test mode, for
the canonical path of the sandbox.  That `config` stands beside the executable
or does not can always be said, so that outside of test mode nothing is left
that could go wrong once the source has answered.  In test mode it is the
sandbox: a loop of links in its place leaves it without a canonical path, and on
a machine whose texts the system takes there is no other way to be without one.
-/

namespace SettingsStore

namespace FileSystem

/-! ## Paths without a canonical path -/

/--
A path leads to another one by its links, whether the system can go there or
not.
-/
def LeadsTo (files : FileSystem) (path found : Path) : Prop :=
  ∃ reached whole,
    files.resolveWithin resolveLevels (canonicalStart path) path.names [] =
      .ok reached ∧
      files.fromRoot? reached.path = some whole ∧ whole.normalize = found

/-- Why a path has no canonical path. -/
inductive Unresolved (files : FileSystem) (path : Path) : PathError → Prop where
  | looped {found : Path}
      (leads : files.LeadsTo path found)
      (loop : files.status found = .error .linkLoop) :
      Unresolved files path (.linkLoop found.toText)
  | adrift {reached : Resolution}
      (led :
        files.resolveWithin resolveLevels (canonicalStart path) path.names [] =
          .ok reached)
      (nowhere : files.fromRoot? reached.path = none) :
      Unresolved files path .workDirectoryGone
  | refused {error : PathError}
      (stopped :
        files.resolveWithin resolveLevels (canonicalStart path) path.names [] =
          .error error) :
      Unresolved files path error
  | untaken {found : Path} {cause : NameError}
      (leads : files.LeadsTo path found)
      (untaken : files.status found = .error (.name cause)) :
      Unresolved files path (.name cause)

section

variable {files : FileSystem} {path found : Path} {error : PathError}

/-- Where a path leads decides on its canonical path. -/
theorem LeadsTo.resolve
    (leads : files.LeadsTo path found) :
    files.resolve path =
      match files.status found with
      | .error .linkLoop => .error (.linkLoop found.toText)
      | .error (.name error) => .error (.name error)
      | _ => .ok found := by
  obtain ⟨reached, whole, led, fromRoot, rfl⟩ := leads
  have resolved := resolve_eq files path
  rw [led] at resolved
  dsimp only at resolved
  rw [fromRoot] at resolved
  exact resolved

theorem resolve_eq_error_iff :
    files.resolve path = .error error ↔ Unresolved files path error := by
  constructor
  · intro lost
    rw [resolve_eq] at lost
    split at lost
    · rename_i other stopped
      cases lost
      exact .refused stopped
    · rename_i reached led
      split at lost
      · rename_i nowhere
        cases lost
        exact .adrift led nowhere
      · rename_i whole fromRoot
        have leads : files.LeadsTo path whole.normalize :=
          ⟨reached, whole, led, fromRoot, rfl⟩
        split at lost
        · rename_i loop
          cases lost
          exact .looped leads loop
        · rename_i cause untaken
          cases lost
          exact .untaken leads untaken
        · cases lost
  · intro unresolved
    cases unresolved with
    | looped leads loop => rw [leads.resolve, loop]
    | adrift led nowhere =>
        rw [resolve_eq, led]
        dsimp only
        rw [nowhere]
    | refused stopped => rw [resolve_eq, stopped]
    | untaken leads untaken => rw [leads.resolve, untaken]

theorem isAbsolute_joinWritten
    (absolute : path.isAbsolute = true)
    (names : List Text) :
    (path.joinWritten names).isAbsolute = true := by
  rw [Path.joinWritten, Path.join]
  split
  · assumption
  · exact absolute

/-- What is led on from the root stays a path from the root. -/
theorem kept_isAbsolute (files : FileSystem) :
    Kept files (fun _ => True) (fun path => path.isAbsolute = true)
      (fun path => path.isAbsolute = true) where
  root := rfl
  ascend path absolute := by
    rw [Path.isAbsolute, Path.start_ascend]
    exact absolute
  child _ _ absolute _ _ _ := absolute
  link _ _ _ _ _ := trivial
  start path name names absolute _ _ :=
    @isAbsolute_joinWritten (path.child name) absolute names
  written _ names absolute _ := isAbsolute_joinWritten absolute names
  base _ names absolute _ := isAbsolute_joinWritten absolute names

/--
A path from the root that the system takes has a canonical path unless it leads
to a loop of links.
-/
theorem Unresolved.loop
    (unresolved : Unresolved files path error)
    (nameable : files.Nameable)
    (speakable : Speakable path)
    (absolute : path.isAbsolute = true) :
    ∃ found, files.LeadsTo path found ∧ files.status found = .error .linkLoop ∧
      error = .linkLoop found.toText := by
  have lost := resolve_eq_error_iff.mpr unresolved
  have start : (canonicalStart path).isAbsolute = true := by
    rw [canonicalStart, if_pos absolute]
    rfl
  have came :=
    (resolves_resolveWithin files resolveLevels
        (canonicalStart path) path.names []).keeps
        (kept_isAbsolute files) start
          (fun _ _ none => absurd none List.not_mem_nil) fun _ _ => trivial
  cases unresolved with
  | looped leads loop => exact ⟨_, leads, loop, rfl⟩
  | @adrift reached led nowhere =>
      rw [led] at came
      have reachedAbsolute : reached.path.isAbsolute = true := by
        have end_ := came.2
        split at end_ <;> exact end_
      cases reachedAbsolute.symm.trans (fromRoot?_eq_none nowhere).1
  | refused stopped =>
      rw [stopped] at came
      obtain ⟨_, _, cause, -, -, -, rfl⟩ := came
      exact absurd lost (nameable.resolve_ne_name speakable cause)
  | @untaken found cause =>
      exact absurd lost (nameable.resolve_ne_name speakable cause)

end

end FileSystem

open FileSystem

/-! ## Choosing the directories -/

/-- The path at which the sandbox is looked for. -/
def Host.sandboxPath (host : Host) : Path :=
  host.temporaryDirectory.child "vxcore_test"

namespace Program

/--
The program when the directory of the machine's data is asked for: that the one
of the user's data could not be looked up was told.
-/
def asking (program : Program) (source : Option DirectorySource) : Program :=
  listener.hearAll (program.choosing source)
    ((program.choosing source).host.folderEvents true (program.sourceOr source))

/--
The source of a manager returns from each of the queries that may be put to it.
-/
structure Answered
    (program : Program)
    (source : Option DirectorySource) :
    Prop where
  executable :
    ∃ found, (program.choosing source).host.answer
      (program.sourceOr source) .executable = .ok found
  userData :
    ∃ found, (program.choosing source).host.answer
      (program.sourceOr source) .userData = .ok found
  machineData :
    ∃ found, (program.asking source).host.answer
      (program.sourceOr source) .machineData = .ok found

/-- Being told of several things changes no more of the host than its files. -/
theorem host_hearAll
    (program : Program)
    (events : List Log.Event) :
    (listener.hearAll program events).host =
      program.host.withFiles (listener.hearAll program events).files := by
  induction events generalizing program with
  | nil => rfl
  | cons event rest induction =>
      have told : (listener.hear program event).host =
          program.host.withFiles (listener.hear program event).files :=
            program.host_tell event
      have step : listener.hearAll program (event :: rest) =
          listener.hearAll (listener.hear program event) rest := rfl
      rw [step, induction, told]
      rfl

section

variable {program : Program} {source : Option DirectorySource}
  {codec : RecordCodec} {testMode : Option Bool}

theorem withFiles_choosing
    (program : Program)
    (source : Option DirectorySource) :
    program.host.withFiles (listener.files (program.choosing source)) =
      (program.choosing source).host :=
  (program.host_choosing source).symm

theorem sandbox_choosing
    (program : Program)
    (source : Option DirectorySource) :
    (program.choosing source).host.sandbox =
      (program.choosing source).files.resolve program.host.sandboxPath := by
  rw [host_choosing]
  rfl

theorem Answered.executableDirectory
    (answered : program.Answered source) :
    ∃ executable,
      (program.choosing source).host.executableDirectoryOf
        (program.sourceOr source) = .ok executable :=
  answered.executable

/--
Without a canonical path for the sandbox there is no manager in test mode.
-/
theorem Answered.construct_of_unresolved
    {error : PathError}
    (answered : program.Answered source)
    (mode : testMode.getD program.testMode = true)
    (unresolved :
      Unresolved (program.choosing source).files
        program.host.sandboxPath error) :
    (program.construct source codec testMode).1 = .error error := by
  obtain ⟨executable, asked⟩ := answered.executableDirectory
  have lost : (program.choosing source).host.sandbox = .error error :=
    (program.sandbox_choosing source).trans
      (resolve_eq_error_iff.mpr unresolved)
  rw [construct_eq, Host.choosePaths, withFiles_choosing, asked, mode]
  dsimp only
  rw [if_pos rfl, lost]

/-- In a directory apart from the conventions a manager is made. -/
theorem Answered.construct_of_secluded
    {directory : Path}
    (answered : program.Answered source)
    (secluded :
      Secluded (program.choosing source).host (program.sourceOr source)
        (testMode.getD program.testMode) directory) :
    ∃ paths, (program.construct source codec testMode).1 =
      .ok { codec, testMode := testMode.getD program.testMode, paths } := by
  obtain ⟨executable, asked⟩ := answered.executableDirectory
  rw [Program.construct_of_secluded secluded codec, asked]
  exact ⟨_, rfl⟩

/-- Where the conventions choose they have answered. -/
theorem Answered.chooseByConventions
    (answered : program.Answered source)
    (executable : Option Path) :
    ∃ paths,
      (program.host.chooseByConventions listener (program.choosing source)
          (program.sourceOr source)
          executable).1 = .ok paths := by
  obtain ⟨userData, user⟩ := answered.userData
  obtain ⟨machineData, machine⟩ := answered.machineData
  have second :
      program.host.withFiles (listener.files (program.asking source)) =
      (program.asking source).host := by
    rw [asking, host_hearAll, host_choosing]
    rfl
  have asked :
      (program.choosing source).host.userDataDirectory
        (program.sourceOr source) = .ok userData := user
  have askedToo :
      (program.asking source).host.machineDataDirectory
        (program.sourceOr source) =
    .ok machineData := machine
  rw [asking] at second askedToo
  rw [Host.chooseByConventions, withFiles_choosing, asked]
  dsimp only
  rw [second, askedToo]
  exact ⟨_, rfl⟩

/--
Outside of test mode a manager is made, beside its executable or as the
conventions say.
-/
theorem Answered.construct_ordinary
    (answered : program.Answered source)
    (mode : testMode.getD program.testMode = false) :
    ∃ paths, (program.construct source codec testMode).1 =
      .ok { codec, testMode := testMode.getD program.testMode, paths } := by
  obtain ⟨executable, asked⟩ := answered.executableDirectory
  cases portable :
    (executable.map fun directory => directory.child "config").filter
      (program.choosing source).host.files.pathExists with
  | some marker =>
      rw [Option.filter_eq_some_iff, Option.map_eq_some_iff] at portable
      obtain ⟨⟨directory, rfl, rfl⟩, there⟩ := portable
      exact answered.construct_of_secluded (.portable mode asked there)
  | none =>
      obtain ⟨paths, chosen⟩ := answered.chooseByConventions executable
      refine ⟨paths, ?_⟩
      rw [construct_eq, Host.choosePaths, withFiles_choosing, asked, mode]
      dsimp only
      rw [if_neg Bool.false_ne_true, portable]
      dsimp only
      generalize program.host.chooseByConventions listener
        (program.choosing source)
        (program.sourceOr source) executable = outcome at chosen ⊢
      obtain ⟨result, told⟩ := outcome
      cases chosen
      rfl

/-- A manager is made, or it is in test mode and there is no sandbox for it. -/
theorem Answered.construct_cases
    (answered : program.Answered source)
    (codec : RecordCodec)
    (testMode : Option Bool) :
    (testMode.getD program.testMode = true ∧
        ∃ error,
          Unresolved (program.choosing source).files
          program.host.sandboxPath error ∧
          (program.construct source codec testMode).1 = .error error) ∨
      ∃ paths, (program.construct source codec testMode).1 =
        .ok { codec, testMode := testMode.getD program.testMode, paths } := by
  cases mode : testMode.getD program.testMode with
  | false => exact Or.inr (mode ▸ answered.construct_ordinary mode)
  | true =>
      cases found : (program.choosing source).host.sandbox with
      | error error =>
          have unresolved :=
            resolve_eq_error_iff.mp
              ((program.sandbox_choosing source).symm.trans found)
          exact Or.inl ⟨rfl, error, unresolved,
            answered.construct_of_unresolved mode unresolved⟩
      | ok directory =>
          exact Or.inr (mode ▸ answered.construct_of_secluded
              (.sandbox mode found))

end

/--
Once its source has answered, a manager is made with its directories known and
all else at the defaults, unless it is in test mode and the path of the sandbox
has no canonical path.  Where the system takes the texts of the machine and the
directory for temporary files starts at the root, that is because the path leads
to a loop of links.
-/
theorem construct_stopped_iff
    {program : Program}
    {source : Option DirectorySource}
    (answered : program.Answered source)
    (codec : RecordCodec)
    (testMode : Option Bool) :
    (∀ error,
        (program.construct source codec testMode).1 = .error error ↔
          testMode.getD program.testMode = true ∧
            Unresolved (program.choosing source).files
              program.host.sandboxPath error) ∧
      (∀ manager,
        (program.construct source codec testMode).1 = .ok manager →
          manager.state = .pathsResolved ∧
            manager.testMode = testMode.getD program.testMode ∧
            manager.codec = codec ∧ manager.config = {} ∧
              manager.session = {}) ∧
        ((program.choosing source).files.Nameable →
          Speakable program.host.temporaryDirectory →
            program.host.temporaryDirectory.isAbsolute = true →
              ∀ error,
                (program.construct source codec testMode).1 = .error error →
                  ∃ found,
                    (program.choosing source).files.LeadsTo
                      program.host.sandboxPath found ∧
                      (program.choosing source).files.status found =
                        .error .linkLoop ∧
                        error = .linkLoop found.toText) := by
  have stopped : ∀ error,
      (program.construct source codec testMode).1 = .error error →
        testMode.getD program.testMode = true ∧
          Unresolved (program.choosing source).files
            program.host.sandboxPath error := by
    intro error failed
    rcases answered.construct_cases codec testMode with
      ⟨mode, other, unresolved, outcome⟩ | ⟨paths, made⟩
    · cases outcome.symm.trans failed
      exact ⟨mode, unresolved⟩
    · cases made.symm.trans failed
  refine ⟨fun error => ⟨stopped error, fun ⟨mode, unresolved⟩ => ?_⟩, ?_, ?_⟩
  · exact answered.construct_of_unresolved mode unresolved
  · intro manager completed
    rcases answered.construct_cases codec testMode with
      ⟨-, other, -, outcome⟩ | ⟨paths, made⟩
    · cases outcome.symm.trans completed
    · cases made.symm.trans completed
      exact ⟨rfl, rfl, rfl, rfl, rfl⟩
  · intro nameable speakable absolute error failed
    have taken : Speakable program.host.sandboxPath :=
      speakable_child_iff.mpr ⟨speakable, by decide⟩
    exact (stopped error failed).2.loop nameable taken absolute

/--
A program on a machine where a link to itself stands in the place of the
sandbox.
-/
def loopedProgram : Program :=
  { bareProgram with
    host :=
      { bareProgram.host with
        temporaryDirectory := ⟨.root, ["tmp"]⟩
        files :=
          ⟨[([Text.ofString "tmp"], .directory 0o755),
              ([Text.ofString "tmp", Text.ofString "vxcore_test"],
              .link "vxcore_test")],
            .present [], 0o022⟩ } }

theorem loopedProgram_nameable : loopedProgram.files.Nameable where
  links := by
    intro place target found
    rw [FileSystem.get?] at found
    split at found
    · cases found
    · have each : ∀ pair ∈ loopedProgram.files.entries,
          pair.2 = .directory 0o755 ∨ pair.2 = .link "vxcore_test" := by decide
      rcases each _ (mem_of_lookup found) with directory | link
      · cases directory
      · cases link
        decide
  workDirectory := by
    intro place present name member
    cases present
    cases member

theorem loopedProgram_answered :
    loopedProgram.Answered (some (.fixed none none none)) :=
  ⟨⟨_, rfl⟩, ⟨_, rfl⟩, ⟨_, rfl⟩⟩

theorem loopedProgram_unresolved :
    Unresolved loopedProgram.files loopedProgram.host.sandboxPath
      (.linkLoop "/tmp/vxcore_test") := by
  have lost : loopedProgram.files.resolve loopedProgram.host.sandboxPath =
    .error (.linkLoop "/tmp/vxcore_test") := by decide +kernel
  exact resolve_eq_error_iff.mp lost

/--
There a manager is made outside of test mode, and in test mode the loop is
found.
-/
theorem construct_stopped_iff_loopedProgram :
    let source : Option DirectorySource := some (.fixed none none none)
    (∃ manager,
        (loopedProgram.construct source .verbatim (some false)).1 =
          .ok manager ∧
          manager.state = .pathsResolved) ∧
      ∃ found,
        loopedProgram.files.LeadsTo loopedProgram.host.sandboxPath found ∧
          loopedProgram.files.status found = .error .linkLoop ∧
            (loopedProgram.construct source .verbatim (some true)).1 =
              .error (.linkLoop found.toText) := by
  intro source
  have ordinary :=
    construct_stopped_iff loopedProgram_answered .verbatim (some false)
  have test :=
    construct_stopped_iff loopedProgram_answered .verbatim (some true)
  constructor
  · cases made : (loopedProgram.construct source .verbatim (some false)).1 with
    | error error => cases ((ordinary.1 error).mp made).1
    | ok manager => exact ⟨manager, rfl, (ordinary.2.1 manager made).1⟩
  · have stopped := (test.1 _).mpr ⟨rfl, loopedProgram_unresolved⟩
    obtain ⟨found, leads, loop, same⟩ :=
      test.2.2 loopedProgram_nameable
        (speakable_iff.mpr (by decide)) rfl _ stopped
    exact ⟨found, leads, loop, stopped.trans (congrArg _ same)⟩

/--
So making a manager does fail, though the source returns from all its queries.
-/
theorem construct_stopped_loopedProgram :
    loopedProgram.Answered (some (.fixed none none none)) ∧
      (loopedProgram.construct (some (.fixed none none none)) .verbatim
          (some true)).1 =
        .error (.linkLoop "/tmp/vxcore_test") :=
  ⟨loopedProgram_answered,
    loopedProgram_answered.construct_of_unresolved rfl loopedProgram_unresolved⟩

end Program

end SettingsStore
