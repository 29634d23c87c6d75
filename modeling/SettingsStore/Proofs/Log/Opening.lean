import SettingsStore.Program.Basic
import SettingsStore.Proofs.Files.Canonical
import SettingsStore.Proofs.Host.Answers

/-!
# Opening the log file

The log file is opened in steps: what `~` stands for at the beginning of its
path, its canonical path, the directories above it and the file itself.  Each
step can be refused, and the journal is set up exactly if none is.  Then its
path is asked for once more, only to be told.  Nothing is refused there:
meanwhile directories were added, which complete no loop since the file is open,
and at most the file itself, so the canonical path is the same.
-/

namespace SettingsStore

/-- The ways in which there is no file to be written at the end of a path. -/
inductive FileSystem.NoFile
    (files : FileSystem)
    (path : Path) :
    FileError → Prop where
  | directory {mode : Nat}
      (there : files.status path = .ok (.directory mode)) :
      NoFile files path .isDirectory
  | lost {error : FileError}
      (nowhere : files.locate path true = .error error) :
      NoFile files path error

namespace Log

open FileSystem

/--
The ways in which a log file is refused, with the fault that each of them is.
-/
inductive FileRefused (host : Host) (path : Path) : Fault → Prop where
  | homeless
      (homeless : host.Homeless path) :
      FileRefused host path (.path .undeterminedHome)
  | unresolved {expanded : Path} {error : PathError}
      (expands : host.expandHome path = .ok expanded)
      (refused : host.files.resolve expanded = .error error) :
      FileRefused host path (.path error)
  | noDirectory {found refused : Path} {error : FileError} {trail : Trail}
      (canonical : filePathOn host host.files path = .ok found)
      (unmade :
        (makeDirectories found.parent).runOn host.files =
          (.error (error, refused), trail)) :
      FileRefused host path (.file error refused)
  | noFile {found : Path} {error : FileError} {trail : Trail}
      (canonical : filePathOn host host.files path = .ok found)
      (made : (makeDirectories found.parent).runOn host.files = (.ok (), trail))
      (none : trail.files.NoFile found error) :
      FileRefused host path (.file error found)

/-! ## Each step is refused in one of its ways -/

theorem filePathOn_eq_error_iff
    {host : Host}
    {path : Path}
    {error : PathError} :
    filePathOn host host.files path = .error error ↔
      (error = .undeterminedHome ∧ host.Homeless path) ∨
        ∃ expanded, host.expandHome path = .ok expanded ∧
          host.files.resolve expanded = .error error := by
  rw [filePathOn]
  constructor
  · intro refused
    cases expands : host.expandHome path with
    | error cause =>
        rw [expands] at refused
        cases refused
        exact Or.inl (Host.homeless_of_expandHome expands)
    | ok expanded =>
        rw [expands] at refused
        exact Or.inr ⟨expanded, rfl, refused⟩
  · rintro (⟨rfl, homeless⟩ | ⟨expanded, expands, refused⟩)
    · rw [homeless.expandHome]
    · rw [expands]
      exact refused

/-- A log file is opened unless there is none to be written. -/
theorem File.openAt_eq_error_iff
    {files : FileSystem}
    {path : Path}
    {base : Place}
    {error : FileError}
    (wellFormed : files.WellFormed)
    (anchored : files.Anchored path.start base) :
    File.openAt files path = .error error ↔ files.NoFile path error := by
  rw [openAt]
  constructor
  · intro refused
    cases found : files.locate path true with
    | error cause =>
        rw [found] at refused
        cases refused
        exact .lost found
    | ok spot =>
        obtain ⟨place, entry⟩ := spot
        rw [found] at refused
        cases entry with
        | none => cases refused
        | some entry =>
            cases entry with
            | file => cases refused
            | link target =>
                exact absurd rfl
                  (noLink_of_locate found wellFormed anchored target)
            | directory mode =>
                cases refused
                exact .directory (status_of_locate found)
  · intro refused
    cases refused with
    | directory there =>
        obtain ⟨place, found⟩ := locate_of_status there
        rw [found]
    | lost nowhere => rw [nowhere]

/-- Where an open log file is, and that nothing else was put there. -/
theorem File.of_openAt
    {before after : FileSystem}
    {path : Path}
    {file : File}
    (opened : File.openAt before path = .ok (file, after)) :
    file.path = path ∧ ∃ place,
      (∃ content mode, before.locate path true =
          .ok ⟨place, some (.file content mode)⟩ ∧ after = before) ∨
        (before.locate path true = .ok ⟨place, none⟩ ∧
          after = before.put place
            (.file ByteArray.empty (before.masked 0o666))) := by
  rw [openAt] at opened
  cases found : before.locate path true with
  | error cause =>
      rw [found] at opened
      cases opened
  | ok spot =>
      obtain ⟨place, entry⟩ := spot
      rw [found] at opened
      cases entry with
      | none =>
          cases opened
          exact ⟨rfl, place, Or.inr ⟨rfl, rfl⟩⟩
      | some entry =>
          cases entry with
          | file content mode =>
              cases opened
              exact ⟨rfl, place, Or.inl ⟨content, mode, rfl, rfl⟩⟩
          | directory | link => cases opened

/--
A path with a canonical path has the same one after directories were added and a
file was opened at its end: the directories complete no loop there.
-/
theorem File.resolve_of_openAt
    {before made after : FileSystem}
    {path found : Path}
    {file : File}
    {base : Place}
    (wellFormed : before.WellFormed)
    (wellFormedMade : made.WellFormed)
    (only : OnlyDirectories before made)
    (anchored : made.Anchored found.start base)
    (resolved : before.resolve path = .ok found)
    (opened : File.openAt made found = .ok (file, after)) :
    after.resolve path = .ok file.path := by
  obtain ⟨rfl, place, there⟩ := of_openAt opened
  have noLoop :
      ∀ other, before.resolve path = .ok other →
        made.status other ≠ .error .linkLoop := by
    intro other same
    rw [resolved] at same
    cases same
    rcases there with ⟨_, _, found, -⟩ | ⟨found, -⟩
    · simp [status, found]
    · simp [status, found]
  have between : made.resolve path = .ok file.path :=
    (resolve_onlyDirectories wellFormed only (leftAbove_of_resolve resolved)
        noLoop).trans resolved
  rcases there with ⟨content, mode, -, rfl⟩ | ⟨free, rfl⟩
  · exact between
  · have nothing : made.get? place = none := get?_of_locate (by simp) free
    obtain ⟨directory, name, rfl, -⟩ :=
      parent_of_locate free wellFormedMade anchored
    refine (resolve_differs (sameExcept_put _ _ _) ?_ ?_ path).trans between
    · intro entry held
      rw [nothing] at held
      cases held
    · intro entry held
      rw [get?_put_self nothing] at held
      cases held
      exact ⟨_, _, rfl⟩

section

variable {host : Host} {path : Path}

theorem isAbsolute_filePathOn
    {files : FileSystem}
    {found : Path}
    (canonical : filePathOn host files path = .ok found) :
    found.isAbsolute = true := by
  rw [filePathOn] at canonical
  cases expands : host.expandHome path with
  | error cause =>
      rw [expands] at canonical
      cases canonical
  | ok expanded =>
      rw [expands] at canonical
      exact isAbsolute_resolve canonical

/-- A canonical path is followed from the root. -/
theorem anchored_filePathOn
    {files : FileSystem}
    {found : Path}
    (canonical : filePathOn host files path = .ok found)
    (after : FileSystem) :
    after.Anchored found.start [] :=
  Or.inl ⟨of_decide_eq_true (isAbsolute_filePathOn canonical), rfl⟩

/--
The directories above the log file are made in a file system that stays
well-formed.
-/
theorem wellFormed_makeDirectories
    {found : Path}
    {outcome : Except PathFailure Unit}
    {trail : Trail}
    (wellFormed : host.files.WellFormed)
    (canonical : filePathOn host host.files path = .ok found)
    (made :
      (makeDirectories found.parent).runOn host.files = (outcome, trail)) :
    trail.files.WellFormed := by
  have kept :=
    @ensureDirectories_wellFormed found.parent.start found.parent.names.reverse
      ⟨host.files, []⟩ []
      wellFormed (anchored_filePathOn canonical host.files)
  have after :
      (makeDirectories found.parent).on ⟨host.files, []⟩ = (outcome, trail) :=
    made
  rw [makeDirectories] at after
  rw [after] at kept
  exact kept.1

/-- The ways in which opening a log file goes. -/
inductive Opening
    (host : Host)
    (path : Path) :
    Except Fault File × FileSystem → Prop where
  | unlocated {error : PathError}
      (refused : filePathOn host host.files path = .error error) :
      Opening host path (.error (.path error), host.files)
  | unmade {found refused : Path} {error : FileError} {trail : Trail}
      (canonical : filePathOn host host.files path = .ok found)
      (stopped :
        (makeDirectories found.parent).runOn host.files =
          (.error (error, refused), trail)) :
      Opening host path (.error (.file error refused), trail.files)
  | unopened {found : Path} {error : FileError} {trail : Trail}
      (canonical : filePathOn host host.files path = .ok found)
      (made : (makeDirectories found.parent).runOn host.files = (.ok (), trail))
      (refused : File.openAt trail.files found = .error error) :
      Opening host path (.error (.file error found), trail.files)
  | opened {found : Path} {trail : Trail} {file : File} {files : FileSystem}
      (canonical : filePathOn host host.files path = .ok found)
      (made : (makeDirectories found.parent).runOn host.files = (.ok (), trail))
      (opens : File.openAt trail.files found = .ok (file, files)) :
      Opening host path (.ok file, files)

theorem opening
    (host : Host)
    (path : Path) :
    Opening host path (openFile host path) := by
  rw [openFile]
  cases canonical : filePathOn host host.files path with
  | error error => exact .unlocated canonical
  | ok found =>
      dsimp only
      cases made : (makeDirectories found.parent).runOn host.files with
      | mk outcome trail =>
          cases outcome with
          | error failure => exact .unmade canonical made
          | ok =>
              dsimp only
              cases opens : File.openAt trail.files found with
              | error error => exact .unopened canonical made opens
              | ok opening => exact .opened canonical made opens

/-- There is only one way to go. -/
theorem Opening.eq_openFile
    {result : Except Fault File × FileSystem}
    (opening : Opening host path result) :
    openFile host path = result := by
  rw [openFile]
  cases opening with
  | unlocated refused => rw [refused]
  | unmade canonical stopped =>
      rw [canonical]
      dsimp only
      rw [stopped]
  | unopened canonical made refused =>
      rw [canonical]
      dsimp only
      rw [made]
      dsimp only
      rw [refused]
  | opened canonical made opens =>
      rw [canonical]
      dsimp only
      rw [made]
      dsimp only
      rw [opens]

/-- The log file is opened unless it is refused. -/
theorem openFile_eq_error_iff
    {fault : Fault}
    (wellFormed : host.files.WellFormed) :
    (openFile host path).1 = .error fault ↔ FileRefused host path fault := by
  constructor
  · intro stopped
    have opening := opening host path
    generalize openFile host path = result at opening stopped
    cases opening with
    | unlocated refused =>
        cases stopped
        rcases filePathOn_eq_error_iff.mp refused with
          ⟨rfl, homeless⟩ | ⟨expanded, expands, unresolved⟩
        · exact .homeless homeless
        · exact .unresolved expands unresolved
    | unmade canonical unmade =>
        cases stopped
        exact .noDirectory canonical unmade
    | unopened canonical made refused =>
        cases stopped
        exact .noFile canonical made
          ((File.openAt_eq_error_iff
            (wellFormed_makeDirectories wellFormed canonical made)
            (anchored_filePathOn canonical _)).mp refused)
    | opened => cases stopped
  · intro refused
    cases refused with
    | homeless homeless =>
        rw [(Opening.unlocated
            (filePathOn_eq_error_iff.mpr (Or.inl ⟨rfl, homeless⟩))).eq_openFile]
    | unresolved expands refused =>
        rw [(Opening.unlocated
            (filePathOn_eq_error_iff.mpr
              (Or.inr ⟨_, expands, refused⟩))).eq_openFile]
    | noDirectory canonical unmade =>
        rw [(Opening.unmade canonical unmade).eq_openFile]
    | noFile canonical made none =>
        have refused :=
          (File.openAt_eq_error_iff
              (wellFormed_makeDirectories wellFormed canonical made)
              (anchored_filePathOn canonical _)).mpr none
        rw [(Opening.unopened canonical made refused).eq_openFile]

/-- Once a log file is open its path is found again, and is the same. -/
theorem filePathOn_of_openFile
    {file : File}
    {files : FileSystem}
    (wellFormed : host.files.WellFormed)
    (opened : openFile host path = (.ok file, files)) :
    filePathOn host files path = .ok file.path := by
  have opening := opening host path
  rw [opened] at opening
  cases opening with
  | @opened found trail _ _ canonical made opens =>
      have anchored := anchored_filePathOn canonical trail.files
      have wellFormedMade :=
        wellFormed_makeDirectories wellFormed canonical made
      have grown : GrownTowards found.parent host.files trail.files := by
        have continues :=
          (makeDirectories_continues found.parent ⟨host.files, []⟩).files
        rw [← Procedure.runOn_eq, made] at continues
        exact continues
      rw [filePathOn] at canonical ⊢
      cases expands : host.expandHome path with
      | error cause =>
          rw [expands] at canonical
          cases canonical
      | ok expanded =>
          rw [expands] at canonical
          exact File.resolve_of_openAt wellFormed wellFormedMade
            grown.onlyDirectories anchored canonical opens

end

/-! ## Setting the journal up -/

namespace Journal

variable {host : Host} {options : JournalOptions}

/-- The journal is set up unless a log file is asked for that is refused. -/
theorem setUp_eq_error_iff
    {fault : Fault}
    (wellFormed : host.files.WellFormed) :
    (setUp host options).1 = .error fault ↔
      ∃ wanted, options.filePath host.environment = some wanted ∧
        FileRefused host wanted fault := by
  rw [setUp]
  cases asked : options.filePath host.environment with
  | none => simp
  | some wanted =>
      have refused := @openFile_eq_error_iff host wanted fault wellFormed
      dsimp only
      cases opened : openFile host wanted with
      | mk outcome files =>
          rw [opened] at refused
          cases outcome <;> simp [← refused]

/--
A journal that was set up has the form that was asked for, and there is
something to be told about it.
-/
theorem setUp_eq_ok
    {journal : Journal}
    {told : Except PathError Event}
    {files : FileSystem}
    (wellFormed : host.files.WellFormed)
    (ready : setUp host options = (.ok (journal, told), files)) :
    journal.outlet.map Outlet.format =
      some (options.lineFormat host.environment) ∧
      ∃ event, told = .ok event := by
  rw [setUp] at ready
  cases asked : options.filePath host.environment with
  | none =>
      rw [asked] at ready
      cases ready
      exact ⟨rfl, _, rfl⟩
  | some wanted =>
      rw [asked] at ready
      dsimp only at ready
      cases opened : openFile host wanted with
      | mk outcome reached =>
          rw [opened] at ready
          cases outcome with
          | error fault => cases ready
          | ok file =>
              dsimp only at ready
              rw [filePathOn_of_openFile wellFormed opened] at ready
              cases ready
              exact ⟨rfl, _, rfl⟩

end Journal

end Log

namespace Program

variable {program : Program} {options : Log.JournalOptions}

/--
A program sets its journal up unless a log file is asked for that is refused.
-/
theorem setUpJournal_eq_error_iff
    {fault : Fault}
    (wellFormed : program.host.files.WellFormed) :
    (program.setUpJournal options).1 = .error fault ↔
      ∃ wanted,
        options.filePath program.host.environment = some wanted ∧
          Log.FileRefused program.host wanted fault := by
  rw [← Log.Journal.setUp_eq_error_iff wellFormed, setUpJournal]
  cases ready : Log.Journal.setUp program.host options with
  | mk outcome files =>
      cases outcome with
      | error other => simp
      | ok journal =>
          obtain ⟨journal, told⟩ := journal
          obtain ⟨-, event, rfl⟩ := Log.Journal.setUp_eq_ok wellFormed ready
          simp

end Program

end SettingsStore
