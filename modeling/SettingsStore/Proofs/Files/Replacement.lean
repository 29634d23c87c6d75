import SettingsStore.Manager.Save
import SettingsStore.Proofs.Files.Directories
import SettingsStore.Proofs.Lookup

/-!
# Replacing a file

A file is replaced by way of a temporary one.  As long as the temporary file is
there, the file system is the one from before with a file at a place that was
free; so the temporary file is found again whatever is done to it, and taking it
away brings back what was there.  Only the last operation touches the file that
is replaced.
-/

namespace SettingsStore

namespace FileSystem

/-! ## File systems that are the same but for some places -/

/-- The same entries stand in two file systems, except at some places. -/
structure SameExcept
    (changed : List Place)
    (before after : FileSystem) :
    Prop where
  entries : ∀ place, place ∉ changed → after.get? place = before.get? place
  workDirectory : after.workDirectory = before.workDirectory
  umask : after.umask = before.umask

namespace SameExcept

variable {changed others : List Place} {first second third : FileSystem}

theorem trans
    (left : SameExcept changed first second)
    (right : SameExcept changed second third) :
    SameExcept changed first third :=
  ⟨fun place outside => (right.entries place outside).trans
      (left.entries place outside),
    right.workDirectory.trans left.workDirectory, right.umask.trans left.umask⟩

theorem symm
    (same : SameExcept changed first second) :
    SameExcept changed second first :=
  ⟨fun place outside => (same.entries place outside).symm,
    same.workDirectory.symm, same.umask.symm⟩

theorem mono
    (same : SameExcept changed first second)
    (more : changed ⊆ others) :
    SameExcept others first second :=
  ⟨fun place outside => same.entries place
      (fun member => outside (more member)),
    same.workDirectory, same.umask⟩

/-- A change at a place is none if the entry there is the same again. -/
theorem restored
    {place : Place}
    (same : SameExcept (place :: changed) first second)
    (again : second.get? place = first.get? place) :
    SameExcept changed first second := by
  refine ⟨fun other outside => ?_, same.workDirectory, same.umask⟩
  by_cases here : other = place
  · rw [here, again]
  · exact same.entries other (by simp [here, outside])

/--
A file system with an entry at a place that was free extends the one from
before.
-/
theorem extends_
    {place : Place}
    (same : SameExcept [place] first second)
    (nothing : first.get? place = none) :
    Extends first second := by
  refine ⟨fun other entry found => ?_, same.workDirectory⟩
  rw [same.entries other ?_, found]
  rintro member
  rw [List.mem_singleton.mp member, nothing] at found
  cases found

end SameExcept

theorem sameExcept_put
    (files : FileSystem)
    (place : Place)
    (entry : Entry) :
    SameExcept [place] files (files.put place entry) := by
  refine ⟨fun other outside => ?_, rfl, rfl⟩
  have differs : other ≠ place := by simpa using outside
  simp only [get?, put, lookup_putEntry, if_neg differs]

theorem sameExcept_erase
    (files : FileSystem)
    (place : Place) :
    SameExcept [place] files (files.erase place) := by
  refine ⟨fun other outside => ?_, rfl, rfl⟩
  have differs : other ≠ place := by simpa using outside
  simp only [get?, erase, lookup_filter_ne, if_neg differs]

theorem get?_erase_self
    {files : FileSystem}
    {place : Place}
    (below : place ≠ []) :
    (files.erase place).get? place = none := by
  rw [get?, if_neg below]
  simp only [erase, lookup_filter_ne, if_true]

theorem putEntry_putEntry
    (place : Place)
    (first second : Entry)
    (entries : List (Place × Entry)) :
    putEntry place second (putEntry place first entries) =
      putEntry place second entries := by
  induction entries with
  | nil => simp [putEntry]
  | cons pair entries induction =>
      obtain ⟨other, held⟩ := pair
      by_cases here : other = place
      · simp [putEntry, here]
      · simp [putEntry, here, induction]

/-- What is put last counts. -/
theorem put_put
    (files : FileSystem)
    (place : Place)
    (first second : Entry) :
    (files.put place first).put place second = files.put place second := by
  simp only [put, putEntry_putEntry]

theorem filter_putEntry
    {place : Place}
    {entries : List (Place × Entry)}
    (nothing : entries.lookup place = none)
    (entry : Entry) :
    (putEntry place entry entries).filter (fun pair => pair.1 ≠ place) =
      entries := by
  induction entries with
  | nil => simp [putEntry]
  | cons pair entries induction =>
      obtain ⟨other, held⟩ := pair
      rw [lookup_cons_eq] at nothing
      by_cases here : place = other
      · rw [if_pos here] at nothing
        cases nothing
      · rw [if_neg here] at nothing
        rw [putEntry, if_neg (Ne.symm here),
          List.filter_cons_of_pos (by simpa using Ne.symm here),
          induction nothing]

/--
Taking away what was put at a free place brings back what was there before.
-/
theorem erase_put
    {files : FileSystem}
    {place : Place}
    (nothing : files.get? place = none)
    (entry : Entry) :
    (files.put place entry).erase place = files := by
  rw [get?, if_neg (ne_root_of_get?_eq_none nothing)] at nothing
  simp only [put, erase, filter_putEntry nothing]

/-! ## While the temporary file is there -/

/-- A file was put at the free place to which a path leads. -/
structure HoldsTemporary
    (temporary : Path)
    (origin : Place)
    (before after : FileSystem) :
    Prop where
  free : before.locate temporary false = .ok ⟨origin, none⟩
  held : ∃ content mode, after = before.put origin (.file content mode)

namespace HoldsTemporary

variable {temporary : Path} {origin : Place} {before after : FileSystem}

theorem nothing (holds : HoldsTemporary temporary origin before after) :
    before.get? origin = none :=
  get?_of_locate (by simp) holds.free

theorem file (holds : HoldsTemporary temporary origin before after) :
    ∃ content mode, after.get? origin = some (.file content mode) := by
  obtain ⟨content, mode, rfl⟩ := holds.held
  exact ⟨content, mode, get?_put_self holds.nothing _⟩

theorem same (holds : HoldsTemporary temporary origin before after) :
    SameExcept [origin] before after := by
  obtain ⟨content, mode, rfl⟩ := holds.held
  exact sameExcept_put before origin _

theorem extends_
    (holds : HoldsTemporary temporary origin before after) :
    Extends before after :=
  holds.same.extends_ holds.nothing

/-- The temporary file is found under its path. -/
theorem locate
    (holds : HoldsTemporary temporary origin before after)
    {content : ByteArray}
    {mode : Nat}
    (there : after.get? origin = some (.file content mode))
    (followLast : Bool) :
    after.locate temporary followLast =
      .ok ⟨origin, some (.file content mode)⟩ :=
  locate_fill holds.extends_ there (by simp [NoLink]) holds.free followLast

theorem put
    (holds : HoldsTemporary temporary origin before after)
    (content : ByteArray)
    (mode : Nat) :
    HoldsTemporary temporary origin before
      (after.put origin (.file content mode)) ∧
      (after.put origin (.file content mode)).get? origin =
        some (.file content mode) := by
  obtain ⟨old, oldMode, rfl⟩ := holds.held
  rw [put_put]
  exact ⟨⟨holds.free, content, mode, rfl⟩, get?_put_self holds.nothing _⟩

/-- Taking the temporary file away brings back what was there before. -/
theorem removeFile (holds : HoldsTemporary temporary origin before after) :
    after.removeFile temporary = .ok before := by
  obtain ⟨content, mode, there⟩ := holds.file
  rw [FileSystem.removeFile, holds.locate there]
  obtain ⟨old, oldMode, rfl⟩ := holds.held
  dsimp only
  rw [erase_put holds.nothing]

end HoldsTemporary

/-! ## Making the temporary file -/

/-- What making a temporary file comes to. -/
inductive Created (directory : Path) (before after : Text) (trail : Trail) :
    Except FileError Path × Trail → Prop where
  | created {number : Nat} {origin : Place}
      (free :
        trail.files.locate (directory.child (temporaryName before after number))
          false =
          .ok ⟨origin, none⟩) :
      Created directory before after trail
        (.ok (directory.child (temporaryName before after number)),
          ⟨trail.files.put origin
              (.file ByteArray.empty (trail.files.masked 0o600)),
            trail.files :: trail.earlier⟩)
  | refused (error : FileError) :
      Created directory before after trail (.error error, trail)

theorem created
    (directory : Path)
    (before after : Text)
    (tries number : Nat)
    (trail : Trail) :
    Created directory before after trail
      ((createTemporaryFrom directory before after tries number).on trail) := by
  induction tries generalizing number with
  | zero => exact .refused .alreadyExists
  | succ tries induction =>
      rw [createTemporaryFrom, Procedure.on_bind, Procedure.on_attempt]
      cases located :
          trail.files.locate
            (directory.child (temporaryName before after number)) false with
      | error error =>
          have failed :
              trail.files.createFile
                (directory.child (temporaryName before after number)) 0o600 =
                .error error := by
            rw [createFile, located]
          rw [Procedure.on_perform_of_error failed]
          cases error with
          | alreadyExists => exact induction (number + 1)
          | _ => exact .refused _
      | ok spot =>
          obtain ⟨origin, entry⟩ := spot
          cases entry with
          | none =>
              have made :
                  trail.files.createFile
                    (directory.child (temporaryName before after number))
                    0o600 =
                    .ok (trail.files.put origin
                      (.file ByteArray.empty (trail.files.masked 0o600))) := by
                rw [createFile, located]
              rw [Procedure.on_perform_of_ok made]
              exact .created located
          | some held =>
              have taken :
                  trail.files.createFile
                    (directory.child (temporaryName before after number))
                    0o600 =
                    .error .alreadyExists := by
                rw [createFile, located]
              rw [Procedure.on_perform_of_error taken]
              exact induction (number + 1)

/-- A temporary file that was just made is there. -/
theorem holdsTemporary_of_free
    {files : FileSystem}
    {temporary : Path}
    {origin : Place}
    (free : files.locate temporary false = .ok ⟨origin, none⟩)
    (content : ByteArray)
    (mode : Nat) :
    HoldsTemporary temporary origin files
      (files.put origin (.file content mode)) where
  free := free
  held := ⟨content, mode, rfl⟩

/-! ## Filling it and moving it -/

/-- What filling a temporary file and moving it over another one comes to. -/
inductive Filled
    (path temporary : Path)
    (content : ByteArray)
    (origin : Place)
    (before : FileSystem) :
    Except FileError Unit × Trail → Prop where
  | replaced {filled ready : FileSystem} {after : Trail} {goal : Place}
    {held : Option Entry} {mode : Nat}
      (whileAsked : HoldsTemporary temporary origin before filled)
      (asked : targetMode filled path = .ok mode)
      (whileMoved : HoldsTemporary temporary origin before ready)
      (target : ready.locate path false = .ok ⟨goal, held⟩)
      (noDirectory : ∀ mode, held ≠ some (.directory mode))
      (there : after.files.get? goal = some (.file content mode))
      (same : SameExcept [goal] before after.files) :
      Filled path temporary content origin before (.ok (), after)
  | refused {error : FileError} {after : Trail}
      (holds : HoldsTemporary temporary origin before after.files)
      (cause :
        targetMode after.files path = .error error ∨
          after.files.locate path false = .error error ∨
            ∃ goal mode, after.files.locate path false =
              .ok ⟨goal, some (.directory mode)⟩) :
      Filled path temporary content origin before (.error error, after)

/--
Moving the temporary file over what is no directory leaves it at the goal and
nowhere else.
-/
theorem HoldsTemporary.rename
    {path temporary : Path}
    {content : ByteArray}
    {mode : Nat}
    {origin : Place}
    {before ready : FileSystem}
    (holds : HoldsTemporary temporary origin before ready)
    (there : ready.get? origin = some (.file content mode)) :
    (∃ error, ready.rename temporary path = .error error ∧
      (ready.locate path false = .error error ∨
        ∃ goal mode, ready.locate path false =
          .ok ⟨goal, some (.directory mode)⟩)) ∨
    ∃ files goal held,
      ready.rename temporary path = .ok files ∧
        ready.locate path false = .ok ⟨goal, held⟩ ∧
        (∀ mode, held ≠ some (.directory mode)) ∧
          files.get? goal = some (.file content mode) ∧
            SameExcept [goal] before files := by
  cases target : ready.locate path false with
  | error error =>
      refine Or.inl ⟨error, ?_, Or.inl rfl⟩
      rw [FileSystem.rename, holds.locate there]
      simp only [target]
  | ok spot =>
      obtain ⟨goal, held⟩ := spot
      by_cases directory : ∃ mode, held = some (.directory mode)
      · obtain ⟨mode, rfl⟩ := directory
        refine Or.inl ⟨.isDirectory, ?_, Or.inr ⟨goal, mode, rfl⟩⟩
        rw [FileSystem.rename, holds.locate there]
        simp only [target]
      · have noDirectory : ∀ mode, held ≠ some (.directory mode) :=
          fun mode same => directory ⟨mode, same⟩
        have held_ : ready.get? goal = held := get?_of_locate noDirectory target
        have below : goal ≠ [] := by
          rintro rfl
          exact noDirectory 0o755 (by rw [← held_]; rfl)
        have moved :
            ready.rename temporary path =
              if origin = goal then .ok ready
              else .ok
                ((ready.put goal (.file content mode)).erase origin) := by
          rw [FileSystem.rename, holds.locate there]
          simp only [target]
        by_cases same : origin = goal
        · subst same
          rw [if_pos rfl] at moved
          exact Or.inr ⟨ready, origin, held, moved, rfl, noDirectory,
            there, holds.same⟩
        · rw [if_neg same] at moved
          refine Or.inr ⟨_, goal, held, moved, rfl, noDirectory, ?_, ?_⟩
          · have erased :=
              sameExcept_erase (ready.put goal (.file content mode)) origin
            rw [erased.entries goal (by simpa using Ne.symm same),
              get?_put _ _ _ _ below, if_pos rfl]
          · have put := sameExcept_put ready goal (.file content mode)
            have erased :=
              sameExcept_erase (ready.put goal (.file content mode)) origin
            have all : SameExcept [origin, goal] before
                ((ready.put goal (.file content mode)).erase origin) :=
              ((holds.same.mono (by simp)).trans (put.mono (by simp))).trans
                (erased.mono (by simp))
            refine all.restored ?_
            rw [get?_erase_self (ne_root_of_get?_eq_none holds.nothing),
              holds.nothing]

/--
The four operations on a temporary file and its goal, and where they can stop.
-/
theorem filled
    {path temporary : Path}
    (content : ByteArray)
    {origin : Place}
    {before : FileSystem}
    {trail : Trail}
    (holds : HoldsTemporary temporary origin before trail.files) :
    Filled path temporary content origin before
      ((fillAndReplace path temporary content).on trail) := by
  obtain ⟨old, oldMode, there⟩ := holds.file
  have written :
      trail.files.writeContent temporary content =
        .ok (trail.files.put origin (.file content oldMode)) := by
    rw [writeContent, holds.locate there]
    rfl
  obtain ⟨whileAsked, contentThere⟩ := holds.put content oldMode
  rw [fillAndReplace, Procedure.on_bind_of_ok
      (Procedure.on_perform_of_ok written),
    Procedure.on_bind_of_ok (Procedure.on_perform_of_ok rfl)]
  generalize trail.files.put origin (.file content oldMode) = filled
    at whileAsked contentThere
  cases asked : targetMode filled path with
  | error error =>
      rw [Procedure.on_bind, Procedure.on_ask]
      dsimp only
      rw [asked]
      exact .refused whileAsked (Or.inl asked)
  | ok mode =>
      rw [Procedure.on_bind, Procedure.on_ask]
      dsimp only
      rw [asked]
      dsimp only
      have changed :
          filled.changeMode temporary mode =
            .ok (filled.put origin (.file content mode)) := by
        rw [changeMode, whileAsked.locate contentThere]
      rw [Procedure.on_bind_of_ok (Procedure.on_perform_of_ok changed)]
      obtain ⟨whileMoved, ready⟩ := whileAsked.put content mode
      rcases whileMoved.rename ready with
        ⟨error, refused, cause⟩ | ⟨files, goal, held, moved, target,
          noDirectory, there, same⟩
      · rw [Procedure.on_perform_of_error refused]
        exact .refused whileMoved (Or.inr cause)
      · rw [Procedure.on_perform_of_ok moved]
        exact .replaced whileAsked asked whileMoved target
          noDirectory there same

/-! ## Replacing a file -/

/-- The path that is tried for a temporary file beside a session. -/
def temporaryPath (directory : Path) (number : Nat) : Path :=
  directory.normalize.child (temporaryName ".session." ".tmp" number)

/--
What replacing a file comes to, by the operation that stops it if one does.
-/
inductive Replacement (path : Path) (content : ByteArray) (trail : Trail) :
    Except FileError Unit × Trail → Prop where
  | blocked {error : FileError} {refused : Path} {made : Trail}
      (unmade :
        (makeDirectories path.parent).on trail =
          (.error (error, refused), made)) :
      Replacement path content trail (.error error, made)
  | adrift {made : Trail}
      (done : (makeDirectories path.parent).on trail = (.ok (), made))
      (gone : made.files.fromRoot? path.parent = none) :
      Replacement path content trail (.error .noEntry, made)
  | noTemporary {error : FileError} {made : Trail} {directory : Path}
      (done : (makeDirectories path.parent).on trail = (.ok (), made))
      (fromRoot : made.files.fromRoot? path.parent = some directory)
      (refused :
        (createTemporary directory.normalize ".session." ".tmp").on made =
          (.error error, made)) :
      Replacement path content trail (.error error, made)
  | refused {error : FileError} {made after : Trail} {directory : Path}
    {number : Nat} {origin : Place}
      {during : FileSystem}
      (done : (makeDirectories path.parent).on trail = (.ok (), made))
      (fromRoot : made.files.fromRoot? path.parent = some directory)
      (holds :
        HoldsTemporary (temporaryPath directory number) origin
          made.files during)
      (cause :
        targetMode during path = .error error ∨
          during.locate path false = .error error ∨
            ∃ goal mode, during.locate path false =
              .ok ⟨goal, some (.directory mode)⟩)
      (restored : after.files = made.files) :
      Replacement path content trail (.error error, after)
  | replaced {made after : Trail} {directory : Path} {number : Nat}
    {origin : Place}
      (done : (makeDirectories path.parent).on trail = (.ok (), made))
      (fromRoot : made.files.fromRoot? path.parent = some directory)
      (filled :
        Filled path (temporaryPath directory number) content origin made.files
          (.ok (), after)) :
      Replacement path content trail (.ok (), after)

/--
A replacement makes the directories and then a temporary file, which is filled
and moved or else taken away.
-/
theorem replaceFile_on
    (path : Path)
    (content : ByteArray)
    (trail : Trail) :
    (replaceFile path content).on trail =
      match (makeDirectories path.parent).on trail with
      | (.error (error, _), made) => (.error error, made)
      | (.ok (), made) =>
        match made.files.fromRoot? path.parent with
        | none => (.error .noEntry, made)
        | some directory =>
          match (createTemporary directory.normalize ".session." ".tmp").on
            made with
          | (.error error, after) => (.error error, after)
          | (.ok temporary, during) =>
            match (fillAndReplace path temporary content).on during with
            | (.ok (), after) => (.ok (), after)
            | (.error error, after) =>
              (.error error,
                ((Procedure.perform fun files => files.removeFile temporary :
                    Procedure FileError Unit).on
                      after).2) := by
  rw [replaceFile, Procedure.on_bind, Procedure.on_attempt]
  generalize (makeDirectories path.parent).on trail = directories
  obtain ⟨outcome, made⟩ := directories
  cases outcome with
  | error failure => rfl
  | ok =>
      dsimp only
      rw [Procedure.on_bind, Procedure.on_ask]
      dsimp only
      cases made.files.fromRoot? path.parent with
      | none => rfl
      | some directory =>
          dsimp only
          rw [Procedure.on_bind]
          generalize (createTemporary directory.normalize ".session." ".tmp").on
            made = created
          obtain ⟨outcome, during⟩ := created
          cases outcome with
          | error error => rfl
          | ok temporary =>
              dsimp only
              rw [Procedure.on_bind, Procedure.on_attempt]
              generalize (fillAndReplace path temporary content).on during =
                tried
              obtain ⟨outcome, after⟩ := tried
              cases outcome <;> rfl

/-- The temporary file is gone in the end, whether it was moved or not. -/
theorem replacement_of_filled
    {path directory : Path}
    {content : ByteArray}
    {trail made : Trail}
    {number : Nat}
    {origin : Place}
    {result : Except FileError Unit × Trail}
    (done : (makeDirectories path.parent).on trail = (.ok (), made))
    (fromRoot : made.files.fromRoot? path.parent = some directory) :
    Filled path (temporaryPath directory number) content origin
      made.files result →
      Replacement path content trail
        (match result with
        | (.ok (), after) => (.ok (), after)
        | (.error error, after) =>
          (.error error,
            ((Procedure.perform fun files =>
                files.removeFile (temporaryPath directory number) :
              Procedure FileError Unit).on after).2)) := by
  intro known
  obtain ⟨outcome, after⟩ := result
  cases outcome with
  | ok => exact .replaced done fromRoot known
  | error error =>
      cases known with
      | refused holds cause =>
          dsimp only
          rw [Procedure.on_perform_of_ok holds.removeFile]
          exact .refused done fromRoot holds cause rfl

theorem replacement
    (path : Path)
    (content : ByteArray)
    (trail : Trail) :
    Replacement path content trail ((replaceFile path content).on trail) := by
  rw [replaceFile_on]
  cases ran : (makeDirectories path.parent).on trail with
  | mk outcome made =>
      cases outcome with
      | error failure => exact .blocked ran
      | ok =>
          dsimp only
          cases fromRoot : made.files.fromRoot? path.parent with
          | none => exact .adrift ran fromRoot
          | some directory =>
              dsimp only
              have known :=
                created directory.normalize ".session." ".tmp"
                  temporaryTries 0 made
              rw [← createTemporary] at known
              generalize temporary :
                (createTemporary directory.normalize ".session." ".tmp").on
                made = result at known
              cases known with
              | refused error => exact .noTemporary ran fromRoot temporary
              | @created number origin free =>
                  refine replacement_of_filled ran fromRoot
                    (@filled path (temporaryPath directory number) content
                        origin made.files _ ?_)
                  exact holdsTemporary_of_free free _ _

/-! ## What is passed on the way -/

/-- While a temporary file is filled and until it is moved, it is there. -/
theorem fillAndReplace_passes
    (path : Path)
    {temporary : Path}
    (content : ByteArray)
    {origin : Place}
    {before : FileSystem}
    {trail : Trail}
    (holds : HoldsTemporary temporary origin before trail.files) :
    ∃ passed,
      ((fillAndReplace path temporary content).on trail).2.earlier =
        passed ++ trail.earlier ∧
        ∀ files ∈ passed, HoldsTemporary temporary origin before files := by
  obtain ⟨old, oldMode, there⟩ := holds.file
  have written :
      trail.files.writeContent temporary content =
        .ok (trail.files.put origin (.file content oldMode)) := by
    rw [writeContent, holds.locate there]
    rfl
  obtain ⟨whileAsked, contentThere⟩ := holds.put content oldMode
  rw [fillAndReplace, Procedure.on_bind_of_ok
      (Procedure.on_perform_of_ok written),
    Procedure.on_bind_of_ok (Procedure.on_perform_of_ok rfl), Procedure.on_bind,
    Procedure.on_ask]
  generalize trail.files.put origin (.file content oldMode) = filled
    at whileAsked contentThere
  dsimp only
  cases targetMode filled path with
  | error error =>
      exact ⟨[filled, trail.files], rfl, by simp [whileAsked, holds]⟩
  | ok mode =>
      dsimp only
      have changed :
          filled.changeMode temporary mode =
            .ok (filled.put origin (.file content mode)) := by
        rw [changeMode, whileAsked.locate contentThere]
      rw [Procedure.on_bind_of_ok (Procedure.on_perform_of_ok changed)]
      obtain ⟨whileMoved, _⟩ := whileAsked.put content mode
      generalize filled.put origin (.file content mode) = ready at whileMoved
      cases moved : ready.rename temporary path with
      | error error =>
          rw [Procedure.on_perform_of_error moved]
          exact ⟨[filled, filled, trail.files],
            rfl, by simp [whileAsked, holds]⟩
      | ok files =>
          rw [Procedure.on_perform_of_ok moved]
          exact ⟨[ready, filled, filled, trail.files],
            rfl, by simp [whileMoved, whileAsked, holds]⟩

/-- A file system that is passed on the way to a replaced file. -/
inductive PassedBy (path : Path) (trail : Trail) : FileSystem → Prop where
  /-- The directories are being made. -/
  | makingDirectories {files : FileSystem}
      (passed : files ∈ ((makeDirectories path.parent).on trail).2.earlier) :
      PassedBy path trail files
  | madeDirectories {made : Trail}
      (done : (makeDirectories path.parent).on trail = (.ok (), made)) :
      PassedBy path trail made.files
  | holdingTemporary {made : Trail} {directory : Path} {number : Nat}
    {origin : Place} {files : FileSystem}
      (done : (makeDirectories path.parent).on trail = (.ok (), made))
      (fromRoot : made.files.fromRoot? path.parent = some directory)
      (holds :
        HoldsTemporary (temporaryPath directory number) origin
          made.files files) :
      PassedBy path trail files

/--
Once there is a temporary file, it is there until it is moved or taken away.
-/
theorem passedBy_of_temporary
    {path directory : Path}
    (content : ByteArray)
    {trail made : Trail}
    {number : Nat}
    {origin : Place}
    {start during : FileSystem}
    (done : (makeDirectories path.parent).on trail = (.ok (), made))
    (fromRoot : made.files.fromRoot? path.parent = some directory)
    (holds :
      HoldsTemporary (temporaryPath directory number) origin made.files start)
    (passed :
      during ∈
        (match (fillAndReplace path (temporaryPath directory number) content).on
            ⟨start, made.files :: made.earlier⟩ with
        | (.ok (), after) => ((.ok (), after) : Except FileError Unit × Trail)
        | (.error error, after) =>
          (.error error,
            ((Procedure.perform fun files =>
                files.removeFile (temporaryPath directory number) :
              Procedure FileError Unit).on after).2)).2.earlier) :
    PassedBy path trail during := by
  obtain ⟨held, equal, whileHeld⟩ :=
    @fillAndReplace_passes path _ content _ _
      ⟨start, made.files :: made.earlier⟩ holds
  have known :=
    @filled path _ content _ _ ⟨start, made.files :: made.earlier⟩ holds
  have before :
      during ∈ held ++ made.files :: made.earlier →
        PassedBy path trail during := by
    intro member
    rcases List.mem_append.mp member with meanwhile | sooner
    · exact .holdingTemporary done fromRoot (whileHeld during meanwhile)
    · rcases List.mem_cons.mp sooner with rfl | sooner
      · exact .madeDirectories done
      · exact .makingDirectories (by rwa [done])
  generalize (fillAndReplace path (temporaryPath directory number) content).on
    ⟨start, made.files :: made.earlier⟩ = result at equal known passed
  cases known with
  | replaced =>
      rw [equal] at passed
      exact before passed
  | refused stillHolds _ =>
      dsimp only at passed
      rw [Procedure.on_perform_of_ok stillHolds.removeFile] at passed
      rcases List.mem_cons.mp passed with rfl | sooner
      · exact .holdingTemporary done fromRoot stillHolds
      · rw [equal] at sooner
        exact before sooner

/--
Each file system between two operations is one in which directories are made or
a temporary file is held.
-/
theorem replaceFile_passes
    (path : Path)
    (content : ByteArray)
    (trail : Trail) :
    ∀ during ∈ ((replaceFile path content).on trail).2.earlier,
      PassedBy path trail during := by
  intro during passed
  rw [replaceFile_on] at passed
  cases ran : (makeDirectories path.parent).on trail with
  | mk outcome made =>
      have making : during ∈ made.earlier → PassedBy path trail during := by
        intro sooner
        refine .makingDirectories ?_
        rw [ran]
        exact sooner
      rw [ran] at passed
      cases outcome with
      | error failure => exact making passed
      | ok =>
          dsimp only at passed
          cases fromRoot : made.files.fromRoot? path.parent with
          | none =>
              rw [fromRoot] at passed
              exact making passed
          | some directory =>
              rw [fromRoot] at passed
              dsimp only at passed
              have known :=
                created directory.normalize ".session." ".tmp"
                  temporaryTries 0 made
              rw [← createTemporary] at known
              generalize temporary :
                (createTemporary directory.normalize ".session." ".tmp").on
                made = result
                at known passed
              cases known with
              | refused error => exact making passed
              | @created number origin free =>
                  have holds :
                      HoldsTemporary (temporaryPath directory number)
                        origin made.files
                        (made.files.put origin
                            (.file ByteArray.empty
                              (made.files.masked 0o600))) :=
                    holdsTemporary_of_free free _ _
                  exact passedBy_of_temporary content ran fromRoot holds passed

end FileSystem

end SettingsStore
