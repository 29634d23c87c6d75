import SettingsStore.Proofs.Files.Settling
import SettingsStore.Proofs.Manager.Running
import SettingsStore.Proofs.Manager.Saving

/-!
# Managers that stay in their directory

A manager that keeps everything in one directory makes that directory, with
those on the way to it, and after that touches nothing outside it.  The one
thing that could lead it out is that a save replaces a link through which the
directory is reached; but then a file is in the way, and neither a load nor a
save makes the directory anew.
-/

namespace SettingsStore

open FileSystem

namespace FileSystem

/-- A path leads to a directory in which a place is. -/
def Covers (files : FileSystem) (directory : Path) (place : Place) : Prop :=
  ∃ top mode, files.locate directory true = .ok ⟨top, some (.directory mode)⟩ ∧
    top <+: place

/-- The files after a directory was made, as far as it can be made. -/
def prepared (files : FileSystem) (directory : Path) : FileSystem :=
  ((makeDirectories directory).runOn files).2.files

/--
What stands outside a directory has not changed, except for directories on the
way to it that were missing.
-/
structure Confined (directory : Path) (before after : FileSystem) : Prop where
  places :
    ∀ place,
      after.get? place = before.get? place ∨
        (before.prepared directory).Covers directory place ∨
        (before.get? place = none ∧
          after.get? place = some (.directory (before.masked 0o777)) ∧
          (before.prepared directory).OnTheWay directory place)
  workDirectory : after.workDirectory = before.workDirectory
  umask : after.umask = before.umask

/--
Since a directory was made nothing outside it has changed, and it is not found
elsewhere or made anew.
-/
structure Dwelling (directory : Path) (made now : FileSystem) : Prop where
  settled : Settled directory now
  outside : ∀ place, now.get? place = made.get? place ∨
    made.Covers directory place
  leads :
    ∀ place mode, now.locate directory true =
    .ok ⟨place, some (.directory mode)⟩ →
    made.Covers directory place
  workDirectory : now.workDirectory = made.workDirectory
  umask : now.umask = made.umask

theorem Dwelling.refl
    {directory : Path}
    {made : FileSystem}
    (settled : Settled directory made) :
    Dwelling directory made made where
  settled := settled
  outside _ := Or.inl rfl
  leads place mode found := ⟨place, mode, found, List.prefix_refl place⟩
  workDirectory := rfl
  umask := rfl

/--
A session that is replaced in the directory is in the directory, and nothing
else has changed.
-/
theorem Dwelling.replaced
    {directory : Path}
    {content : ByteArray}
    {mode : Nat}
    {place : Place}
    {made now after : FileSystem}
    (dwelling : Dwelling directory made now)
    (replaced : SessionReplaced directory content mode place now after) :
    Dwelling directory made after := by
  obtain ⟨placeMode, leads⟩ := replaced.leads
  obtain ⟨top, topMode, topLeads, above⟩ := dwelling.leads place placeMode leads
  have onward :=
    locate_after_file replaced.noDirectory replaced.there replaced.same leads
  refine ⟨?_, ?_, ?_, replaced.same.workDirectory.trans dwelling.workDirectory,
    replaced.same.umask.trans dwelling.umask⟩
  · rcases onward with still | stops
    · exact settled_of_directory still
    · exact settled_of_stopsAtFile stops
  · intro other
    by_cases here : other = sessionPlace place
    · exact Or.inr ⟨top, topMode, topLeads,
        here ▸ above.trans (List.prefix_append ..)⟩
    · rw [replaced.same.entries other (by simpa using here)]
      exact dwelling.outside other
  · intro other otherMode found
    rcases onward with still | stops
    · rw [still] at found
      cases found
      exact ⟨top, topMode, topLeads, above⟩
    · rw [found] at stops
      exact stops.elim

/--
Replacing the session leaves everything outside the directory alone, whether it
succeeds or not.
-/
theorem Dwelling.written
    {directory : Path}
    {made : FileSystem}
    {trail during : Trail}
    {outcome : Except PathFailure Unit}
    (dwelling : Dwelling directory made during.files)
    (ran : (makeDirectories directory).on trail = (outcome, during))
    (content : ByteArray) :
    Dwelling directory made
      ((replaceFile (directory.child "session.json") content).on
          trail).2.files := by
  cases wrote :
    (replaceFile (directory.child "session.json") content).on trail with
  | mk result after =>
      cases result with
      | error error =>
          have left := replaceFile_of_error wrote
          rw [parent_child, ran] at left
          rw [left]
          exact dwelling
      | ok =>
          obtain ⟨reached, place, base, mode, done, _, replaced, _⟩ :=
            replaceFile_session wrote
          rw [ran] at done
          cases done
          exact dwelling.replaced replaced

/--
Nothing outside the directory has changed since before it was made, except on
the way to it.
-/
theorem Dwelling.confined
    {directory : Path}
    {files now : FileSystem}
    (dwelling : Dwelling directory (files.prepared directory) now) :
    Confined directory files now := by
  have grown : GrownTowards directory files (files.prepared directory) :=
    (makeDirectories_continues directory ⟨files, []⟩).files
  refine ⟨?_, dwelling.workDirectory.trans grown.workDirectory,
    dwelling.umask.trans grown.umask⟩
  intro place
  rcases dwelling.outside place with same | inside
  · rw [same]
    cases held : files.get? place with
    | some entry => exact Or.inl (grown.kept place entry held)
    | none =>
        cases added : (files.prepared directory).get? place with
        | none => exact Or.inl rfl
        | some entry =>
            obtain ⟨rfl, onTheWay⟩ := grown.added place entry held added
            exact Or.inr (Or.inr ⟨rfl, rfl, onTheWay⟩)
  · exact Or.inr (Or.inl inside)

end FileSystem

/-! ## Loads and saves -/

/-- What a manager is asked to do. -/
inductive Request where
  | load
  | save
  | edit (change : Session → Session)

namespace Manager

/-- The manager and its files after a request. -/
def serve
    (manager : Manager)
    (files : FileSystem) :
    Request → Manager × FileSystem
  | .load => ((manager.load files).manager, (manager.load files).files)
  | .save => ((manager.save files).manager, (manager.save files).files)
  | .edit change => ({ manager with session := change manager.session }, files)

/-- The manager and its files after a run of requests. -/
def serveAll
    (manager : Manager)
    (files : FileSystem) :
    List Request → Manager × FileSystem
  | [] => (manager, files)
  | request :: rest =>
    (manager.serve files request).1.serveAll
      (manager.serve files request).2 rest

/--
A manager keeps the settings of the user and the session in one directory.
-/
def KeptIn (manager : Manager) (directory : Path) : Prop :=
  manager.paths.userData = some directory ∧
    manager.paths.machineData = some directory

end Manager

/-- Making a directory twice comes to making it once. -/
theorem ensureDataDirectories_snd
    {paths : ResolvedPaths}
    {directory : Path}
    (user : paths.userData = some directory)
    (machine : paths.machineData = some directory)
    (trail : Trail) :
    ((ensureDataDirectories paths).on trail).2 =
      ((makeDirectories directory).on trail).2 := by
  rw [ensureDataDirectories_on, user, machine, ensureDataDirectory_some]
  have settled := settled_made directory trail
  generalize (makeDirectories directory).on trail = result at settled ⊢
  obtain ⟨outcome, made⟩ := result
  cases outcome with
  | error failure => rfl
  | ok =>
      obtain ⟨again, same⟩ := settled made.earlier
      have there : (makeDirectories directory).on made = (again, made) := same
      dsimp only
      rw [ensureDataDirectory_some, there]
      cases again <;> rfl

namespace Manager

variable {manager : Manager} {directory : Path}

theorem KeptIn.load_files
    (kept : manager.KeptIn directory)
    (files : FileSystem) :
    (manager.load files).files = files.prepared directory := by
  obtain ⟨_, _, trail⟩ := manager.load_eq files
  rw [Outcome.files, trail, Procedure.runOn_eq,
    ensureDataDirectories_snd kept.1 kept.2]
  rfl

theorem KeptIn.serve
    (kept : manager.KeptIn directory)
    (files : FileSystem)
    (request : Request) :
    (manager.serve files request).1.KeptIn directory := by
  cases request with
  | load =>
      obtain ⟨_, concluded, _⟩ := manager.load_eq files
      have paths :=
        (manager.concluded_kept
            (documentsOf files manager.paths manager.codec)).1
      rw [← concluded] at paths
      rw [KeptIn, Manager.serve, paths]
      exact kept
  | save =>
      rw [KeptIn, Manager.serve, manager.save_manager files]
      exact kept
  | edit => exact kept

/-- A save leaves everything outside the directory alone. -/
theorem KeptIn.save_dwelling
    {made files : FileSystem}
    (kept : manager.KeptIn directory)
    (dwelling : Dwelling directory made (files.prepared directory)) :
    (manager.save files).files = files ∨
      Dwelling directory made (manager.save files).files := by
  have known := saved kept.2 files
  generalize manager.save files = outcome at known ⊢
  have written :=
    @Dwelling.written directory made ⟨files, []⟩ _ _ dwelling (Prod.eta _).symm
  cases known with
  | unwritable => exact Or.inl rfl
  | @refused content _ _ _ _ failed =>
      have left := written content
      rw [failed] at left
      exact Or.inr left
  | @replaced content _ _ _ done =>
      have left := written content
      rw [done] at left
      exact Or.inr left

/--
One request: the files are still the first ones, or everything outside the
directory is as it was made.
-/
theorem KeptIn.serve_dwelling
    {files now : FileSystem}
    (kept : manager.KeptIn directory)
    (sofar : now = files ∨ Dwelling directory (files.prepared directory) now)
    (request : Request) :
    (manager.serve now request).2 = files ∨
      Dwelling directory (files.prepared directory)
        (manager.serve now request).2 := by
  have prepares :
      Dwelling directory (files.prepared directory)
        (now.prepared directory) := by
    rcases sofar with rfl | dwelling
    · exact .refl (settled_made directory ⟨now, []⟩)
    · obtain ⟨outcome, same⟩ := dwelling.settled []
      have unchanged : now.prepared directory = now := by
        rw [prepared, Procedure.runOn_eq, same]
      rw [unchanged]
      exact dwelling
  cases request with
  | load =>
      refine Or.inr ?_
      change Dwelling directory _ (manager.load now).files
      rw [kept.load_files]
      exact prepares
  | save =>
      change (manager.save now).files = files ∨
        Dwelling directory _ (manager.save now).files
      rcases kept.save_dwelling prepares with same | dwelling
      · rw [same]
        exact sofar
      · exact Or.inr dwelling
  | edit => exact sofar

/-- A whole run. -/
theorem KeptIn.serveAll_dwelling
    {files now : FileSystem}
    (kept : manager.KeptIn directory)
    (sofar : now = files ∨ Dwelling directory (files.prepared directory) now)
    (requests : List Request) :
    (manager.serveAll now requests).2 = files ∨
      Dwelling directory (files.prepared directory)
        (manager.serveAll now requests).2 := by
  induction requests generalizing manager now with
  | nil => exact sofar
  | cons request rest induction =>
      exact induction (kept.serve now request)
        (kept.serve_dwelling sofar request)

/--
Whatever a manager is asked to do, it changes nothing outside the directory in
which it is kept.
-/
theorem KeptIn.serveAll_confined
    (kept : manager.KeptIn directory)
    (files : FileSystem)
    (requests : List Request) :
    Confined directory files (manager.serveAll files requests).2 := by
  rcases kept.serveAll_dwelling (Or.inl rfl) requests with same | dwelling
  · rw [same]
    exact ⟨fun _ => Or.inl rfl, rfl, rfl⟩
  · exact dwelling.confined

end Manager

end SettingsStore
