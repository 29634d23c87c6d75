import SettingsStore.Proofs.Files.Children
import SettingsStore.Proofs.Manager.Telling

/-!
# What a load does to the files

A load touches the files in one way only: it makes the data directories with
those on the way to them.  However far it comes, everything that was there
stays, and what is new are directories on the way.  Once both are there nothing
is left to be made, and so a load that follows another one finds the same
documents and leaves the files alone.
-/

namespace SettingsStore

open FileSystem

namespace ResolvedPaths

/-- A path is one of the data directories. -/
def HasData (paths : ResolvedPaths) (directory : Path) : Prop :=
  paths.userData = some directory ∨ paths.machineData = some directory

end ResolvedPaths

/--
Everything has stayed, and nothing but directories on the way to the data
directories was added.
-/
structure Furnished
    (paths : ResolvedPaths)
    (before after : FileSystem) :
    Prop extends
    Extends before after where
  umask : after.umask = before.umask
  added :
    ∀ place entry, before.get? place = none → after.get? place = some entry →
      entry = .directory (before.masked 0o777) ∧
        ∃ directory, paths.HasData directory ∧ after.OnTheWay directory place

/-- The data directories are there. -/
def Ready (paths : ResolvedPaths) (files : FileSystem) : Prop :=
  ∀ directory, paths.HasData directory → files.isDirectory directory = true

namespace Furnished

variable {paths : ResolvedPaths} {first second third : FileSystem}

theorem refl
    (paths : ResolvedPaths)
    (files : FileSystem) :
    Furnished paths files files where
  toExtends := Extends.refl files
  umask := rfl
  added place entry nothing there := by
    rw [nothing] at there
    cases there

theorem trans
    (left : Furnished paths first second)
    (right : Furnished paths second third) :
    Furnished paths first third where
  toExtends := left.toExtends.trans right.toExtends
  umask := right.umask.trans left.umask
  added := by
    intro place entry nothing there
    cases between : second.get? place with
    | none =>
        obtain ⟨isDirectory, onTheWay⟩ := right.added place entry between there
        rw [FileSystem.masked, left.umask] at isDirectory
        exact ⟨isDirectory, onTheWay⟩
    | some held =>
        obtain ⟨isDirectory, directory, data, onTheWay⟩ :=
          left.added place held nothing between
        have same := right.kept place held between
        rw [there] at same
        cases same
        exact ⟨isDirectory, directory, data, onTheWay.extend right.toExtends⟩

theorem of_grownTowards
    {directory : Path}
    (data : paths.HasData directory)
    (grown : GrownTowards directory first second) :
    Furnished paths first second where
  toExtends := grown.toExtends
  umask := grown.umask
  added place entry nothing there :=
    ⟨(grown.added place entry nothing there).1, directory, data,
      (grown.added place entry nothing there).2⟩

end Furnished

/-! ## Making the data directories -/

theorem ensureDataDirectory_furnished
    {paths : ResolvedPaths}
    {directory : Option Path}
    (data : ∀ known, directory = some known → paths.HasData known)
    (trail : Trail) :
    Furnished paths trail.files
      ((ensureDataDirectory directory).on trail).2.files := by
  cases directory with
  | none => exact Furnished.refl paths trail.files
  | some known =>
      rw [ensureDataDirectory_snd]
      exact Furnished.of_grownTowards (data known rfl)
        (makeDirectories_continues known trail).files

theorem ensureDataDirectories_furnished
    (paths : ResolvedPaths)
    (trail : Trail) :
    Furnished paths trail.files
      ((ensureDataDirectories paths).on trail).2.files := by
  have user :
      Furnished paths trail.files
        ((ensureDataDirectory paths.userData).on trail).2.files :=
    ensureDataDirectory_furnished (fun _ known => Or.inl known) trail
  rw [ensureDataDirectories_on]
  generalize (ensureDataDirectory paths.userData).on trail = made at user
  obtain ⟨outcome, between⟩ := made
  cases outcome with
  | error fault => exact user
  | ok =>
      exact user.trans (ensureDataDirectory_furnished
          (fun _ known => Or.inr known) between)

theorem isDirectory_extend
    {before after : FileSystem}
    (extends_ : Extends before after)
    {path : Path}
    (there : before.isDirectory path = true) :
    after.isDirectory path = true := by
  obtain ⟨mode, held⟩ := isDirectory_iff.mp there
  obtain ⟨place, found⟩ := locate_of_status held
  exact isDirectory_iff.mpr
    ⟨mode, status_of_locate (locate_extend extends_ found)⟩

/-- A data directory that was made is there. -/
theorem ensureDataDirectory_isDirectory
    {directory : Path}
    {trail after : Trail}
    (made : (ensureDataDirectory (some directory)).on trail = (.ok (), after)) :
    after.files.isDirectory directory = true := by
  rw [ensureDataDirectory_some] at made
  split at made
  · rename_i between done
    cases made
    exact isDirectory_iff.mpr (makeDirectories_isDirectory done)
  · cases made

/--
The data directory that was made first is still there when the other one was
made.
-/
theorem ensureDataDirectories_ready
    {paths : ResolvedPaths}
    {trail after : Trail}
    (made : (ensureDataDirectories paths).on trail = (.ok (), after)) :
    Ready paths after.files := by
  rw [ensureDataDirectories_on] at made
  split at made
  · rename_i between user
    have extends_ := ensureDataDirectory_extends paths.machineData between
    rw [made] at extends_
    rintro directory (known | known)
    · rw [known] at user
      exact isDirectory_extend extends_ (ensureDataDirectory_isDirectory user)
    · rw [known] at made
      exact ensureDataDirectory_isDirectory made
  · cases made

/-- A data directory that is there is left as it is. -/
theorem ensureDataDirectory_of_isDirectory
    {directory : Option Path}
    {trail : Trail}
    (there :
      ∀ known, directory = some known → trail.files.isDirectory known = true) :
    (ensureDataDirectory directory).on trail = (.ok (), trail) := by
  cases directory with
  | none => rfl
  | some known =>
      obtain ⟨mode, held⟩ := isDirectory_iff.mp (there known rfl)
      rw [ensureDataDirectory_some, makeDirectories_of_directory held]

/-- Where the data directories are there nothing is made. -/
theorem ensureDataDirectories_of_ready
    {paths : ResolvedPaths}
    {files : FileSystem}
    (ready : Ready paths files)
    (earlier : List FileSystem) :
    (ensureDataDirectories paths).on ⟨files, earlier⟩ =
      (.ok (), ⟨files, earlier⟩) := by
  rw [ensureDataDirectories_on,
    ensureDataDirectory_of_isDirectory fun known same =>
      ready known (Or.inl same)]
  exact ensureDataDirectory_of_isDirectory fun known same =>
    ready known (Or.inr same)

/-! ## Loads -/

/--
Documents that were found were found where the data directories had been made.
-/
theorem made_of_documentsOf
    {files : FileSystem}
    {paths : ResolvedPaths}
    {codec : RecordCodec}
    {decoded : Config × Session}
    (found : documentsOf files paths codec = .ok decoded) :
    ∃ after, (ensureDataDirectories paths).on ⟨files, []⟩ =
      (.ok (), after) := by
  cases made : (ensureDataDirectories paths).on ⟨files, []⟩ with
  | mk outcome after =>
      cases outcome with
      | ok => exact ⟨after, rfl⟩
      | error fault =>
          rw [documentsOf_of_unmade made] at found
          cases found

/--
Where the data directories are there already, the documents are read from the
files as they are.
-/
theorem documentsOf_of_ready
    {files : FileSystem}
    {paths : ResolvedPaths}
    (ready : Ready paths files)
    (codec : RecordCodec) :
    documentsOf files paths codec =
      match layersOf files paths with
      | .error fault => .error fault
      | .ok layers => layers.decode codec :=
  documentsOf_of_made (ensureDataDirectories_of_ready ready []) codec

namespace Manager

variable {manager : Manager} {files : FileSystem}

theorem load_files
    (manager : Manager)
    (files : FileSystem) :
    (manager.load files).files =
      ((ensureDataDirectories manager.paths).on ⟨files, []⟩).2.files := by
  rw [Outcome.files, (manager.load_eq files).2.2, Procedure.runOn_eq]

theorem load_furnished
    (manager : Manager)
    (files : FileSystem) :
    Furnished manager.paths files (manager.load files).files := by
  rw [load_files]
  exact ensureDataDirectories_furnished manager.paths ⟨files, []⟩

theorem load_paths
    (manager : Manager)
    (files : FileSystem) :
    (manager.load files).manager.paths = manager.paths ∧
      (manager.load files).manager.codec = manager.codec := by
  rw [(manager.load_eq files).2.1]
  exact ⟨(manager.concluded_kept _).1, (manager.concluded_kept _).2.2⟩

/-- A load that succeeds has made the data directories. -/
theorem made_of_load
    (done : (manager.load files).result = .ok ()) :
    ∃ after, (ensureDataDirectories manager.paths).on ⟨files, []⟩ =
      (.ok (), after) := by
  rw [(manager.load_eq files).1] at done
  cases found : documentsOf files manager.paths manager.codec with
  | error fault =>
      rw [found] at done
      cases done
  | ok decoded => exact made_of_documentsOf found

/-- What a load that succeeds has found in the files that it leaves. -/
theorem found_of_load
    (done : (manager.load files).result = .ok ()) :
    Ready manager.paths (manager.load files).files ∧
      ∃ layers config session,
        layersOf (manager.load files).files manager.paths = .ok layers ∧
          layers.decode manager.codec = .ok (config, session) ∧
            (manager.load files).manager =
              { manager with state := .ready, config, session } := by
  obtain ⟨result, concluded, -⟩ := manager.load_eq files
  rw [result] at done
  rw [concluded, load_files]
  cases found : documentsOf files manager.paths manager.codec with
  | error fault =>
      rw [found] at done
      cases done
  | ok decoded =>
      obtain ⟨config, session⟩ := decoded
      obtain ⟨after, made⟩ := made_of_documentsOf found
      rw [documentsOf_of_made made] at found
      rw [made]
      split at found
      · cases found
      · rename_i layers read
        exact ⟨ensureDataDirectories_ready made, layers, config, session,
          read, found, rfl⟩

/--
A load where the data directories are there already leaves the files alone.
-/
theorem load_files_of_ready
    (ready : Ready manager.paths files) :
    (manager.load files).files = files := by
  rw [load_files, ensureDataDirectories_of_ready ready []]

/-- A load finds the documents that are there, and takes over what they say. -/
theorem load_of_found
    {layers : Layers}
    {config : Config}
    {session : Session}
    (ready : Ready manager.paths files)
    (read : layersOf files manager.paths = .ok layers)
    (decoded : layers.decode manager.codec = .ok (config, session)) :
    (manager.load files).result = .ok () ∧
      (manager.load files).manager =
        { manager with state := .ready, config, session } := by
  obtain ⟨result, concluded, -⟩ := manager.load_eq files
  have found :
      documentsOf files manager.paths manager.codec =
        .ok (config, session) := by
    rw [documentsOf_of_ready ready, read]
    exact decoded
  rw [result, concluded, found]
  exact ⟨rfl, rfl⟩

/--
A load after one that succeeded comes to the same and leaves the files alone.
-/
theorem load_again
    (done : (manager.load files).result = .ok ()) :
    let loaded := manager.load files
    (loaded.manager.load loaded.files).result = .ok () ∧
      (loaded.manager.load loaded.files).manager = loaded.manager ∧
        (loaded.manager.load loaded.files).files = loaded.files := by
  obtain ⟨ready, layers, config, session, read, decoded, same⟩ :=
    found_of_load done
  intro loaded
  rw [same]
  obtain ⟨result, again⟩ :=
    @load_of_found { manager with state := .ready, config, session } _ _ _ _
      ready read decoded
  exact ⟨result, again,
    @load_files_of_ready
      { manager with state := .ready, config, session } _ ready⟩

end Manager

namespace Program

/--
A load of a program that keeps no log file leaves everything that was there, and
adds at most directories on the way to the data directories.  If it succeeds
both of them are there, and a load that follows succeeds too, makes the same of
the manager and leaves the files exactly as they are.
-/
theorem load_onlyFurnishes
    (program : Program)
    (manager : Manager)
    (unfiled : program.journal.Unfiled) :
    let loaded := program.load manager
    let again := loaded.2.2.load loaded.2.1
    Furnished manager.paths program.files loaded.2.2.files ∧
      (loaded.1 = .ok () →
        Ready manager.paths loaded.2.2.files ∧ again.1 = .ok () ∧
          again.2.1 = loaded.2.1 ∧
          again.2.2.files = loaded.2.2.files) := by
  intro loaded again
  obtain ⟨result, successor, stillUnfiled, left⟩ :=
    load_of_unfiled unfiled manager
  refine ⟨left ▸ manager.load_furnished program.files, ?_⟩
  intro done
  have succeeded : (manager.load program.files).result = .ok () := result ▸ done
  obtain ⟨resultAgain, managerAgain, filesAgain⟩ := Manager.load_again succeeded
  rw [← successor, ← left] at resultAgain managerAgain filesAgain
  obtain ⟨sameResult, sameManager, -, sameFiles⟩ :=
    load_of_unfiled stillUnfiled loaded.2.1
  refine ⟨left ▸ (Manager.found_of_load succeeded).1,
    sameResult.trans resultAgain, ?_, ?_⟩
  · exact sameManager.trans managerAgain
  · exact sameFiles.trans filesAgain

/-- A manager whose data directories are below one directory. -/
def neighbours : Manager :=
  { homeless with
    paths :=
    ⟨none, some (Path.ofText "/data/user"),
      some (Path.ofText "/data/machine")⟩ }

/--
Data directories below a directory that is missing too are made by a load, and
found by the next one.
-/
theorem load_onlyFurnishes_bareProgram :
    bareProgram.journal.Unfiled ∧ (bareProgram.load neighbours).1 = .ok () ∧
      Ready neighbours.paths (bareProgram.load neighbours).2.2.files := by
  have done : (bareProgram.load neighbours).1 = .ok () := by decide +kernel
  exact ⟨rfl, done, ((bareProgram.load_onlyFurnishes neighbours rfl).2 done).1⟩

end Program

end SettingsStore
