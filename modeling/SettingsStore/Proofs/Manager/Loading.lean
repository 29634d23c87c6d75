import SettingsStore.Manager.Load
import SettingsStore.Proofs.Files.Directories

/-!
# What a load takes over

A load makes the data directories, one after the other, reads the documents and
only then changes the manager: what the documents say, or the fault that stopped
them, decides both what the load comes to and what it makes of the manager.
Where what is told leaves the files alone, the three documents are read from the
same files.
-/

namespace SettingsStore

open FileSystem

/--
What the documents of some paths say in a world in which the data directories
were made, or not.
-/
def documentsIn
    {World : Type}
    (listener : Log.Listener World)
    (world : World)
    (paths : ResolvedPaths)
    (codec : RecordCodec)
    (made : Except Fault Unit) :
    Except Fault (Config × Session) :=
  match made with
  | .error fault => .error fault
  | .ok () =>
    match (readLayers listener world paths).1 with
    | .error fault => .error fault
    | .ok layers => layers.decode codec

/-- What the documents of some paths say once the data directories were made. -/
def documentsOf
    (files : FileSystem)
    (paths : ResolvedPaths)
    (codec : RecordCodec) :
    Except Fault (Config × Session) :=
  match (ensureDataDirectories paths).runOn files with
  | (made, trail) =>
      documentsIn (Log.Listener.quiet trail.files) [] paths codec made

/-- Reads the three documents from the same files. -/
def layersOf
    (files : FileSystem)
    (paths : ResolvedPaths) :
    Except Fault Layers := do
  let defaults ← readLayer files paths.defaultConfig
  let user ← readLayer files paths.userConfig
  let session ← readLayer files paths.session
  return ⟨defaults, user, session⟩

/-! ## Making the data directories -/

/-- Makes one of the data directories, if it is known. -/
def ensureDataDirectory (directory : Option Path) : Procedure Fault Unit := do
  match directory with
  | none => pure ()
  | some path =>
    match ← Procedure.attempt (FileSystem.makeDirectories path) with
    | .ok () => pure ()
    | .error (error, _) =>
      throw (.ofFileError error ("cannot create directory " ++ path.toText))

theorem ensureDataDirectory_none (trail : Trail) :
    (ensureDataDirectory none).on trail = (.ok (), trail) :=
  rfl

theorem ensureDataDirectory_some
    (path : Path)
    (trail : Trail) :
    (ensureDataDirectory (some path)).on trail =
      match (makeDirectories path).on trail with
      | (.ok (), after) => (.ok (), after)
      | (.error (error, _), after) =>
        (.error
            (.ofFileError error ("cannot create directory " ++ path.toText)),
            after) := by
  rw [ensureDataDirectory, Procedure.on_bind, Procedure.on_attempt]
  dsimp only
  obtain ⟨outcome, after⟩ := (makeDirectories path).on trail
  cases outcome <;> rfl

/-- Making a data directory leaves what making the directory leaves. -/
theorem ensureDataDirectory_snd
    (path : Path)
    (trail : Trail) :
    ((ensureDataDirectory (some path)).on trail).2 =
      ((makeDirectories path).on trail).2 := by
  rw [ensureDataDirectory_some]
  obtain ⟨outcome, after⟩ := (makeDirectories path).on trail
  cases outcome <;> rfl

theorem ensureDataDirectory_extends
    (directory : Option Path)
    (trail : Trail) :
    Extends trail.files ((ensureDataDirectory directory).on trail).2.files := by
  cases directory with
  | none => exact Extends.refl _
  | some path =>
      rw [ensureDataDirectory_snd]
      exact (makeDirectories_continues path trail).files.toExtends

/-- The directory of the user is made first. -/
theorem ensureDataDirectories_on
    (paths : ResolvedPaths)
    (trail : Trail) :
    (ensureDataDirectories paths).on trail =
      match (ensureDataDirectory paths.userData).on trail with
      | (.ok (), after) => (ensureDataDirectory paths.machineData).on after
      | (.error fault, after) => (.error fault, after) := by
  obtain ⟨executable, userData, machineData⟩ := paths
  rw [ensureDataDirectories]
  simp only [List.forIn_cons, List.forIn_nil]
  cases userData with
  | none =>
      cases machineData with
      | none => rfl
      | some machine =>
          simp only [Procedure.on_bind, Procedure.on_attempt, pure_bind,
            ensureDataDirectory_none, ensureDataDirectory_some]
          rcases (makeDirectories machine).on trail with ⟨_ | _, _⟩ <;> rfl
  | some user =>
      simp only [Procedure.on_bind, Procedure.on_attempt,
        ensureDataDirectory_some]
      rcases (makeDirectories user).on trail with ⟨_ | _, after⟩
      · rfl
      · cases machineData with
        | none => rfl
        | some machine =>
            simp only [Procedure.on_bind, Procedure.on_attempt,
              Procedure.on_pure, ensureDataDirectory_some]
            rcases (makeDirectories machine).on after with ⟨_ | _, _⟩ <;> rfl

/-! ## Reading the documents -/

theorem readLayerTelling_quiet
    (files : FileSystem)
    (told : List Log.Event)
    (path : Option Path) :
    (readLayerTelling (Log.Listener.quiet files) told path).1 =
      readLayer files path := by
  rw [readLayerTelling]
  have same :
      readLayer ((Log.Listener.quiet files).files told) path =
        readLayer files path := rfl
  rw [same]
  cases readLayer files path <;> rfl

theorem readLayers_quiet
    (files : FileSystem)
    (told : List Log.Event)
    (paths : ResolvedPaths) :
    (readLayers (Log.Listener.quiet files) told paths).1 =
      layersOf files paths := by
  have read := readLayerTelling_quiet files
  rw [readLayers, layersOf]
  have defaults := read told paths.defaultConfig
  generalize readLayerTelling
    (Log.Listener.quiet files) told paths.defaultConfig = first at defaults ⊢
  obtain ⟨outcome, told⟩ := first
  rw [← defaults]
  cases outcome with
  | error fault => rfl
  | ok defaults =>
      dsimp only
      have user := read told paths.userConfig
      generalize readLayerTelling
        (Log.Listener.quiet files) told paths.userConfig = second at user ⊢
      obtain ⟨outcome, told⟩ := second
      rw [← user]
      cases outcome with
      | error fault => rfl
      | ok user =>
          dsimp only
          have session := read told paths.session
          generalize readLayerTelling
            (Log.Listener.quiet files) told paths.session = third at session ⊢
          obtain ⟨outcome, told⟩ := third
          rw [← session]
          cases outcome <;> rfl

theorem documentsOf_of_unmade
    {files : FileSystem}
    {paths : ResolvedPaths}
    {fault : Fault}
    {after : Trail}
    (unmade :
      (ensureDataDirectories paths).on ⟨files, []⟩ = (.error fault, after))
    (codec : RecordCodec) :
    documentsOf files paths codec = .error fault := by
  rw [documentsOf, Procedure.runOn_eq, unmade]
  rfl

theorem documentsOf_of_made
    {files : FileSystem}
    {paths : ResolvedPaths}
    {after : Trail}
    (made : (ensureDataDirectories paths).on ⟨files, []⟩ = (.ok (), after))
    (codec : RecordCodec) :
    documentsOf files paths codec =
      match layersOf after.files paths with
      | .error fault => .error fault
      | .ok layers => layers.decode codec := by
  rw [documentsOf, Procedure.runOn_eq, made]
  dsimp only
  rw [documentsIn, readLayers_quiet]

/-! ## Copying records -/

/-- Records are copied as they are unless one is nested too deeply. -/
theorem mapM_copy (items : List Json) :
    items.mapM RecordCodec.copy =
      if ∀ item ∈ items, item.Copyable then .ok items else .error .tooDeep := by
  induction items with
  | nil => rfl
  | cons item items induction =>
      rw [List.mapM_cons, induction, RecordCodec.copy]
      by_cases copyable : item.Copyable
      · by_cases others : ∀ item ∈ items, item.Copyable
        · rw [if_pos copyable, if_pos others,
            if_pos (List.forall_mem_cons.mpr ⟨copyable, others⟩)]
          rfl
        · rw [if_pos copyable, if_neg others,
            if_neg fun all => others (List.forall_mem_cons.mp all).2]
          rfl
      · rw [if_neg copyable, if_neg fun all =>
            copyable (List.forall_mem_cons.mp all).1]
        rfl

/-! ## Loads -/

namespace Manager

/--
The manager after a load in which the documents said something, or in which a
fault stopped them.
-/
def concluded (manager : Manager) : Except Fault (Config × Session) → Manager
  | .error fault => manager.afterFault fault
  | .ok (config, session) => { manager with state := .ready, config, session }

/--
The documents decide what a load comes to and what it makes of the manager.
-/
theorem loadDocuments_eq
    {World : Type}
    (manager : Manager)
    (listener : Log.Listener World)
    (world : World)
    (made : Except Fault Unit) :
    (manager.loadDocuments listener world made).1 =
        (documentsIn listener world manager.paths manager.codec made).map
          (fun _ => ()) ∧
      (manager.loadDocuments listener world made).2.1 =
        manager.concluded
          (documentsIn listener world manager.paths manager.codec made) := by
  unfold loadDocuments documentsIn
  cases made with
  | error fault => exact ⟨rfl, rfl⟩
  | ok =>
      dsimp only
      obtain ⟨outcome, after⟩ := readLayers listener world manager.paths
      cases outcome with
      | error fault => exact ⟨rfl, rfl⟩
      | ok layers =>
          dsimp only
          cases layers.decode manager.codec with
          | error fault => exact ⟨rfl, rfl⟩
          | ok decoded => exact ⟨rfl, rfl⟩

theorem load_eq
    (manager : Manager)
    (files : FileSystem) :
    (manager.load files).result =
        (documentsOf files manager.paths manager.codec).map (fun _ => ()) ∧
      (manager.load files).manager =
        manager.concluded (documentsOf files manager.paths manager.codec) ∧
        (manager.load files).trail =
          ((ensureDataDirectories manager.paths).runOn files).2 := by
  rw [load, documentsOf]
  obtain ⟨made, trail⟩ := (ensureDataDirectories manager.paths).runOn files
  obtain ⟨result, after⟩ :=
    manager.loadDocuments_eq (Log.Listener.quiet trail.files) [] made
  exact ⟨result, after, rfl⟩

end Manager

end SettingsStore
