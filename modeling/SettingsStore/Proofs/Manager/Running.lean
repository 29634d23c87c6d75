import SettingsStore.Program.Basic
import SettingsStore.Proofs.Manager.Loading

/-!
# Managers at work

What a manager is after any number of loads, saves, edits and changes from
outside, in any order.  Its directories and its mode stay those with which it
was made.  Its configuration is what the last load that succeeded found, and its
state is the verdict of the last load that succeeded or failed with an error of
the store.  The history of a run keeps what each load found, which is read off
the documents and not off the manager.
-/

namespace SettingsStore

/-- What can happen while a manager is there. -/
inductive Happening where
  | load
  | save
  | edit (change : Session → Session)
  | setTestMode (testMode : Bool)
  | setEnvironment (environment : Environment)
  /--
  Somebody else changes the files; what stood at some places is taken away.
  -/
  | changeFiles (files : FileSystem) (removed : Place → Bool)

/-- A running program with one of its managers. -/
structure Scene where
  program : Program
  manager : Manager

/--
What the documents of some paths say to a running program that loads them.
-/
def Program.documents
    (program : Program)
    (paths : ResolvedPaths)
    (codec : RecordCodec) :
    Except Fault (Config × Session) :=
  match (ensureDataDirectories paths).runOn program.files with
  | (made, trail) =>
    documentsIn listener (program.withFiles trail.files fun _ => false)
      paths codec made

theorem Program.load_eq
    (program : Program)
    (manager : Manager) :
    (program.load manager).1 =
        (program.documents manager.paths manager.codec).map (fun _ => ()) ∧
      (program.load manager).2.1 =
        manager.concluded (program.documents manager.paths manager.codec) := by
  unfold load documents
  obtain ⟨made, trail⟩ :=
    (ensureDataDirectories manager.paths).runOn program.files
  exact manager.loadDocuments_eq listener _ made

/-- A save changes nothing about the manager. -/
theorem Manager.save_manager
    (manager : Manager)
    (files : FileSystem) :
    (manager.save files).manager = manager := by
  unfold save
  cases manager.paths.session with
  | none => rfl
  | some path =>
      dsimp only
      cases sessionContent manager.codec manager.session with
      | error fault => rfl
      | ok content =>
          dsimp only
          obtain ⟨outcome, trail⟩ := (replaceFile path content).runOn files
          cases outcome <;> rfl

namespace Scene

/-- The scene after something happened. -/
def after (scene : Scene) : Happening → Scene
  | .load =>
    ⟨(scene.program.load scene.manager).2.2,
      (scene.program.load scene.manager).2.1⟩
  | .save =>
    ⟨(scene.program.save scene.manager).2,
      (scene.manager.save scene.program.files).manager⟩
  | .edit change =>
    ⟨scene.program,
      { scene.manager with session := change scene.manager.session }⟩
  | .setTestMode testMode =>
      ⟨scene.program.withTestMode testMode, scene.manager⟩
  | .setEnvironment environment =>
      ⟨scene.program.withEnvironment environment, scene.manager⟩
  | .changeFiles files removed =>
      ⟨scene.program.withFiles files removed, scene.manager⟩

/-- The scene after a run. -/
def run (scene : Scene) (happenings : List Happening) : Scene :=
  happenings.foldl after scene

/-- What the documents of the manager say. -/
def documents (scene : Scene) : Except Fault (Config × Session) :=
  scene.program.documents scene.manager.paths scene.manager.codec

/-- What a load finds, if something that happens is one. -/
def found (scene : Scene) : Happening → List (Except Fault (Config × Session))
  | .load => [scene.documents]
  | _ => []

/-- What the loads of a run find, in order. -/
def history
    (scene : Scene) :
    List Happening → List (Except Fault (Config × Session))
  | [] => []
  | happening :: rest =>
      scene.found happening ++ (scene.after happening).history rest

end Scene

/-- The configuration that a load takes over. -/
def configTaken : Except Fault (Config × Session) → Option Config
  | .ok (config, _) => some config
  | .error _ => none

/--
The state that a load leads to: a fault that is no error of the store leads to
none.
-/
def verdict : Except Fault (Config × Session) → Option ManagerState
  | .ok _ => some .ready
  | .error (.store _) => some .failed
  | .error _ => none

/-! ## One step -/

theorem Manager.concluded_config
    (manager : Manager)
    (documents : Except Fault (Config × Session)) :
    (manager.concluded documents).config =
      (configTaken documents).getD manager.config := by
  cases documents with
  | ok => rfl
  | error fault => cases fault <;> rfl

theorem Manager.concluded_state
    (manager : Manager)
    (documents : Except Fault (Config × Session)) :
    (manager.concluded documents).state =
      (verdict documents).getD manager.state := by
  cases documents with
  | ok => rfl
  | error fault => cases fault <;> rfl

/-- Only what the documents said replaces a session. -/
theorem Manager.concluded_of_error
    (manager : Manager)
    (fault : Fault) :
    (manager.concluded (.error fault)).config = manager.config ∧
      (manager.concluded (.error fault)).session = manager.session := by
  cases fault <;> exact ⟨rfl, rfl⟩

/-- What a load leaves as it is. -/
theorem Manager.concluded_kept
    (manager : Manager)
    (documents : Except Fault (Config × Session)) :
    (manager.concluded documents).paths = manager.paths ∧
      (manager.concluded documents).testMode = manager.testMode ∧
        (manager.concluded documents).codec = manager.codec := by
  cases documents with
  | ok => exact ⟨rfl, rfl, rfl⟩
  | error fault => cases fault <;> exact ⟨rfl, rfl, rfl⟩

/-- A manager went on from another one by way of some loads. -/
structure Manager.Advanced
    (before after : Manager)
    (loads : List (Except Fault (Config × Session))) :
    Prop where
  paths : after.paths = before.paths
  testMode : after.testMode = before.testMode
  codec : after.codec = before.codec
  config :
    after.config = (loads.filterMap configTaken).getLast?.getD before.config
  state : after.state = (loads.filterMap verdict).getLast?.getD before.state

namespace Manager.Advanced

theorem refl (manager : Manager) : manager.Advanced manager [] :=
  ⟨rfl, rfl, rfl, rfl, rfl⟩

theorem trans
    {first second third : Manager}
    {earlier later : List (Except Fault (Config × Session))}
    (left : first.Advanced second earlier)
    (right : second.Advanced third later) :
    first.Advanced third (earlier ++ later) where
  paths := right.paths.trans left.paths
  testMode := right.testMode.trans left.testMode
  codec := right.codec.trans left.codec
  config := by
    rw [right.config, left.config, List.filterMap_append, List.getLast?_append,
      Option.getD_or]
  state := by
    rw [right.state, left.state, List.filterMap_append, List.getLast?_append,
      Option.getD_or]

end Manager.Advanced

namespace Scene

/--
One step: a load takes over what the documents say, and nothing else touches
more than the session.
-/
theorem after_advanced
    (scene : Scene)
    (happening : Happening) :
    scene.manager.Advanced (scene.after happening).manager
      (scene.found happening) := by
  cases happening with
  | load =>
      have loaded :
          (scene.after .load).manager =
            scene.manager.concluded scene.documents :=
        (scene.program.load_eq scene.manager).2
      obtain ⟨paths, testMode, codec⟩ :=
        scene.manager.concluded_kept scene.documents
      rw [loaded]
      refine ⟨paths, testMode, codec, ?_, ?_⟩
      · rw [Manager.concluded_config]
        cases taken : configTaken scene.documents <;> simp [found, taken]
      · rw [Manager.concluded_state]
        cases judged : verdict scene.documents <;> simp [found, judged]
  | save =>
      have saved : (scene.after .save).manager = scene.manager :=
        scene.manager.save_manager scene.program.files
      rw [saved]
      exact .refl scene.manager
  | edit change => exact ⟨rfl, rfl, rfl, rfl, rfl⟩
  | setTestMode | setEnvironment | changeFiles => exact .refl scene.manager

/-- A whole run. -/
theorem run_advanced
    (scene : Scene)
    (happenings : List Happening) :
    scene.manager.Advanced (scene.run happenings).manager
      (scene.history happenings) := by
  induction happenings generalizing scene with
  | nil => exact .refl scene.manager
  | cons happening rest induction =>
      exact (scene.after_advanced happening).trans
        (induction (scene.after happening))

/-- A load that fails leaves the configuration and the session as they are. -/
theorem after_load_of_error
    {scene : Scene}
    {fault : Fault}
    (failed : (scene.program.load scene.manager).1 = .error fault) :
    (scene.after .load).manager.config = scene.manager.config ∧
      (scene.after .load).manager.session = scene.manager.session := by
  obtain ⟨result, manager⟩ := scene.program.load_eq scene.manager
  rw [result] at failed
  have loaded :
      (scene.after .load).manager = scene.manager.concluded scene.documents :=
    manager
  rw [loaded]
  cases read : scene.documents with
  | ok decoded =>
      change Except.map _ scene.documents = _ at failed
      rw [read] at failed
      cases failed
  | error fault => exact scene.manager.concluded_of_error fault

end Scene

/--
A manager begins with the mode that it was given or that of the process, and
with nothing loaded.
-/
theorem Program.construct_eq_ok
    {start program : Program}
    {source : Option DirectorySource}
    {codec : RecordCodec}
    {testMode : Option Bool}
    {manager : Manager}
    (constructed :
      start.construct source codec testMode = (.ok manager, program)) :
    manager.testMode = testMode.getD start.testMode ∧
      manager.state = .pathsResolved ∧
      manager.config = {} ∧ manager.session = {} := by
  unfold construct Manager.constructTelling at constructed
  dsimp only at constructed
  split at constructed
  · cases constructed
  · cases constructed
    exact ⟨rfl, rfl, rfl, rfl⟩

/--
After any run of a manager that was made its directories and its mode are those
with which it was made, its configuration is what the last load that succeeded
found, and its state is the verdict of the last load that succeeded or failed
with an error of the store.  Whatever then comes, a load succeeds exactly if the
documents say something and otherwise leaves configuration and session alone,
and a save leaves the manager alone.
-/
theorem manager_atWork
    {start program : Program}
    {source : Option DirectorySource}
    {codec : RecordCodec}
    {testMode : Option Bool}
    {manager : Manager}
    (constructed :
      start.construct source codec testMode = (.ok manager, program))
    (happenings : List Happening)
    {scene : Scene}
    (ran : Scene.run ⟨program, manager⟩ happenings = scene)
    {loads : List (Except Fault (Config × Session))}
    (found : Scene.history ⟨program, manager⟩ happenings = loads) :
    scene.manager.paths = manager.paths ∧
      scene.manager.testMode = testMode.getD start.testMode ∧
        scene.manager.config = (loads.filterMap configTaken).getLast?.getD {} ∧
          scene.manager.state =
            (loads.filterMap verdict).getLast?.getD .pathsResolved ∧
            (scene.program.load scene.manager).1 =
              scene.documents.map (fun _ => ()) ∧
              (∀ fault, (scene.program.load scene.manager).1 = .error fault →
                (scene.after .load).manager.config = scene.manager.config ∧
                  (scene.after .load).manager.session = scene.manager.session) ∧
                (scene.after .save).manager = scene.manager := by
  obtain ⟨mode, state, config, -⟩ := Program.construct_eq_ok constructed
  have advanced := Scene.run_advanced ⟨program, manager⟩ happenings
  rw [ran, found] at advanced
  refine ⟨advanced.paths, advanced.testMode.trans mode, ?_, ?_,
    (scene.program.load_eq scene.manager).1, fun fault failed =>
      Scene.after_load_of_error failed,
    scene.manager.save_manager scene.program.files⟩
  · rw [advanced.config, config]
  · rw [advanced.state, state]

/-- A program on a machine without files. -/
def bareProgram : Program :=
  Program.start
    { environment := []
      accounts := {}
      knownFolders := {}
      platform := "linux"
      bundled := false
      executable := ""
      packageDirectory := ⟨.root, []⟩
      temporaryDirectory := ⟨.root, []⟩
      files := ⟨[], .present [], 0o022⟩ }

/-- A manager for which no directory is known. -/
def homeless : Manager where
  codec := .verbatim
  testMode := false
  paths := ⟨none, none, none⟩

/-- A directory with settings of the user, in this text, and a session. -/
def keptFiles (settings : String) : FileSystem where
  entries :=
    let file (text : String) : Entry :=
      .file ⟨(Utf8.encode text.toList).toArray⟩ 0o644
    [(["x"], .directory 0o755),
      (["x", "vxcore.json"], file settings),
      (["x", "session.json"], file "\x7b\"notebooks\": [1]\x7d")]
  workDirectory := .present []
  umask := 0o022

/-- A program on a machine with settings that say a version. -/
def keptProgram : Program :=
  Program.start
    { bareProgram.host with
      files := keptFiles "\x7b\"version\": \"7\"\x7d" }

/-- A manager of the settings and the session. -/
def keeper : Manager where
  codec := .verbatim
  testMode := false
  paths := ⟨none, some (Path.ofText "/x"), some (Path.ofText "/x")⟩

/-- A load and an edit; then the settings are spoilt, loaded again and saved. -/
def spoiling : List Happening :=
  [.load, .edit fun session => ⟨session.notebooks ++ [.null]⟩,
    .setTestMode true, .changeFiles (keptFiles "") fun _ => false, .load, .save]

/--
What was loaded and edited is kept when a later load fails, which one more load
does as well.
-/
theorem manager_atWork_keeper :
    keptProgram.construct
          (some (.fixed none keeper.paths.userData keeper.paths.machineData))
          .verbatim (some false) =
        (.ok keeper, keptProgram) ∧
      let scene := Scene.run ⟨keptProgram, keeper⟩ spoiling
      scene.manager.paths = keeper.paths ∧
        scene.manager.testMode = false ∧
          scene.manager.config = { version := "7" } ∧
            scene.manager.state = .failed ∧
              (Json.array scene.manager.session.notebooks).toLine =
                  "[1, null]" ∧
                (scene.after .load).manager.session = scene.manager.session ∧
                  (scene.after .save).manager = scene.manager := by
  have constructed :
      keptProgram.construct
          (some (.fixed none keeper.paths.userData keeper.paths.machineData))
          .verbatim (some false) =
        (.ok keeper, keptProgram) := by
    rfl
  have taken :
      ((Scene.history ⟨keptProgram, keeper⟩ spoiling).filterMap
          configTaken).getLast? =
        some { version := "7" } := by
    decide +kernel
  have judged :
      ((Scene.history ⟨keptProgram, keeper⟩ spoiling).filterMap
          verdict).getLast? =
        some .failed := by
    decide +kernel
  have notebooks :
      (Json.array
          (Scene.run ⟨keptProgram,
          keeper⟩ spoiling).manager.session.notebooks).toLine =
        "[1, null]" := by
    decide +kernel
  have spoilt :
      (Scene.run ⟨keptProgram, keeper⟩ spoiling).documents.isOk = false := by
    decide +kernel
  obtain ⟨scene, ran⟩ :
      ∃ scene, Scene.run ⟨keptProgram, keeper⟩ spoiling = scene :=
    ⟨_, rfl⟩
  obtain ⟨loads, found⟩ :
      ∃ loads, Scene.history ⟨keptProgram, keeper⟩ spoiling = loads :=
    ⟨_, rfl⟩
  obtain ⟨paths, mode, config, state, outcome, kept, saved⟩ :=
    manager_atWork constructed spoiling ran found
  rw [found] at taken judged
  rw [ran] at notebooks spoilt
  rw [taken] at config
  rw [judged] at state
  cases documents : scene.documents with
  | ok said =>
      rw [documents] at spoilt
      cases spoilt
  | error fault =>
      rw [documents] at outcome
      refine ⟨constructed, ?_⟩
      rw [ran]
      exact ⟨paths, mode, config, state, notebooks, (kept fault outcome).2,
        saved⟩

end SettingsStore
