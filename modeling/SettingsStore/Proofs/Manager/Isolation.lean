import SettingsStore.Proofs.Manager.Confinement
import SettingsStore.Proofs.Manager.Telling

/-!
# Managers apart from the conventions

In test mode, and beside an executable that has a directory for it, the
directories of a manager are chosen without asking where the home directory is
or what the conventions say.  So two programs that differ only in that come to
the same manager, and whatever it is then asked to do comes to the same in both:
a program whose surroundings are replaced does what the program does, with its
surroundings replaced.
-/

namespace SettingsStore

/-- What the conventions of a platform go by. -/
structure Surroundings where
  environment : Environment
  accounts : Accounts
  knownFolders : KnownFolders

/-- The host in other surroundings. -/
def Host.within (host : Host) (surroundings : Surroundings) : Host :=
  { host with
    environment := surroundings.environment
    accounts := surroundings.accounts
    knownFolders := surroundings.knownFolders }

/-- The program in other surroundings. -/
def Program.within
    (program : Program)
    (surroundings : Surroundings) :
    Program :=
  { program with host := program.host.within surroundings }

/--
What a program does with an event has nothing to do with its surroundings.
-/
theorem Program.listener_agree_within (surroundings : Surroundings) :
    listener.Agree listener fun program other =>
      other = program.within surroundings where
  files same := same ▸ rfl
  hear {program _} event same := by
    subst same
    change (program.within surroundings).tell event =
      (program.tell event).within surroundings
    unfold Program.tell
    have gathered : (program.within surroundings).gathered = program.gathered :=
      rfl
    rw [gathered]
    cases program.gathered with
    | none => rfl
    | some events =>
        dsimp only
        split
        · split <;> rfl
        · rfl

/-! ## Choosing the directories -/

/-- The directory in which a manager is kept apart from the conventions. -/
inductive Secluded
    (host : Host)
    (source : DirectorySource)
    (testMode : Bool) :
    Path → Prop where
  | sandbox {directory : Path}
      (mode : testMode = true)
      (found : host.sandbox = .ok directory) :
      Secluded host source testMode directory
  | portable {executable : Path}
      (mode : testMode = false)
      (known : host.executableDirectoryOf source = .ok (some executable))
      (there : host.files.pathExists (executable.child "config") = true) :
      Secluded host source testMode (executable.child "config")

/-- What is told about the directory in which a manager is kept apart. -/
def seclusionEvent (testMode : Bool) (directory : Path) : Log.Event :=
  managerEvent .info
    ((if testMode then "test mode: using sandbox data dir "
        else "portable install: using data dir ") ++
      directory.toText)

/-- A directory apart from the conventions is chosen without asking for them. -/
theorem Secluded.choosePaths
    {World : Type}
    {host : Host}
    {listener : Log.Listener World}
    {world : World}
    {source : DirectorySource}
    {testMode : Bool}
    {directory : Path}
    (secluded :
      Secluded (host.withFiles (listener.files world)) source testMode
        directory) :
    host.choosePaths listener world source testMode =
      match (host.withFiles (listener.files world)).executableDirectoryOf
        source with
      | .error error => (.error error, world)
      | .ok executable =>
        (.ok ⟨executable, some directory, some directory⟩,
          listener.hear world (seclusionEvent testMode directory)) := by
  rw [Host.choosePaths]
  cases secluded with
  | sandbox mode found =>
      subst mode
      cases (host.withFiles (listener.files world)).executableDirectoryOf
        source with
      | error error => rfl
      | ok executable =>
          dsimp only
          rw [if_pos rfl, found]
          rfl
  | portable mode known there =>
      subst mode
      rw [known]
      dsimp only
      rw [if_neg Bool.false_ne_true, Option.map_some, Option.filter_some,
        if_pos there]
      rfl

namespace Program

/-- The conventions that hold where no source of directories is given. -/
def sourceOr
    (program : Program)
    (source : Option DirectorySource) :
    DirectorySource :=
  source.getD
    (.ofPlatform program.host.platform DirectorySource.defaultApplication)

/--
The program when it chooses the directories of a manager: without a source it
has told what holds instead.
-/
def choosing (program : Program) (source : Option DirectorySource) : Program :=
  match source with
  | some _ => program
  | none =>
      listener.hear program
        ((program.sourceOr none).chosenEvent program.host.platform)

/-- Being told changes no more of the host than its files. -/
theorem host_tell
    (program : Program)
    (event : Log.Event) :
    (program.tell event).host =
      program.host.withFiles (program.tell event).files := by
  unfold tell
  cases program.gathered with
  | none => rfl
  | some events =>
      dsimp only
      split
      · split <;> rfl
      · rfl

theorem host_choosing
    (program : Program)
    (source : Option DirectorySource) :
    (program.choosing source).host =
      program.host.withFiles (program.choosing source).files := by
  cases source with
  | some source => rfl
  | none => exact program.host_tell _

theorem choosing_within
    (program : Program)
    (surroundings : Surroundings)
    {source other : Option DirectorySource}
    (given : other.isSome = source.isSome) :
    (program.within surroundings).choosing other =
      (program.choosing source).within surroundings := by
  cases source with
  | some source =>
      cases other with
      | some other => rfl
      | none => cases given
  | none =>
      cases other with
      | some other => cases given
      | none => exact (listener_agree_within surroundings).hear _ rfl

/-- A manager is made from the directories that are chosen for it. -/
theorem construct_eq
    (program : Program)
    (source : Option DirectorySource)
    (codec : RecordCodec)
    (testMode : Option Bool) :
    program.construct source codec testMode =
      match program.host.choosePaths listener (program.choosing source)
        (program.sourceOr source)
          (testMode.getD program.testMode) with
      | (.error error, told) => (.error error, told)
      | (.ok paths, told) =>
          (.ok { codec, testMode := testMode.getD program.testMode, paths },
            told) := by
  unfold construct Manager.constructTelling
  cases chosen :
    program.host.choosePaths listener (program.choosing source)
    (program.sourceOr source)
      (testMode.getD program.testMode) with
  | mk outcome told =>
      cases source with
      | none =>
          dsimp only [choosing, sourceOr, Option.getD_none] at chosen ⊢
          rw [chosen]
          cases outcome <;> rfl
      | some source =>
          dsimp only [choosing, sourceOr, Option.getD_some] at chosen ⊢
          rw [chosen]
          cases outcome <;> rfl

/--
A manager that is kept apart is made from the directory of the executable and
nothing else that is chosen.
-/
theorem construct_of_secluded
    {program : Program}
    {source : Option DirectorySource}
    {testMode : Option Bool}
    {directory : Path}
    (secluded :
      Secluded (program.choosing source).host (program.sourceOr source)
        (testMode.getD program.testMode) directory)
    (codec : RecordCodec) :
    program.construct source codec testMode =
      match (program.choosing source).host.executableDirectoryOf
        (program.sourceOr source) with
      | .error error => (.error error, program.choosing source)
      | .ok executable =>
        (.ok
            { codec := codec
              testMode := testMode.getD program.testMode
              paths := ⟨executable, some directory, some directory⟩ },
          (program.choosing source).tell
            (seclusionEvent (testMode.getD program.testMode) directory)) := by
  rw [host_choosing] at secluded ⊢
  have chosen :=
    @Secluded.choosePaths Program program.host listener
      (program.choosing source) (program.sourceOr source)
      (testMode.getD program.testMode) directory secluded
  have files :
      listener.files (program.choosing source) =
        (program.choosing source).files := rfl
  rw [construct_eq, chosen, files]
  cases (program.host.withFiles
      (program.choosing source).files).executableDirectoryOf
      (program.sourceOr source) <;> rfl

end Program

/-- Other surroundings seclude a manager in the same directory. -/
theorem Secluded.within
    {host : Host}
    {source other : DirectorySource}
    {testMode : Bool}
    {directory : Path}
    (secluded : Secluded host source testMode directory)
    {surroundings : Surroundings}
    (executable :
      (host.within surroundings).executableDirectoryOf other =
        host.executableDirectoryOf source) :
    Secluded (host.within surroundings) other testMode directory := by
  cases secluded with
  | sandbox mode found => exact .sandbox mode found
  | portable mode known there =>
      exact .portable mode (executable.trans known) there

/-! ## Runs -/

namespace Program

theorem load_within
    (program : Program)
    (surroundings : Surroundings)
    (manager : Manager) :
    ((program.within surroundings).load manager).1 = (program.load manager).1 ∧
      ((program.within surroundings).load manager).2.1 =
        (program.load manager).2.1 ∧
        ((program.within surroundings).load manager).2.2 =
          (program.load manager).2.2.within surroundings := by
  unfold load
  have files : (program.within surroundings).files = program.files := rfl
  rw [files]
  obtain ⟨made, trail⟩ :=
    (ensureDataDirectories manager.paths).runOn program.files
  let reached := program.withFiles trail.files fun _ => false
  exact (listener_agree_within surroundings).loadDocuments
    (reached.within surroundings) rfl manager made

theorem save_within
    (program : Program)
    (surroundings : Surroundings)
    (manager : Manager) :
    (program.within surroundings).save manager =
      ((program.save manager).1,
        (program.save manager).2.within surroundings) := by
  unfold save
  exact congrArg (Prod.mk _)
    ((listener_agree_within surroundings).hearAll
        ((program.withFiles _ _).within surroundings) rfl _)

end Program

/-- What happens at a request. -/
def Request.happening : Request → Happening
  | .load => .load
  | .save => .save
  | .edit change => .edit change

namespace Scene

/-- The scene in other surroundings. -/
def within (scene : Scene) (surroundings : Surroundings) : Scene :=
  ⟨scene.program.within surroundings, scene.manager⟩

/-- The scene after a run of requests. -/
def serve (scene : Scene) (requests : List Request) : Scene :=
  scene.run (requests.map Request.happening)

/-- What a request is answered. -/
def answer (scene : Scene) : Request → Except Fault Unit
  | .load => (scene.program.load scene.manager).1
  | .save => (scene.program.save scene.manager).1
  | .edit _ => .ok ()

/-- What the requests of a run are answered, in order. -/
def answers (scene : Scene) : List Request → List (Except Fault Unit)
  | [] => []
  | request :: rest =>
      scene.answer request :: (scene.after request.happening).answers rest

/--
One request: the answer and the scene after it are the same in other
surroundings.
-/
theorem after_within
    (scene : Scene)
    (surroundings : Surroundings)
    (request : Request) :
    (scene.within surroundings).answer request = scene.answer request ∧
      (scene.within surroundings).after request.happening =
        (scene.after request.happening).within surroundings := by
  cases request with
  | load =>
      obtain ⟨result, manager, program⟩ :=
        scene.program.load_within surroundings scene.manager
      exact ⟨result, congrArg₂ Scene.mk program manager⟩
  | save =>
      have saved := scene.program.save_within surroundings scene.manager
      have result := congrArg Prod.fst saved
      have scenes := congrArg
        (fun result =>
            (⟨result.2, (scene.manager.save scene.program.files).manager⟩ :
              Scene)) saved
      exact ⟨result, scenes⟩
  | edit => exact ⟨rfl, rfl⟩

/-- A whole run. -/
theorem serve_within
    (scene : Scene)
    (surroundings : Surroundings)
    (requests : List Request) :
    (scene.within surroundings).answers requests = scene.answers requests ∧
      (scene.within surroundings).serve requests =
        (scene.serve requests).within surroundings := by
  induction requests generalizing scene with
  | nil => exact ⟨rfl, rfl⟩
  | cons request rest induction =>
      obtain ⟨answered, after⟩ := scene.after_within surroundings request
      obtain ⟨others, ran⟩ := induction (scene.after request.happening)
      rw [← after] at others ran
      constructor
      · rw [answers, answers, answered, others]
      · exact ran

/--
One request to a program that keeps no log file does what the manager does by
itself.
-/
theorem after_of_unfiled
    {scene : Scene}
    (unfiled : scene.program.journal.Unfiled)
    (request : Request) :
    (scene.after request.happening).manager =
      (scene.manager.serve scene.program.files request).1 ∧
      (scene.after request.happening).program.Silent
        (scene.manager.serve scene.program.files request).2 := by
  cases request with
  | load =>
      obtain ⟨_, manager, silent⟩ :=
        Program.load_of_unfiled unfiled scene.manager
      exact ⟨manager, silent⟩
  | save => exact ⟨rfl, (Program.save_of_unfiled unfiled scene.manager).2⟩
  | edit => exact ⟨rfl, unfiled, rfl⟩

/-- A whole run. -/
theorem serve_of_unfiled
    {scene : Scene}
    (unfiled : scene.program.journal.Unfiled)
    (requests : List Request) :
    (scene.serve requests).manager =
      (scene.manager.serveAll scene.program.files requests).1 ∧
      (scene.serve requests).program.Silent
        (scene.manager.serveAll scene.program.files requests).2 := by
  induction requests generalizing scene with
  | nil => exact ⟨rfl, unfiled, rfl⟩
  | cons request rest induction =>
      obtain ⟨manager, unfiled, files⟩ := after_of_unfiled unfiled request
      have others := induction unfiled
      rw [manager, files] at others
      exact others

/--
A program that keeps no log file changes nothing outside the directory of a
manager that it serves.
-/
theorem serve_confined
    {scene : Scene}
    {directory : Path}
    (unfiled : scene.program.journal.Unfiled)
    (kept : scene.manager.KeptIn directory)
    (requests : List Request) :
    FileSystem.Confined directory scene.program.files
      (scene.serve requests).program.files := by
  rw [(serve_of_unfiled unfiled requests).2.2]
  exact kept.serveAll_confined scene.program.files requests

end Scene

/--
A manager in a sandbox or beside its executable is kept in that directory.
Whatever it is asked to do, on any files, changes nothing outside the directory
but for directories on the way to it that were missing; nor does a program that
serves it and keeps no log file.  And in other surroundings, with a source that
tells of the same executable and of any other directories, the same manager is
made, gives the same answers and leaves the same, whatever it is asked to do.
-/
theorem manager_isolated
    {program after : Program}
    {source : Option DirectorySource}
    {codec : RecordCodec}
    {testMode : Option Bool}
    {manager : Manager}
    {directory : Path}
    (secluded :
      Secluded (program.choosing source).host (program.sourceOr source)
        (testMode.getD program.testMode) directory)
    (constructed :
      program.construct source codec testMode = (.ok manager, after)) :
    manager.KeptIn directory ∧
      (∀ files requests,
        FileSystem.Confined directory files
          (manager.serveAll files requests).2) ∧
      (∀ (serving : Program) (requests : List Request),
        serving.journal.Unfiled →
          FileSystem.Confined directory serving.files
            (Scene.serve ⟨serving, manager⟩ requests).program.files) ∧
        ∀ (surroundings : Surroundings) (other : Option DirectorySource),
          other.isSome = source.isSome →
            ((program.choosing source).host.within
                surroundings).executableDirectoryOf
                (program.sourceOr other) =
              (program.choosing source).host.executableDirectoryOf
                (program.sourceOr source) →
              (program.within surroundings).construct other codec testMode =
                  (.ok manager, after.within surroundings) ∧
                ∀ requests,
                  Scene.answers ⟨after.within surroundings, manager⟩ requests =
                      Scene.answers ⟨after, manager⟩ requests ∧
                    Scene.serve ⟨after.within surroundings, manager⟩ requests =
                      (Scene.serve ⟨after, manager⟩ requests).within
                        surroundings := by
  have made := Program.construct_of_secluded secluded codec
  rw [constructed] at made
  have kept : manager.KeptIn directory := by
    split at made
    · cases made
    · cases made
      exact ⟨rfl, rfl⟩
  refine ⟨kept, kept.serveAll_confined, fun serving requests unfiled =>
    @Scene.serve_confined ⟨serving, manager⟩ _ unfiled kept requests, ?_⟩
  intro surroundings other given executable
  refine ⟨?_, Scene.serve_within ⟨after, manager⟩ surroundings⟩
  have choosing := program.choosing_within surroundings given
  have host : ((program.within surroundings).choosing other).host =
      (program.choosing source).host.within surroundings :=
    congrArg Program.host choosing
  have secludedThere :
      Secluded ((program.within surroundings).choosing other).host
        ((program.within surroundings).sourceOr other)
        (testMode.getD program.testMode) directory := by
    rw [host]
    exact secluded.within executable
  rw [Program.construct_of_secluded secludedThere codec, host]
  have same :
      ((program.choosing source).host.within surroundings).executableDirectoryOf
        ((program.within surroundings).sourceOr other) =
          (program.choosing source).host.executableDirectoryOf
            (program.sourceOr source) :=
    executable
  rw [same, choosing]
  split at made
  · cases made
  · cases made
    exact congrArg (Prod.mk _)
      ((Program.listener_agree_within surroundings).hear _ rfl)

/--
In test mode a manager is the same with a home directory and with other
directories of the conventions.
-/
theorem manager_isolated_bareProgram :
    let other : DirectorySource :=
      .fixed none (some (Path.ofText "/home/data")) none
    let surroundings : Surroundings := ⟨[("HOME", "/home")], {}, {}⟩
    let manager : Manager :=
      { codec := .verbatim
        testMode := true
        paths :=
          ⟨none, some (Path.ofText "/vxcore_test"),
            some (Path.ofText "/vxcore_test")⟩ }
    FileSystem.Confined (Path.ofText "/vxcore_test") bareProgram.files
        (manager.serveAll bareProgram.files [.load, .save]).2 ∧
      ((bareProgram.within surroundings).construct (some other) .verbatim
          (some true)).1 = .ok manager := by
  let source : DirectorySource := .fixed none none none
  intro other surroundings manager
  have secluded :
      Secluded (bareProgram.choosing (some source)).host
        (bareProgram.sourceOr (some source))
        ((some true).getD bareProgram.testMode) (Path.ofText "/vxcore_test") :=
    .sandbox rfl (by rfl)
  obtain ⟨-, confined, -, isolated⟩ :=
    @manager_isolated bareProgram _ (some source) .verbatim (some true)
      manager _ secluded (by rfl)
  exact ⟨confined bareProgram.files [.load, .save],
    congrArg Prod.fst (isolated surroundings (some other) rfl rfl).1⟩

end SettingsStore
