import SettingsStore.Proofs.Manager.Running

/-!
# Being told in two worlds

A load tells of each document before it reads the next one, and who is told may
write among the files that are read.  So the same load need not come to the same
for two listeners.  It does in worlds that have the same files and stay alike
when they are told the same.  One such pair is a program that keeps no log file,
beside its files alone: it loads and saves as its managers do by themselves.
-/

namespace SettingsStore

/--
Worlds that are alike have the same files, and are alike when they were told the
same.
-/
structure Log.Listener.Agree
    {World Image : Type}
    (listener : Log.Listener World)
    (other : Log.Listener Image)
    (Alike : World → Image → Prop) :
    Prop where
  files : ∀ {world image}, Alike world image →
    other.files image = listener.files world
  hear : ∀ {world image} (event : Log.Event),
    Alike world image →
      Alike (listener.hear world event) (other.hear image event)

namespace Log.Listener.Agree

variable {World Image : Type} {listener : Log.Listener World}
  {other : Log.Listener Image}
  {Alike : World → Image → Prop} {world : World} {image : Image}

theorem hearAll
    (agree : listener.Agree other Alike)
    (image : Image)
    (alike : Alike world image)
    (events : List Log.Event) :
    Alike (listener.hearAll world events) (other.hearAll image events) := by
  induction events generalizing world image with
  | nil => exact alike
  | cons event rest induction => exact induction _ (agree.hear event alike)

/--
A layer that is read in worlds that are alike is the same and leaves them alike.
-/
theorem readLayerTelling
    (agree : listener.Agree other Alike)
    (alike : Alike world image)
    (path : Option Path) :
    ∃ outcome after imageAfter,
      readLayerTelling listener world path = (outcome, after) ∧
        readLayerTelling other image path = (outcome, imageAfter) ∧
          Alike after imageAfter := by
  rw [SettingsStore.readLayerTelling, SettingsStore.readLayerTelling,
    agree.files alike]
  cases readLayer (listener.files world) path with
  | error fault => exact ⟨_, _, _, rfl, rfl, alike⟩
  | ok layer => exact ⟨_, _, _, rfl, rfl, agree.hearAll _ alike layer.events⟩

theorem readLayers
    (agree : listener.Agree other Alike)
    (alike : Alike world image)
    (paths : ResolvedPaths) :
    ∃ outcome after imageAfter,
      readLayers listener world paths = (outcome, after) ∧
        readLayers other image paths = (outcome, imageAfter) ∧
          Alike after imageAfter := by
  rw [SettingsStore.readLayers, SettingsStore.readLayers]
  obtain ⟨outcome, world, image, here, there, alike⟩ :=
    agree.readLayerTelling alike paths.defaultConfig
  rw [here, there]
  cases outcome with
  | error fault => exact ⟨_, _, _, rfl, rfl, alike⟩
  | ok defaults =>
      obtain ⟨outcome, world, image, here, there, alike⟩ :=
        agree.readLayerTelling alike paths.userConfig
      dsimp only
      rw [here, there]
      cases outcome with
      | error fault => exact ⟨_, _, _, rfl, rfl, alike⟩
      | ok user =>
          obtain ⟨outcome, world, image, here, there, alike⟩ :=
            agree.readLayerTelling alike paths.session
          dsimp only
          rw [here, there]
          cases outcome <;> exact ⟨_, _, _, rfl, rfl, alike⟩

/--
A load comes to the same, makes the same of the manager, and leaves the worlds
alike.
-/
theorem loadDocuments
    (agree : listener.Agree other Alike)
    (image : Image)
    (alike : Alike world image)
    (manager : Manager)
    (made : Except Fault Unit) :
    (manager.loadDocuments other image made).1 =
      (manager.loadDocuments listener world made).1 ∧
      (manager.loadDocuments other image made).2.1 =
        (manager.loadDocuments listener world made).2.1 ∧
        Alike (manager.loadDocuments listener world made).2.2
          (manager.loadDocuments other image made).2.2 := by
  unfold Manager.loadDocuments
  cases made with
  | error fault => exact ⟨rfl, rfl, agree.hearAll _ alike _⟩
  | ok =>
      obtain ⟨outcome, world, image, here, there, alike⟩ :=
        agree.readLayers alike manager.paths
      dsimp only
      rw [here, there]
      cases outcome with
      | error fault => exact ⟨rfl, rfl, agree.hearAll _ alike _⟩
      | ok layers =>
          dsimp only
          cases layers.decode manager.codec with
          | error fault => exact ⟨rfl, rfl, agree.hearAll _ alike _⟩
          | ok decoded => exact ⟨rfl, rfl, agree.hear _ alike⟩

/--
The conventions say the same directories in worlds that are alike, and asking
for them leaves the worlds alike.
-/
theorem chooseByConventions
    (agree : listener.Agree other Alike)
    (alike : Alike world image)
    (host : Host)
    (source : DirectorySource)
    (executable : Option Path) :
    ∃ outcome after imageAfter,
      host.chooseByConventions listener world source executable =
        (outcome, after) ∧
        host.chooseByConventions other image source executable =
          (outcome, imageAfter) ∧
          Alike after imageAfter := by
  rw [Host.chooseByConventions, Host.chooseByConventions, agree.files alike]
  have asked :=
    agree.hearAll _ alike
      ((host.withFiles (listener.files world)).folderEvents true source)
  dsimp only
  cases (host.withFiles (listener.files world)).userDataDirectory source with
  | error error => exact ⟨_, _, _, rfl, rfl, asked⟩
  | ok userData =>
      dsimp only
      rw [agree.files asked]
      generalize listener.hearAll world _ = world at asked ⊢
      generalize other.hearAll image _ = image at asked ⊢
      have again :=
        agree.hearAll _ asked
          ((host.withFiles (listener.files world)).folderEvents false source)
      cases (host.withFiles (listener.files world)).machineDataDirectory
        source with
      | error error => exact ⟨_, _, _, rfl, rfl, again⟩
      | ok machineData => exact ⟨_, _, _, rfl, rfl, agree.hear _ again⟩

theorem choosePaths
    (agree : listener.Agree other Alike)
    (alike : Alike world image)
    (host : Host)
    (source : DirectorySource)
    (testMode : Bool) :
    ∃ outcome after imageAfter,
      host.choosePaths listener world source testMode = (outcome, after) ∧
        host.choosePaths other image source testMode = (outcome, imageAfter) ∧
          Alike after imageAfter := by
  rw [Host.choosePaths, Host.choosePaths, agree.files alike]
  cases (host.withFiles (listener.files world)).executableDirectoryOf
    source with
  | error error => exact ⟨_, _, _, rfl, rfl, alike⟩
  | ok executable =>
      dsimp only
      split
      · cases (host.withFiles (listener.files world)).sandbox with
        | error error => exact ⟨_, _, _, rfl, rfl, alike⟩
        | ok sandbox => exact ⟨_, _, _, rfl, rfl, agree.hear _ alike⟩
      · split
        · exact ⟨_, _, _, rfl, rfl, agree.hear _ alike⟩
        · exact agree.chooseByConventions alike host source executable

/--
A manager is made the same in worlds that are alike, and making it leaves them
alike.
-/
theorem constructTelling
    (agree : listener.Agree other Alike)
    (alike : Alike world image)
    (host : Host)
    (processTestMode : Bool)
    (source : Option DirectorySource)
    (codec : RecordCodec)
    (testMode : Option Bool) :
    ∃ outcome after imageAfter,
      Manager.constructTelling host listener world processTestMode source codec
        testMode = (outcome, after) ∧
        Manager.constructTelling host other image processTestMode source
          codec testMode =
            (outcome, imageAfter) ∧
          Alike after imageAfter := by
  unfold Manager.constructTelling
  dsimp only
  generalize DirectorySource.ofPlatform host.platform
    DirectorySource.defaultApplication = conventions
  cases source with
  | some source =>
      obtain ⟨outcome, _, _, here, there, alike⟩ :=
        agree.choosePaths alike host source (testMode.getD processTestMode)
      rw [Option.getD_some, here, there]
      cases outcome <;> exact ⟨_, _, _, rfl, rfl, alike⟩
  | none =>
      obtain ⟨outcome, _, _, here, there, alike⟩ :=
        agree.choosePaths (agree.hear _ alike) host conventions
          (testMode.getD processTestMode)
      rw [Option.getD_none, here, there]
      cases outcome <;> exact ⟨_, _, _, rfl, rfl, alike⟩

end Log.Listener.Agree

/-! ## Programs that keep no log file -/

/-- The journal writes to no file. -/
def Log.Journal.Unfiled (journal : Log.Journal) : Prop :=
  journal.outlet.bind Log.Outlet.file = none

namespace Log.Journal.Unfiled

variable {journal : Log.Journal}

theorem record
    (unfiled : journal.Unfiled)
    (files : FileSystem)
    (entry : Log.Record) :
    (journal.record files entry).journal = journal ∧
      (journal.record files entry).files = files := by
  unfold Log.Journal.record
  split
  · split
    · exact ⟨rfl, rfl⟩
    · rename_i outlet known
      rw [Unfiled, known, Option.bind_some] at unfiled
      dsimp only
      rw [unfiled]
      exact ⟨rfl, rfl⟩
  · exact ⟨rfl, rfl⟩

theorem afterRemoval
    (unfiled : journal.Unfiled)
    (before : FileSystem)
    (removed : Place → Bool) :
    (journal.afterRemoval before removed).Unfiled := by
  obtain ⟨threshold, outlet⟩ := journal
  cases outlet with
  | none => rfl
  | some outlet =>
      change outlet.file.map _ = none
      rw [show outlet.file = none from unfiled, Option.map_none]

end Log.Journal.Unfiled

namespace Program

/-- A program that keeps no log file has these files. -/
def Silent (files : FileSystem) (program : Program) : Prop :=
  program.journal.Unfiled ∧ program.files = files

/-- What such a program is told changes nothing about that. -/
theorem Silent.tell
    {files : FileSystem}
    {program : Program}
    (silent : program.Silent files)
    (event : Log.Event) :
    (program.tell event).Silent files := by
  obtain ⟨unfiled, rfl⟩ := silent
  unfold Program.tell
  have recorded : ∀ entry,
      (program.journal.record program.files entry).journal.Unfiled ∧
        (program.journal.record program.files entry).files = program.files := by
    intro entry
    obtain ⟨journal, files⟩ := unfiled.record program.files entry
    rw [journal]
    exact ⟨unfiled, files⟩
  cases program.gathered with
  | none => exact recorded _
  | some events =>
      dsimp only
      split
      · split <;> exact ⟨unfiled, rfl⟩
      · exact recorded _

/--
A program that keeps no log file agrees with the listener that only keeps the
events.
-/
theorem listener_agree_quiet (files : FileSystem) :
    listener.Agree (Log.Listener.quiet files) fun program _ =>
      program.Silent files where
  files silent := silent.2.symm
  hear event silent := silent.tell event

/-- A program that keeps no log file loads as the manager does by itself. -/
theorem load_of_unfiled
    {program : Program}
    (unfiled : program.journal.Unfiled)
    (manager : Manager) :
    (program.load manager).1 = (manager.load program.files).result ∧
      (program.load manager).2.1 = (manager.load program.files).manager ∧
        (program.load manager).2.2.Silent
          (manager.load program.files).files := by
  unfold load Manager.load
  obtain ⟨made, trail⟩ :=
    (ensureDataDirectories manager.paths).runOn program.files
  have silent :
      (program.withFiles trail.files fun _ => false).Silent trail.files :=
    ⟨unfiled.afterRemoval _ _, rfl⟩
  obtain ⟨result, after, told⟩ :=
    (listener_agree_quiet trail.files).loadDocuments [] silent manager made
  exact ⟨result.symm, after.symm, told⟩

/-- It saves as the manager does by itself. -/
theorem save_of_unfiled
    {program : Program}
    (unfiled : program.journal.Unfiled)
    (manager : Manager) :
    (program.save manager).1 = (manager.save program.files).result ∧
      (program.save manager).2.Silent (manager.save program.files).files := by
  refine ⟨rfl, (listener_agree_quiet _).hearAll [] ?_ _⟩
  exact ⟨unfiled.afterRemoval _ _, rfl⟩

end Program

end SettingsStore
