import SettingsStore.Proofs.Host.Depending
import SettingsStore.Proofs.Manager.Normalising

/-!
# Restarting

Where a program finds its directories depends on the files in two ways:
canonical paths are led on through links, and the directory `config` beside the
executable decides whether the conventions are asked at all.  A load adds
directories and a save puts one file in its place, so a second manager comes to
the directories of the first one, unless it is these changes that bring such a
`config` into being, that close a loop of links at the binary of a bundled
program, or that replace a link on the way to one of the directories.
-/

namespace SettingsStore

open FileSystem

/-! ## The directories of a manager -/

/-- The directories that are chosen outside of test mode. -/
inductive Chosen
    (host : Host)
    (source : DirectorySource) :
    ResolvedPaths → Prop where
  | portable {executable : Path}
      (answered : host.answer source .executable = .ok (some executable))
      (there : host.files.pathExists (executable.child "config") = true) :
      Chosen host source ⟨some executable, some (executable.child "config"),
        some (executable.child "config")⟩
  | ordinary {executable userData machineData : Option Path}
      (answered : host.answer source .executable = .ok executable)
      (unmarked :
        ∀ directory, executable = some directory →
          host.files.pathExists (directory.child "config") = false)
      (user : host.answer source .userData = .ok userData)
      (machine : host.answer source .machineData = .ok machineData) :
      Chosen host source ⟨executable, userData, machineData⟩

section

variable {host : Host} {source : DirectorySource} {paths : ResolvedPaths}

theorem Chosen.executable (chosen : Chosen host source paths) :
    host.answer source .executable = .ok paths.executable := by
  cases chosen with
  | portable answered | ordinary answered => exact answered

/-- Beside `config` a program is portable. -/
theorem chosen_iff_of_marked
    {directory : Path}
    (answered : host.answer source .executable = .ok (some directory))
    (marked : host.files.pathExists (directory.child "config") = true) :
    Chosen host source paths ↔
      paths = ⟨some directory, some (directory.child "config"),
        some (directory.child "config")⟩ := by
  constructor
  · intro chosen
    cases chosen with
    | portable answeredToo =>
        cases answered.symm.trans answeredToo
        rfl
    | ordinary answeredToo unmarked =>
        cases answered.symm.trans answeredToo
        cases marked.symm.trans (unmarked _ rfl)
  · rintro rfl
    exact .portable answered marked

/-- Elsewhere it is the conventions that choose. -/
theorem chosen_iff_of_unmarked
    {executable : Option Path}
    (answered : host.answer source .executable = .ok executable)
    (unmarked :
      ∀ directory, executable = some directory →
        host.files.pathExists (directory.child "config") = false) :
    Chosen host source paths ↔
      ∃ userData machineData,
        host.answer source .userData = .ok userData ∧
          host.answer source .machineData = .ok machineData ∧
          paths = ⟨executable, userData, machineData⟩ := by
  constructor
  · intro chosen
    cases chosen with
    | portable answeredToo marked =>
        cases answered.symm.trans answeredToo
        cases marked.symm.trans (unmarked _ rfl)
    | ordinary answeredToo _ user machine =>
        cases answered.symm.trans answeredToo
        exact ⟨_, _, user, machine, rfl⟩
  · rintro ⟨userData, machineData, user, machine, rfl⟩
    exact .ordinary answered unmarked user machine

/-- The conventions are followed if both answer. -/
theorem chooseByConventions_eq_ok_iff
    {executable : Option Path}
    (told : List Log.Event) :
    (host.chooseByConventions
        (Log.Listener.quiet host.files) told source executable).1 = .ok paths ↔
      ∃ userData machineData,
        host.answer source .userData = .ok userData ∧
          host.answer source .machineData = .ok machineData ∧
          paths = ⟨executable, userData, machineData⟩ := by
  have user :
      (host.withFiles host.files).userDataDirectory source =
        host.answer source .userData := rfl
  have machine :
      (host.withFiles host.files).machineDataDirectory source =
        host.answer source .machineData := rfl
  rw [Host.chooseByConventions]
  dsimp only [Log.Listener.quiet]
  rw [user, machine]
  cases host.answer source .userData with
  | error =>
      refine ⟨fun same => ?_, ?_⟩
      · cases same
      · rintro ⟨_, _, ⟨⟩, -⟩
  | ok userData =>
      cases host.answer source .machineData with
      | error =>
          refine ⟨fun same => ?_, ?_⟩
          · cases same
          · rintro ⟨_, _, -, ⟨⟩, -⟩
      | ok machineData =>
          constructor
          · intro same
            cases same
            exact ⟨_, _, rfl, rfl, rfl⟩
          · rintro ⟨_, _, ⟨⟩, ⟨⟩, rfl⟩
            rfl

theorem choosePaths_eq_ok_iff (told : List Log.Event) :
    (host.choosePaths (Log.Listener.quiet host.files) told source false).1 =
      .ok paths ↔
      Chosen host source paths := by
  have looks :
      host.withFiles ((Log.Listener.quiet host.files).files told) = host := rfl
  have asked :
      host.executableDirectoryOf source = host.answer source .executable := rfl
  rw [Host.choosePaths, looks, asked]
  cases answered : host.answer source .executable with
  | error error =>
      refine ⟨fun same => ?_, fun chosen => ?_⟩
      · cases same
      · cases answered.symm.trans chosen.executable
  | ok executable =>
      dsimp only
      rw [if_neg Bool.false_ne_true]
      cases executable with
      | none =>
          refine (chooseByConventions_eq_ok_iff told).trans
            (chosen_iff_of_unmarked answered ?_).symm
          rintro _ ⟨⟩
      | some directory =>
          rw [Option.map_some, Option.filter_some]
          by_cases marked :
            host.files.pathExists (directory.child "config") = true
          · rw [if_pos marked, chosen_iff_of_marked answered marked,
              Except.ok.injEq]
            exact eq_comm
          · rw [if_neg marked]
            refine (chooseByConventions_eq_ok_iff told).trans
              (chosen_iff_of_unmarked answered ?_).symm
            rintro _ ⟨⟩
            exact Bool.eq_false_iff.mpr marked

end

/-! ## Choosing again -/

/--
What stands at the marker of a portable program beside an executable was not
there before.
-/
structure MarkerAppeared
    (paths : ResolvedPaths)
    (before after : FileSystem)
    (marker : Path) :
    Prop where
  beside : ∃ executable, paths.executable = some executable ∧
    marker = executable.child "config"
  absent : before.pathExists marker = false
  present : after.pathExists marker = true

/--
Directories are come back to, unless a marker has appeared: then it holds
everything.
-/
structure ComeBackTo
    (paths later : ResolvedPaths)
    (before after : FileSystem) :
    Prop where
  unmarked : (∀ marker, ¬ MarkerAppeared paths before after marker) →
    later = paths
  marked :
    ∀ marker, MarkerAppeared paths before after marker →
      later = ⟨paths.executable, some marker, some marker⟩

/--
Among other files that give the same answers and still have the data directories
these are come back to.
-/
theorem Chosen.again
    {host : Host}
    {source : DirectorySource}
    {paths : ResolvedPaths}
    {after : FileSystem}
    (chosen : Chosen host source paths)
    (executable :
      (host.withFiles after).answer source .executable = .ok paths.executable)
    (data :
      ∀ query found, host.answer source query = .ok found →
        (∀ directory, found = some directory → paths.HasData directory) →
          (host.withFiles after).answer source query = .ok found)
    (still :
      ∀ directory, paths.HasData directory →
        after.pathExists directory = true) :
    ∃ later, Chosen (host.withFiles after) source later ∧
      ComeBackTo paths later host.files after := by
  cases chosen with
  | @portable executableDirectory answered there =>
      refine ⟨_, .portable executable (still _ (Or.inr rfl)), fun _ => rfl, ?_⟩
      rintro _ ⟨⟨_, ⟨⟩, rfl⟩, absent, -⟩
      cases absent.symm.trans there
  | @ordinary executableDirectory userData machineData answered unmarked
    user machine =>
      -- there was no marker before, so one that is there now has appeared
      by_cases appeared :
          ∃ directory, executableDirectory = some directory ∧
            after.pathExists (directory.child "config") = true
      · obtain ⟨directory, rfl, there⟩ := appeared
        have marker :
            MarkerAppeared ⟨some directory, userData, machineData⟩
              host.files after
              (directory.child "config") :=
                ⟨⟨directory, rfl, rfl⟩, unmarked directory rfl, there⟩
        refine ⟨_, .portable executable there,
          fun none => absurd marker (none _), ?_⟩
        rintro _ ⟨⟨_, ⟨⟩, rfl⟩, -, -⟩
        rfl
      · have unmarkedStill : ∀ directory, executableDirectory = some directory →
            after.pathExists (directory.child "config") = false :=
              fun directory same =>
          Bool.eq_false_iff.mpr fun there => appeared ⟨directory, same, there⟩
        refine ⟨_, .ordinary executable unmarkedStill
            (data _ _ user fun _ same => Or.inl same)
            (data _ _ machine fun _ same => Or.inr same), fun _ => rfl, ?_⟩
        rintro _ ⟨⟨directory, same, rfl⟩, -, there⟩
        exact absurd ⟨directory, same, there⟩ appeared

/-! ## What a run leaves of the answers -/

section

variable {files : FileSystem} {path : Path}

/--
Where a loop is found at the end of a path, one is found at every name behind
it.
-/
theorem locate_child_of_loop
    {name : Text}
    (absolute : path.isAbsolute = true)
    (askable : Askable (path.child name))
    (looped : files.locate path true = .error .linkLoop) :
    files.locate (path.child name) true = .error .linkLoop := by
  have start : path.start ≠ .relative := by
    simpa [Path.isAbsolute] using absolute
  rw [askable.of_child.locate_eq, lead, if_pos start] at looped
  rw [askable.locate_eq, Path.child, storedNames_append, lead, if_pos start]
  exact ((walk_eq_iff.mp looped).append_eq_error rfl true (by simp)).eq_walk

theorem askable_of_contentOf
    (read : FileOrNothing (files.contentOf path)) :
    Askable path := by
  by_contra refused
  obtain ⟨error, why, located⟩ := locate_of_not_askable refused
  rw [contentOf_eq, located] at read
  rcases why with rfl | ⟨_, _, rfl⟩ <;> exact read

/-- An executable whose packaged defaults were read is in no loop. -/
theorem status_of_defaultConfig
    (absolute : path.isAbsolute = true)
    (read :
      FileOrNothing
        (files.contentOf ((path.child "data").child "vxcore.json"))) :
    files.status path ≠ .error .linkLoop := by
  intro looped
  have askable := askable_of_contentOf read
  have data :=
    locate_child_of_loop absolute askable.of_child
      (status_eq_loop_iff.mp looped)
  rw [contentOf_eq, @locate_child_of_loop files
      (path.child "data") _ absolute askable data] at read
  exact read

end

theorem Furnished.onlyDirectories
    {paths : ResolvedPaths}
    {before after : FileSystem}
    (furnished : Furnished paths before after) :
    OnlyDirectories before after :=
  ⟨furnished.toExtends, fun place entry nothing there =>
      ⟨_, (furnished.added place entry nothing there).1⟩⟩

/--
The link that stands in place of a session, if one does, is on the way to no
answer.
-/
def Host.ClearOfSession
    (host : Host)
    (source : DirectorySource)
    (files : FileSystem)
    (directory : Path) :
    Prop :=
  ∀ place mode target,
    files.locate directory true = .ok ⟨place, some (.directory mode)⟩ →
      files.get? (sessionPlace place) = some (.link target) →
        ∀ query,
          (host.withFiles (files.erase (sessionPlace place))).answer
          source query =
          (host.withFiles files).answer source query

/--
A session that was overwritten leaves the answers as they were, if its link was
not on the way to them.
-/
theorem Host.answer_overwritten
    {host : Host}
    {source : DirectorySource}
    {query : Query}
    {directory : Path}
    {content : ByteArray}
    {mode : Nat}
    {place : Place}
    {before after : FileSystem}
    (overwritten :
      Overwritten directory "session.json" content mode place before after)
    (clear : host.ClearOfSession source before directory) :
    (host.withFiles after).answer source query =
      (host.withFiles before).answer source query := by
  obtain ⟨directoryMode, leads⟩ := overwritten.leads
  obtain ⟨base, anchored⟩ := overwritten.anchored
  have there := overwritten.there
  have same := overwritten.same
  have child := locate_child leads anchored plain_session overwritten.askable
  rw [Text.stored_ofString] at there same child
  have free : FreeOfLinks after (sessionPlace place) := by
    intro entry held
    exact ⟨content, mode, Option.some.inj (held.symm.trans there)⟩
  by_cases link :
    ∃ target, before.get? (sessionPlace place) = some (.link target)
  · obtain ⟨target, link⟩ := link
    have erased := sameExcept_erase before (sessionPlace place)
    have nothing :
        FreeOfLinks (before.erase (sessionPlace place))
          (sessionPlace place) := by
      intro entry held
      rw [get?_erase_self (by simp [sessionPlace])] at held
      cases held
    rw [answer_differs (erased.symm.trans same) nothing free]
    exact clear place directoryMode target leads link query
  · refine answer_differs same ?_ free
    intro entry held
    cases entry with
    | file content mode => exact ⟨content, mode, rfl⟩
    | link target => exact absurd ⟨target, held⟩ link
    | directory mode =>
        rw [held] at child
        exact absurd
          (status_of_locate (locate_followed (by simp [NoLink]) child))
          (overwritten.read.noDirectory mode)

/--
A load makes no links, so that no answer can hang on one unless there were links
before.
-/
theorem Furnished.clearOfSession
    {paths : ResolvedPaths}
    {before after : FileSystem}
    (furnished : Furnished paths before after)
    (unlinked : ∀ place target, before.get? place ≠ some (.link target))
    (host : Host)
    (source : DirectorySource)
    (directory : Path) :
    host.ClearOfSession source after directory := by
  intro place _ target _ link
  cases held : before.get? (sessionPlace place) with
  | none => cases (furnished.added _ _ held link).1
  | some entry =>
      cases link.symm.trans (furnished.kept _ _ held)
      exact absurd held (unlinked _ target)

namespace Manager

/--
Outside of test mode a manager is made if its directories are chosen, and of
nothing else.
-/
theorem construct_eq_ok_iff
    {host : Host}
    {processTestMode : Bool}
    {source : Option DirectorySource}
    {codec : RecordCodec}
    {testMode : Option Bool}
    {manager : Manager}
    (ordinary : testMode.getD processTestMode = false) :
    (construct host processTestMode source codec testMode).1 = .ok manager ↔
      ∃ paths,
        Chosen host
          (source.getD
            (.ofPlatform host.platform DirectorySource.defaultApplication))
          paths ∧
          manager = { codec, testMode := false, paths } := by
  unfold construct constructTelling
  dsimp only
  rw [ordinary]
  split
  · rename_i error told outcome
    have stopped := congrArg Prod.fst outcome
    constructor
    · intro same
      cases same
    · rintro ⟨paths, chosen, -⟩
      cases stopped.symm.trans ((choosePaths_eq_ok_iff _).mpr chosen)
  · rename_i paths told outcome
    have found := congrArg Prod.fst outcome
    constructor
    · intro same
      cases same
      exact ⟨paths, (choosePaths_eq_ok_iff _).mp found, rfl⟩
    · rintro ⟨other, chosen, rfl⟩
      cases found.symm.trans ((choosePaths_eq_ok_iff _).mpr chosen)
      rfl

theorem machineData_of_save
    {manager : Manager}
    {files : FileSystem}
    (done : (manager.save files).result = .ok ()) :
    ∃ directory, manager.paths.machineData = some directory := by
  cases known : manager.paths.machineData with
  | some directory => exact ⟨directory, rfl⟩
  | none =>
      have path : manager.paths.session = none := by
        rw [ResolvedPaths.session, known]
        rfl
      rw [save, path] at done
      cases done

/--
After a load and a save a second manager comes to the directories of the first,
so that it finds the session that was saved, unless what the first one did has
brought a `config` beside the executable into being: then it is portable.  The
load must not close a loop of links at the binary of a bundled program, nor the
save replace a link on the way to one of the directories.
-/
theorem construct_restarted
    (host : Host)
    (processTestMode : Bool)
    (source : Option DirectorySource)
    (codec : RecordCodec)
    (testMode : Option Bool)
    (manager : Manager)
    (session : Session)
    (ordinary : testMode.getD processTestMode = false)
    (wellFormed : host.files.WellFormed)
    (leftAbove : host.files.LeftAbove)
    (binary :
      host.bundled = true →
        ∀ path, host.files.resolve (Path.ofText host.executable) = .ok path →
        (manager.load host.files).files.status path ≠ .error .linkLoop)
    (constructed :
      (construct host processTestMode source codec testMode).1 = .ok manager)
    (loaded : (manager.load host.files).result = .ok ())
    (clear :
      ∀ directory, manager.paths.machineData = some directory →
        host.ClearOfSession
          (source.getD
            (.ofPlatform host.platform DirectorySource.defaultApplication))
            (manager.load host.files).files directory)
    (saved :
      ({ (manager.load host.files).manager with session }.save
        (manager.load host.files).files).result = .ok ()) :
    let after :=
      ({ (manager.load host.files).manager with session }.save
          (manager.load host.files).files).files
    ∃ second directory content,
      (construct (host.withFiles after) processTestMode source codec
          testMode).1 = .ok second ∧
        ComeBackTo manager.paths second.paths host.files after ∧
          manager.paths.machineData = some directory ∧
            sessionContent codec session = .ok content ∧
              after.contentOf (directory.child "session.json") =
                .ok content := by
  intro after
  generalize directories :
    source.getD (.ofPlatform host.platform DirectorySource.defaultApplication) =
      origin at clear
  obtain ⟨paths, chosen, rfl⟩ := (construct_eq_ok_iff ordinary).mp constructed
  rw [directories] at chosen
  obtain ⟨ready, layers, config, decoded, read, -, loadedManager⟩ :=
    found_of_load loaded
  obtain ⟨defaults, -, old⟩ := layersOf_eq_ok.mp read
  obtain ⟨directory, known⟩ := machineData_of_save saved
  rw [loadedManager] at known
  have path : paths.session = some (directory.child "session.json") := by
    rw [ResolvedPaths.session]
    exact congrArg _ known
  rw [path] at old
  obtain ⟨content, mode, place, written, overwritten⟩ := overwritten_of_save
    (by rw [loadedManager]; exact known) (ready directory (Or.inr known))
      (fileOrNothing_of_readLayer old) saved
  rw [loadedManager] at written
  have only :=
    (load_furnished
      { codec, testMode := false, paths } host.files).onlyDirectories
  have same :
      ∀ query, (∀ path, path.isAbsolute = true →
        host.answer origin query = .ok (some path) →
      (load { codec, testMode := false, paths } host.files).files.status path ≠
        .error .linkLoop) →
        (host.withFiles after).answer origin query = host.answer origin query :=
          fun query noLoop =>
    (host.answer_overwritten overwritten (clear directory known)).trans
      (Host.answer_onlyDirectories wellFormed leftAbove only binary noLoop)
  have executable :
      (host.withFiles after).answer origin .executable =
        .ok paths.executable := by
    have answered := chosen.executable
    rw [same .executable, answered]
    intro path absolute answer
    rw [ResolvedPaths.defaultConfig, Except.ok.inj (answered.symm.trans answer)]
      at defaults
    exact status_of_defaultConfig absolute (fileOrNothing_of_readLayer defaults)
  have data : ∀ query found, host.answer origin query = .ok found →
      (∀ directory, found = some directory → paths.HasData directory) →
        (host.withFiles after).answer origin query = .ok found := by
    intro query found answered hasData
    rw [same query, answered]
    intro path _ answer looped
    have found := Except.ok.inj (answered.symm.trans answer)
    obtain ⟨mode, held⟩ := isDirectory_iff.mp (ready path (hasData path found))
    cases looped.symm.trans held
  obtain ⟨later, chosenLater, comeBack⟩ :=
    chosen.again executable data fun path hasData =>
    pathExists_of_isDirectory (overwritten.isDirectory (ready path hasData))
  rw [← directories] at chosenLater
  exact ⟨{ codec, testMode := false, paths := later }, directory, content,
    (construct_eq_ok_iff ordinary).mpr ⟨later, chosenLater, rfl⟩, comeBack,
    known, written,
    overwritten.kept.1.contentOf⟩

/-! ## Machines on which a manager is made twice -/

/-- A machine with the conventions of Linux, some variables and some files. -/
def machine
    (environment : Environment)
    (entries : List (Place × Entry)) :
    Host where
  environment := environment
  accounts := {}
  knownFolders := {}
  platform := "linux"
  bundled := false
  executable := ""
  packageDirectory := Path.ofText "/program"
  temporaryDirectory := Path.ofText "/tmp"
  files := ⟨entries, .present [], 0o022⟩

/-- The directories of a program, its data and its caches. -/
def inDirectories (executable userData machineData : Text) : ResolvedPaths :=
  ⟨some (Path.ofText executable), some (Path.ofText userData),
    some (Path.ofText machineData)⟩

/-- A manager of some directories, as it is made. -/
def atFirst (paths : ResolvedPaths) : Manager where
  codec := .verbatim
  testMode := false
  paths := paths

/-- The files after a manager of some directories loaded and saved. -/
def filesAfter (paths : ResolvedPaths) (files : FileSystem) : FileSystem :=
  (((atFirst paths).load files).manager.save
      ((atFirst paths).load files).files).files

/--
A manager that follows the conventions loads and saves, and then a second one is
made.
-/
structure Restarted (host : Host) (first second : ResolvedPaths) : Prop where
  constructed :
    (construct host false none .verbatim none).1 = .ok (atFirst first)
  loaded : ((atFirst first).load host.files).result = .ok ()
  saved :
    (((atFirst first).load host.files).manager.save
      ((atFirst first).load host.files).files).result = .ok ()
  again :
    (construct (host.withFiles (filesAfter first host.files)) false none
        .verbatim none).1 = .ok (atFirst second)

theorem construct_of_choosePaths
    {host : Host}
    {paths : ResolvedPaths}
    (chosen :
      (host.choosePaths (Log.Listener.quiet host.files) []
        (.ofPlatform host.platform DirectorySource.defaultApplication)
          false).1 = .ok paths) :
    (construct host false none .verbatim none).1 = .ok (atFirst paths) :=
  (construct_eq_ok_iff rfl).mpr
    ⟨paths, (choosePaths_eq_ok_iff _).mp chosen, rfl⟩

/-- A machine without files on which variables name the directories. -/
def unfurnished : Host :=
  machine [("XDG_DATA_HOME", "/data"), ("XDG_CACHE_HOME", "/cache")] []

theorem get?_unfurnished
    {place : Place}
    (below : place ≠ []) :
    unfurnished.files.get? place = none := by
  rw [get?, if_neg below]
  rfl

theorem wellFormed_unfurnished : unfurnished.files.WellFormed where
  parents place name entry there := by
    rw [get?_unfurnished (by simp)] at there
    cases there
  workDirectory := by
    rintro place ⟨⟩
    exact hasDirectory_root _

theorem unlinked_unfurnished
    (place : Place)
    (target : Text) :
    unfurnished.files.get? place ≠ some (.link target) := by
  cases place with
  | nil => simp [get?]
  | cons name place => simp [get?_unfurnished]

/-- Its directories. -/
def unfurnishedPaths : ResolvedPaths :=
  inDirectories "/program" "/data/VNote" "/cache/VNote"

/--
On a machine without files the second manager comes to the directories that the
first one made.
-/
theorem construct_restarted_unfurnished :
    Restarted unfurnished unfurnishedPaths unfurnishedPaths := by
  have constructed :
      (construct unfurnished false none .verbatim none).1 =
        .ok (atFirst unfurnishedPaths) :=
    construct_of_choosePaths (by decide +kernel)
  have loaded :
      ((atFirst unfurnishedPaths).load unfurnished.files).result = .ok () := by
    decide +kernel
  have saved :
      (((atFirst unfurnishedPaths).load unfurnished.files).manager.save
        ((atFirst unfurnishedPaths).load unfurnished.files).files).result =
          .ok () := by
    decide +kernel
  have unmarked :
      ∀ marker, ¬ MarkerAppeared unfurnishedPaths unfurnished.files
        (filesAfter unfurnishedPaths unfurnished.files)
        marker := by
    rintro _ ⟨⟨_, same, rfl⟩, -, there⟩
    rw [← Option.some.inj same] at there
    revert there
    decide +kernel
  have furnished := load_furnished (atFirst unfurnishedPaths) unfurnished.files
  have restarted := fun session =>
    construct_restarted unfurnished false none .verbatim none
      (atFirst unfurnishedPaths) session rfl
      wellFormed_unfurnished (by rintro _ ⟨⟩)
        (fun bundled => absurd bundled Bool.false_ne_true)
      constructed loaded fun directory _ =>
        furnished.clearOfSession unlinked_unfurnished unfurnished _ directory
  have again :
      (construct
          (unfurnished.withFiles
            (filesAfter unfurnishedPaths unfurnished.files)) false
          none .verbatim
          none).1 = .ok (atFirst unfurnishedPaths) := by
    rw [filesAfter] at unmarked ⊢
    generalize (atFirst unfurnishedPaths).load unfurnished.files = run
      at saved unmarked restarted ⊢
    obtain ⟨second, _, _, again, same, -⟩ := restarted run.manager.session saved
    obtain ⟨paths, -, rfl⟩ := (construct_eq_ok_iff rfl).mp again
    have samePaths : paths = unfurnishedPaths := same.unmarked unmarked
    rw [samePaths] at again
    exact again
  exact ⟨constructed, loaded, saved, again⟩

/--
The exceptions do occur.  A load makes the directory `config` beside the
executable; a save replaces the link that was on the way to a directory; a load
makes a directory that closes a loop of links at the binary of a bundled
program.
-/
theorem restarted_elsewhere :
    (∃ first second,
      Restarted
        (machine
          [("VXCORE_EXECUTABLE_DIR", "/program"),
            ("XDG_DATA_HOME", "/program/config"), ("XDG_CACHE_HOME", "/cache")]
          [])
        first second ∧
        first.machineData = some (Path.ofText "/cache/VNote") ∧
          second.machineData = some (Path.ofText "/program/config")) ∧
      (∃ first second,
        Restarted
          (machine
            [("XDG_DATA_HOME", "/cache/VNote/session.json/.."),
              ("XDG_CACHE_HOME", "/cache")]
            [([Text.ofString "cache"], .directory 0o755),
              ([Text.ofString "cache", Text.ofString "VNote"],
              .directory 0o755),
              ([Text.ofString "cache", Text.ofString "VNote",
              Text.ofString "session.json"], .link "/data/kept")])
          first second ∧
          first.userData = some (Path.ofText "/data/VNote") ∧
            second.userData = some (Path.ofText "/cache/VNote/VNote")) ∧
        ∃ first second,
          Restarted
            { machine
                [("XDG_DATA_HOME", "/data"), ("XDG_CACHE_HOME", "/cache")]
                [([Text.ofString "opt"], .directory 0o755),
                  ([Text.ofString "opt", Text.ofString "run"],
                  .link "/data/../opt/run"),
                  ([Text.ofString "bin"], .link "/opt")] with
              bundled := true
              executable := "/bin/run" }
            first second ∧
            first.executable = some (Path.ofText "/opt") ∧
              second.executable = some (Path.ofText "/bin") := by
  refine ⟨⟨inDirectories "/program" "/program/config/VNote" "/cache/VNote",
      inDirectories "/program" "/program/config" "/program/config",
      ?marked, rfl, rfl⟩,
    ⟨inDirectories "/program" "/data/VNote" "/cache/VNote",
      inDirectories "/program" "/cache/VNote/VNote" "/cache/VNote",
      ?through, rfl, rfl⟩,
    ⟨inDirectories "/opt" "/data/VNote" "/cache/VNote",
      inDirectories "/bin" "/data/VNote" "/cache/VNote", ?looped, rfl, rfl⟩⟩
  case marked | through | looped =>
    exact ⟨construct_of_choosePaths
        (by decide +kernel), by decide +kernel, by decide +kernel,
      construct_of_choosePaths (by decide +kernel)⟩

end Manager

end SettingsStore
