import Mathlib.Tactic.ByContra
import SettingsStore.Proofs.Files.Following

/-!
# What locating a path depends on

A path is located by a walk from the root or from the work directory, provided
that its text is one that the system takes.  The facts about walks are carried
over to paths here.  A work directory that was taken away is the one case in
which there is no walk; then a path leads to it, back from it or nowhere.
-/

namespace SettingsStore

namespace FileSystem

/-- The system takes the text of a path. -/
def Askable (path : Path) : Prop :=
  ∃ octets, path.toText.systemOctets? = .ok octets ∧ octets.length ≤ pathLimit

/-- Follows stored names from where a path starts. -/
def lead
    (files : FileSystem)
    (start : PathStart)
    (followLast : Bool)
    (names : List Text) :
    Except FileError Spot :=
  if start ≠ .relative then files.walk followLast linkLimit [] names
  else
    match files.workDirectory with
    | .present place => files.walk followLast linkLimit place names
    | .removed place => files.walkRemoved followLast place names

/-- The names of a path as the system knows them. -/
def storedNames (path : Path) : List Text :=
  path.names.map Text.stored

@[simp]
theorem storedNames_append
    (start : PathStart)
    (names more : List Text) :
    storedNames ⟨start, names ++ more⟩ = storedNames ⟨start, names⟩ ++
      more.map Text.stored :=
  List.map_append

theorem locate_eq
    (files : FileSystem)
    (path : Path)
    (followLast : Bool) :
    files.locate path followLast =
      match path.toText.systemOctets? with
      | .error error => .error (.name error)
      | .ok octets =>
        if pathLimit < octets.length then .error .nameTooLong
        else files.lead path.start followLast (storedNames path) := by
  obtain ⟨start, names⟩ := path
  cases start <;> rfl

/-- A path whose text the system takes is located by following its names. -/
theorem Askable.locate_eq
    {path : Path}
    (askable : Askable path)
    (files : FileSystem)
    (followLast : Bool) :
    files.locate path followLast =
      files.lead path.start followLast (storedNames path) := by
  obtain ⟨octets, taken, short⟩ := askable
  rw [FileSystem.locate_eq, taken]
  simp [Nat.not_lt_of_le short]

/-- What the system does not take is refused whatever there is. -/
theorem locate_of_not_askable
    {path : Path}
    (refused : ¬ Askable path) :
    ∃ error,
      (error = .nameTooLong ∨
        ∃ cause, path.toText.systemOctets? = .error cause ∧
        error = .name cause) ∧
        ∀ (files : FileSystem) (followLast : Bool),
          files.locate path followLast = .error error := by
  cases taken : path.toText.systemOctets? with
  | error cause =>
      exact ⟨.name cause, Or.inr ⟨cause, rfl, rfl⟩, fun files followLast => by
        rw [FileSystem.locate_eq, taken]⟩
  | ok octets =>
      have long : pathLimit < octets.length := by
        by_contra short
        exact refused ⟨octets, taken, Nat.le_of_not_lt short⟩
      exact ⟨.nameTooLong, Or.inl rfl, fun files followLast => by
        rw [FileSystem.locate_eq, taken]
        simp [long]⟩

theorem askable_of_locate_ok
    {files : FileSystem}
    {path : Path}
    {followLast : Bool}
    {spot : Spot}
    (found : files.locate path followLast = .ok spot) :
    Askable path := by
  by_contra refused
  obtain ⟨error, _, everywhere⟩ := locate_of_not_askable refused
  rw [everywhere files followLast] at found
  cases found

theorem askable_of_locate_noEntry
    {files : FileSystem}
    {path : Path}
    {followLast : Bool}
    (found : files.locate path followLast = .error .noEntry) :
    Askable path := by
  by_contra refused
  obtain ⟨error, cause, everywhere⟩ := locate_of_not_askable refused
  rw [everywhere files followLast] at found
  cases found
  rcases cause with cause | ⟨_, _, cause⟩ <;> cases cause

/--
Following names is a walk from one place, or, where the work directory was taken
away, does not look at the entries at all.
-/
theorem lead_cases
    (files : FileSystem)
    (start : PathStart)
    (names : List Text) :
    (∃ place rest,
      ∀ (after : FileSystem) (followLast : Bool),
        after.workDirectory = files.workDirectory →
          after.lead start followLast names =
            after.walk followLast linkLimit place rest) ∨
    (∃ result : Except FileError Spot,
      (result = .error .noEntry ∨
        ∃ place mode, result = .ok ⟨place, some (.directory mode)⟩) ∧
        ∀ (after : FileSystem) (followLast : Bool),
          after.workDirectory = files.workDirectory →
            after.lead start followLast names = result) := by
  by_cases relative : start = .relative
  · cases work : files.workDirectory with
    | present place =>
        exact Or.inl ⟨place, names,
          fun after followLast same => by simp [lead, relative, same]⟩
    | removed place =>
        cases names with
        | nil =>
            exact Or.inr ⟨_, Or.inr ⟨place, 0o755, rfl⟩,
              fun after followLast same => by
              simp [lead, relative, same, walkRemoved]⟩
        | cons name rest =>
            by_cases back : name = ".."
            · exact Or.inl ⟨place.dropLast, rest,
                fun after followLast same => by
                simp [lead, relative, same, walkRemoved, back]⟩
            · exact Or.inr ⟨_, Or.inl rfl, fun after followLast same => by
                simp [lead, relative, same, walkRemoved, back]⟩
  · exact Or.inl ⟨[], names, fun after followLast _ => by simp [lead, relative]⟩

/-- A path to an entry goes on to lead there when entries are added. -/
theorem locate_extend
    {before after : FileSystem}
    (extends_ : Extends before after)
    {path : Path}
    {followLast : Bool}
    {goal : Place}
    {entry : Entry}
    (found : before.locate path followLast = .ok ⟨goal, some entry⟩) :
    after.locate path followLast = .ok ⟨goal, some entry⟩ := by
  have askable := askable_of_locate_ok found
  rw [askable.locate_eq] at found ⊢
  rcases lead_cases before path.start (storedNames path) with
    ⟨place, rest, walked⟩ | ⟨result, _, constant⟩
  · rw [walked before followLast rfl] at found
    rw [walked after followLast extends_.workDirectory]
    exact ((walk_eq_iff.mp found).extend extends_ rfl).eq_walk
  · rw [constant before followLast rfl] at found
    rw [constant after followLast extends_.workDirectory, found]

/--
A path to a free place leads to what is put there, be that followed or not.
-/
theorem locate_fill
    {before after : FileSystem}
    (extends_ : Extends before after)
    {path : Path}
    {goal : Place}
    {entry : Entry}
    (there : after.get? goal = some entry)
    (noLink : NoLink (some entry))
    (found : before.locate path false = .ok ⟨goal, none⟩)
    (followLast : Bool) :
    after.locate path followLast = .ok ⟨goal, some entry⟩ := by
  have askable := askable_of_locate_ok found
  rw [askable.locate_eq] at found ⊢
  rcases lead_cases before path.start (storedNames path) with
    ⟨place, rest, walked⟩ | ⟨result, ends, constant⟩
  · rw [walked before false rfl] at found
    rw [walked after followLast extends_.workDirectory]
    exact ((walk_eq_iff.mp found).fill extends_ there noLink rfl
        followLast).eq_walk
  · rw [constant before false rfl] at found
    subst found
    rcases ends with ends | ⟨_, _, ends⟩ <;> cases ends

/--
A path to what is no link leads there whether a link at the end is followed or
not.
-/
theorem locate_followed
    {files : FileSystem}
    {path : Path}
    {spot : Spot}
    (noLink : NoLink spot.entry)
    (found : files.locate path false = .ok spot) :
    files.locate path true = .ok spot := by
  have askable := askable_of_locate_ok found
  rw [askable.locate_eq] at found ⊢
  rcases lead_cases files path.start (storedNames path) with
    ⟨place, rest, walked⟩ | ⟨result, _, constant⟩
  · rw [walked files false rfl] at found
    rw [walked files true rfl]
    exact ((walk_eq_iff.mp found).followed rfl noLink).eq_walk
  · rw [constant files false rfl] at found
    rw [constant files true rfl, found]

theorem locate_lost_followed
    {files : FileSystem}
    {path : Path}
    (nowhere : files.locate path false = .error .noEntry) :
    files.locate path true = .error .noEntry := by
  have askable := askable_of_locate_noEntry nowhere
  rw [askable.locate_eq] at nowhere ⊢
  rcases lead_cases files path.start (storedNames path) with
    ⟨place, rest, walked⟩ | ⟨result, _, constant⟩
  · rw [walked files false rfl] at nowhere
    rw [walked files true rfl]
    exact ((walk_eq_iff.mp nowhere).lost_otherwise rfl).eq_walk
  · rw [constant files false rfl] at nowhere
    rw [constant files true rfl, nowhere]

/--
A path that leads where nothing is has no status, whether a link at its end is
followed or not.
-/
theorem status_of_nowhere
    {files : FileSystem}
    {path : Path}
    (nowhere : LeadsNowhere (files.locate path false)) :
    files.status path = .error .noEntry := by
  cases found : files.locate path false with
  | error error =>
      rw [found] at nowhere
      cases error with
      | noEntry => rw [status, locate_lost_followed found]
      | _ => exact nowhere.elim
  | ok spot =>
      obtain ⟨place, entry⟩ := spot
      cases entry with
      | none => rw [status, locate_followed (by simp [NoLink]) found]
      | some entry =>
          rw [found] at nowhere
          exact nowhere.elim

theorem locate_of_status
    {files : FileSystem}
    {path : Path}
    {entry : Entry}
    (held : files.status path = .ok entry) :
    ∃ place, files.locate path true = .ok ⟨place, some entry⟩ := by
  rw [status] at held
  cases found : files.locate path true with
  | error error => simp [found] at held
  | ok spot =>
      obtain ⟨place, found_⟩ := spot
      cases found_ with
      | none => simp [found] at held
      | some there =>
          simp only [found, Except.ok.injEq] at held
          exact ⟨place, by rw [held]⟩

theorem status_of_locate
    {files : FileSystem}
    {path : Path}
    {place : Place}
    {entry : Entry}
    (found : files.locate path true = .ok ⟨place, some entry⟩) :
    files.status path = .ok entry := by
  rw [status, found]

/-- What a path leads to, if it is no directory, does stand there. -/
theorem get?_of_locate
    {files : FileSystem}
    {path : Path}
    {followLast : Bool}
    {spot : Spot}
    (noDirectory : ∀ mode, spot.entry ≠ some (.directory mode))
    (found : files.locate path followLast = .ok spot) :
    files.get? spot.place = spot.entry := by
  rw [(askable_of_locate_ok found).locate_eq] at found
  rcases lead_cases files path.start (storedNames path) with
    ⟨place, rest, walked⟩ | ⟨result, ends, constant⟩
  · rw [walked files followLast rfl] at found
    exact ((walk_eq_iff.mp found).entry_eq rfl).symm
  · rw [constant files followLast rfl] at found
    subst found
    rcases ends with ends | ⟨place, mode, ends⟩
    · cases ends
    · cases ends
      exact absurd rfl (noDirectory mode)

/-! ## Paths from a directory that is there -/

/-- The place from which a path with a start is followed. -/
def Anchored (files : FileSystem) (start : PathStart) (base : Place) : Prop :=
  (start ≠ .relative ∧ base = []) ∨
    (start = .relative ∧ files.workDirectory = .present base)

theorem Anchored.lead
    {files after : FileSystem}
    {start : PathStart}
    {base : Place}
    (anchored : files.Anchored start base)
    (same : after.workDirectory = files.workDirectory)
    (followLast : Bool)
    (names : List Text) :
    after.lead start followLast names =
      after.walk followLast linkLimit base names := by
  rcases anchored with ⟨fromRoot, rfl⟩ | ⟨rfl, present⟩
  · simp [FileSystem.lead, fromRoot]
  · simp [FileSystem.lead, same, present]

theorem Anchored.hasDirectory
    {files : FileSystem}
    {start : PathStart}
    {base : Place}
    (wellFormed : files.WellFormed)
    (anchored : files.Anchored start base) :
    files.HasDirectory base := by
  rcases anchored with ⟨_, rfl⟩ | ⟨_, present⟩
  · exact hasDirectory_root files
  · exact wellFormed.workDirectory base present

theorem Anchored.of_workDirectory
    {before after : FileSystem}
    {start : PathStart}
    {base : Place}
    (anchored : before.Anchored start base)
    (same : after.workDirectory = before.workDirectory) :
    after.Anchored start base := by
  rcases anchored with fromRoot | ⟨relative, present⟩
  · exact Or.inl fromRoot
  · exact Or.inr ⟨relative, same.trans present⟩

/--
The way through a directory goes on from there, also after entries were added.
-/
theorem lead_beyond
    {before : FileSystem}
    {path : Path}
    {followLast : Bool}
    {place base : Place}
    {mode : Nat}
    (found :
      before.locate path followLast = .ok ⟨place, some (.directory mode)⟩)
    (anchored : before.Anchored path.start base) :
    ∃ left, ∀ (after : FileSystem) (followLast : Bool) (rest : List Text),
      Extends before after → rest ≠ [] →
        after.lead path.start followLast (storedNames path ++ rest) =
          after.walk followLast left place rest := by
  rw [(askable_of_locate_ok found).locate_eq, anchored.lead rfl] at found
  obtain ⟨left, onward⟩ := (walk_eq_iff.mp found).append rfl
  refine ⟨left, fun after followLast rest extends_ more => ?_⟩
  rw [anchored.lead extends_.workDirectory,
    onward after followLast rest extends_ more]

/-- A directory to which a path leads from a directory does stand there. -/
theorem hasDirectory_of_locate
    {files : FileSystem}
    {path : Path}
    {followLast : Bool}
    {place base : Place}
    {mode : Nat}
    (found : files.locate path followLast = .ok ⟨place, some (.directory mode)⟩)
    (anchored : files.Anchored path.start base) :
    files.HasDirectory place := by
  rw [(askable_of_locate_ok found).locate_eq, anchored.lead rfl] at found
  exact ⟨mode, ((walk_eq_iff.mp found).entry_eq rfl).symm⟩

/-- A free place to which a path leads is in a directory. -/
theorem parent_of_locate
    {files : FileSystem}
    {path : Path}
    {followLast : Bool}
    {goal base : Place}
    (free : files.locate path followLast = .ok ⟨goal, none⟩)
    (wellFormed : files.WellFormed)
    (anchored : files.Anchored path.start base) :
    ∃ before name, goal = before ++ [name] ∧ files.HasDirectory before := by
  rw [(askable_of_locate_ok free).locate_eq, anchored.lead rfl] at free
  obtain ⟨mode, start⟩ := anchored.hasDirectory wellFormed
  exact (walk_eq_iff.mp free).parent wellFormed ⟨_, start⟩ rfl

/-- A path leads to no link where links at its end are followed. -/
theorem noLink_of_locate
    {files : FileSystem}
    {path : Path}
    {spot : Spot}
    {base : Place}
    (found : files.locate path true = .ok spot)
    (wellFormed : files.WellFormed)
    (anchored : files.Anchored path.start base) :
    NoLink spot.entry := by
  rw [(askable_of_locate_ok found).locate_eq, anchored.lead rfl] at found
  obtain ⟨mode, start⟩ := anchored.hasDirectory wellFormed
  exact (walk_eq_iff.mp found).noLink wellFormed (by simp [NoLink, start]) rfl

end FileSystem

end SettingsStore
