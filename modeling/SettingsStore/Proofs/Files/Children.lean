import SettingsStore.Proofs.Files.Names
import SettingsStore.Proofs.Files.Replacement

/-!
# Files in directories

A path with one more name leads into the directory to which the path leads,
whatever the way there.  So a temporary file whose name no link mentions is not
noticed under another name of that directory, and what replaces a file there is
found under its name again, unless the way to the directory leads through the
very link that was replaced.
-/

namespace SettingsStore

namespace FileSystem

/-- No link mentions a name. -/
def Unmentioned (files : FileSystem) (name : Text) : Prop :=
  ∀ place target, files.get? place = some (.link target) →
    name ∉ (linkNames target).2

/--
The way to a directory leads on without the link that has a name in that
directory.
-/
def ClearOfChild (files : FileSystem) (directory : Path) (name : Text) : Prop :=
  ∀ place mode target,
    files.locate directory true = .ok ⟨place, some (.directory mode)⟩ →
      files.get? (place ++ [name.stored]) = some (.link target) →
        (files.erase (place ++ [name.stored])).isDirectory directory = true

theorem unmentioned_of_entries
    {files : FileSystem}
    {name : Text}
    (links :
      ∀ pair ∈ files.entries, ∀ target, pair.2 = .link target →
        name ∉ (linkNames target).2) :
    files.Unmentioned name := by
  intro place target there
  have below : place ≠ [] := by
    rintro rfl
    rw [get?, if_pos rfl] at there
    cases there
  exact links _ (mem_entries_of_get? below there) target rfl

@[simp]
theorem parent_child
    (directory : Path)
    (name : Text) :
    (directory.child name).parent = directory := by
  simp [Path.child, Path.parent]

theorem isDirectory_iff
    {files : FileSystem}
    {path : Path} :
    files.isDirectory path = true ↔
      ∃ mode, files.status path = .ok (.directory mode) := by
  rw [isDirectory]
  split
  · rename_i mode held
    exact ⟨fun _ => ⟨mode, held⟩, fun _ => rfl⟩
  · rename_i other
    constructor
    · intro impossible
      cases impossible
    · rintro ⟨mode, held⟩
      exact absurd held (other mode)

theorem pathExists_of_isDirectory
    {files : FileSystem}
    {path : Path}
    (there : files.isDirectory path = true) :
    files.pathExists path = true := by
  obtain ⟨mode, held⟩ := isDirectory_iff.mp there
  rw [pathExists, held]
  rfl

/-! ## Following a child -/

section

variable {files : FileSystem} {directory : Path} {place base : Place}
  {mode : Nat}
variable (leads : files.locate directory true =
    .ok ⟨place, some (.directory mode)⟩)
variable (anchored : files.Anchored directory.start base)

include leads anchored

/-- A name of a directory leads to the place of that name in it. -/
theorem locate_child
    {name : Text}
    (plain : Plain name.stored)
    (askable : Askable (directory.child name)) :
    files.locate (directory.child name) false =
      .ok ⟨place ++ [name.stored], files.get? (place ++ [name.stored])⟩ := by
  obtain ⟨left, onward⟩ := lead_beyond leads anchored
  have here := hasDirectory_of_locate leads anchored
  have further :=
    onward files false [name.stored] (Extends.refl files) (by simp)
  rw [askable.locate_eq, Path.child, storedNames_append]
  refine further.trans ?_
  rw [walk_plain here plain]
  cases there : files.get? (place ++ [name.stored]) with
  | none => rfl
  | some entry =>
      cases entry with
      | link target => rfl
      | file content mode => rw [walk_nil, there]
      | directory mode => rw [walk_nil, there]

/--
A temporary file is not noticed under another name that no link of it has.
-/
theorem HoldsTemporary.locate_child
    {temporary : Path}
    {origin : Place}
    {during : FileSystem}
    {name free : Text}
    (holds : HoldsTemporary temporary origin files during)
    (wellFormed : files.WellFormed)
    (last : origin.getLast? = some free)
    (unmentioned : files.Unmentioned free)
    (other : name.stored ≠ free)
    (followLast : Bool) :
    during.locate (directory.child name) followLast =
      files.locate (directory.child name) followLast := by
  by_cases askable : Askable (directory.child name)
  · obtain ⟨left, onward⟩ := lead_beyond leads anchored
    obtain ⟨before, rfl⟩ := List.getLast?_eq_some_iff.mp last
    obtain ⟨held, here⟩ := hasDirectory_of_locate leads anchored
    have known := walks_walk files followLast left place [name.stored]
    have onwards :=
      @Walks.unaffected files during wellFormed before free holds.nothing
      (fun place differs => holds.same.entries place (by simpa using differs))
        unmentioned followLast
      left place [name.stored] _ known ⟨_, here⟩ (by simpa using Ne.symm other)
    rw [askable.locate_eq, askable.locate_eq, Path.child, storedNames_append]
    rw [onward files followLast _ (Extends.refl files) (by simp),
      onward during followLast _ holds.extends_ (by simp)]
    exact onwards.eq_walk
  · obtain ⟨error, _, everywhere⟩ := locate_of_not_askable askable
    rw [everywhere, everywhere]

end

/-- A name that leads anywhere is one of a directory. -/
theorem locate_directory_of_child
    {files : FileSystem}
    {directory : Path}
    {name : Text}
    {followLast : Bool}
    {spot : Spot}
    (located : Askable directory)
    (found : files.locate (directory.child name) followLast = .ok spot) :
    ∃ place mode, files.locate directory true =
      .ok ⟨place, some (.directory mode)⟩ := by
  have begun : ∀ {place : Place} {names : List Text},
      files.walk followLast linkLimit place (names ++ [name].map Text.stored) =
        .ok spot →
        ∃ goal mode, files.walk true linkLimit place names =
          .ok ⟨goal, some (.directory mode)⟩ := by
    intro place names walked
    obtain ⟨goal, mode, walks⟩ :=
      (walk_eq_iff.mp walked).beginning rfl (by simp) rfl
    exact ⟨goal, mode, walks.eq_walk⟩
  rw [(askable_of_locate_ok found).locate_eq, Path.child, storedNames_append]
    at found
  rw [located.locate_eq]
  obtain ⟨start, names⟩ := directory
  by_cases relative : start = .relative
  · subst relative
    cases work : files.workDirectory with
    | present base =>
        have anchored : files.Anchored .relative base := Or.inr ⟨rfl, work⟩
        rw [anchored.lead rfl] at found ⊢
        exact begun found
    | removed gone =>
        simp only [lead, work, ne_eq, not_true_eq_false, if_false] at found ⊢
        cases names with
        | nil => exact ⟨gone, 0o755, rfl⟩
        | cons first rest =>
            simp only [storedNames, List.map_cons, List.cons_append,
              walkRemoved] at found ⊢
            by_cases back : first.stored = ".."
            · rw [if_pos back] at found ⊢
              exact begun found
            · rw [if_neg back] at found
              cases found
  · have anchored : files.Anchored start [] := Or.inl ⟨relative, rfl⟩
    rw [anchored.lead rfl] at found ⊢
    exact begun found

/-! ## Replacing a child -/

/-- No way to a directory leads through a file. -/
theorem locate_without_file
    {before after : FileSystem}
    {path : Path}
    {followLast : Bool}
    {place goal : Place}
    {mode fileMode : Nat}
    {content : ByteArray}
    (file : before.get? goal = some (.file content fileMode))
    (same : SameExcept [goal] before after)
    (leads :
      before.locate path followLast = .ok ⟨place, some (.directory mode)⟩) :
    after.locate path followLast = .ok ⟨place, some (.directory mode)⟩ := by
  have askable := askable_of_locate_ok leads
  rw [askable.locate_eq] at leads ⊢
  rcases lead_cases before path.start (storedNames path) with
    ⟨start, rest, walked⟩ | ⟨result, _, constant⟩
  · rw [walked before followLast rfl] at leads
    rw [walked after followLast same.workDirectory]
    exact ((walk_eq_iff.mp leads).without_file file
      (fun other differs => same.entries other (by simpa using differs))
        rfl).eq_walk
  · rw [constant before followLast rfl] at leads
    rw [constant after followLast same.workDirectory, leads]

/--
Taking an entry away leaves a file system that the one from before extends.
-/
theorem extends_erase
    (files : FileSystem)
    {place : Place}
    (below : place ≠ []) :
    Extends (files.erase place) files := by
  refine ⟨fun other entry found => ?_, rfl⟩
  by_cases here : other = place
  · rw [here, get?_erase_self below] at found
    cases found
  · rw [← (sameExcept_erase files place).entries other (by simpa using here),
      found]

/-- A directory is still found when what was no directory in it is replaced. -/
theorem locate_directory_of_replaced
    {before after : FileSystem}
    {directory : Path}
    {name : Text}
    {place : Place}
    {mode : Nat}
    (leads : before.locate directory true = .ok ⟨place, some (.directory mode)⟩)
    (noDirectory :
      ∀ mode, before.get? (place ++ [name.stored]) ≠ some (.directory mode))
    (clear : before.ClearOfChild directory name)
    (same : SameExcept [place ++ [name.stored]] before after) :
    after.locate directory true = .ok ⟨place, some (.directory mode)⟩ := by
  cases held : before.get? (place ++ [name.stored]) with
  | none => exact locate_extend (same.extends_ held) leads
  | some entry =>
      cases entry with
      | directory mode => exact absurd held (noDirectory mode)
      | file content mode => exact locate_without_file held same leads
      | link target =>
          have below : place ++ [name.stored] ≠ [] := by simp
          obtain ⟨mode, still⟩ :=
            isDirectory_iff.mp (clear place mode target leads held)
          obtain ⟨goal, found⟩ := locate_of_status still
          have again := locate_extend (extends_erase before below) found
          rw [leads] at again
          cases again
          refine @locate_extend (before.erase (place ++ [name.stored])) after
            ⟨fun other entry kept => ?_, same.workDirectory⟩ _ _ _ _ found
          by_cases here : other = place ++ [name.stored]
          · rw [here, get?_erase_self below] at kept
            cases kept
          · rw [same.entries other (by simpa using here)]
            exact (extends_erase before below).kept other entry kept

/-! ## Children of new directories -/

/-- Nothing is found in a directory that is not there. -/
theorem status_child_of_nowhere
    {files : FileSystem}
    {directory : Path}
    {name : Text}
    {base : Place}
    (anchored : files.Anchored directory.start base)
    (located : Askable directory)
    (askable : Askable (directory.child name))
    (nowhere : LeadsNowhere (files.locate directory false)) :
    files.status (directory.child name) = .error .noEntry := by
  refine status_of_nowhere ?_
  rw [located.locate_eq, anchored.lead rfl] at nowhere
  rw [askable.locate_eq, Path.child, storedNames_append, anchored.lead rfl]
  have walks := walks_walk files false linkLimit base (storedNames directory)
  have further :=
    @Walks.append_eq_noEntry _ _ _ _ _ _ walks nowhere false
      ([name].map Text.stored) (by simp)
  rw [further.eq_walk]
  trivial

/-- A name of a directory that was made anew leads nowhere, as it did before. -/
theorem MadeAnew.status_child
    {directory : Path}
    {name : Text}
    {before after : FileSystem}
    {place base : Place}
    (anew : MadeAnew directory before after place)
    (same : after.workDirectory = before.workDirectory)
    (anchored : before.Anchored directory.start base)
    (plain : Plain name.stored) :
    after.status (directory.child name) =
      before.status (directory.child name) := by
  obtain ⟨mode, leads⟩ := anew.leads
  by_cases askable : Askable (directory.child name)
  · rw [status_child_of_nowhere anchored
        (askable_of_locate_ok leads) askable anew.absent]
    refine status_of_nowhere ?_
    rw [locate_child leads (anchored.of_workDirectory same) plain askable,
      anew.empty]
    trivial
  · obtain ⟨error, _, everywhere⟩ := locate_of_not_askable askable
    rw [status, status, everywhere, everywhere]

theorem MadeAnew.clearOfChild
    {directory : Path}
    {before after : FileSystem}
    {place : Place}
    (anew : MadeAnew directory before after place)
    (name : Text) :
    after.ClearOfChild directory name := by
  intro other mode target found there
  obtain ⟨_, leads⟩ := anew.leads
  rw [leads] at found
  cases found
  rw [anew.empty] at there
  cases there

end FileSystem

end SettingsStore
