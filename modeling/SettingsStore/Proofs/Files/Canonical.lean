import SettingsStore.Proofs.Files.Overwriting
import SettingsStore.Proofs.Files.Resolving

/-!
# Canonical paths after a change

A canonical path has no links in it, so where it is led on, new directories are
not noticed: what it names is a link afterwards only if it was one before.  Nor
is it noticed what file stands at a place, or whether one does.  So the absolute
path of a path stays the same when directories are added, unless they complete a
loop at its end, and when a file is put where a file or nothing was.
-/

namespace SettingsStore

namespace FileSystem

/-! ## Walks among new directories -/

/-- The links of a file system were there before. -/
def NoNewLink (before after : FileSystem) : Prop :=
  ∀ place target, after.get? place = some (.link target) →
    before.get? place = some (.link target)

/-- A walk by a name that comes somewhere starts in a directory. -/
theorem Walks.hasDirectory
    {files : FileSystem}
    {followLast : Bool}
    {links : Nat}
    {place : Place}
    {names : List Text}
    {spot : Spot}
    (walks : Walks files followLast links place names (.ok spot))
    (more : names ≠ []) :
    files.HasDirectory place := by
  cases walks with
  | arrived => exact absurd rfl more
  | stay here | back here | absent here | linkItself here | through here
  | enter here =>
      exact here

/--
A walk down to a link that does not come through others has gone the same way
before: whatever stands above the link was there with it.
-/
theorem Walks.before
    {before after : FileSystem}
    {links : Nat}
    {place goal : Place}
    {names : List Text}
    {target : Text}
    {result : Except FileError Spot}
    (walks : Walks after false links place names result)
    (found : result = .ok ⟨goal, some (.link target)⟩)
    (wellFormed : before.WellFormed)
    (noNewLink : NoNewLink before after)
    (down : ∀ name ∈ names, name ≠ "." ∧ name ≠ "..")
    (unlinked :
      ∀ first rest, names = first ++ rest → first ≠ [] → rest ≠ [] →
        ∀ goal target,
        before.walk false links place first ≠ .ok ⟨goal, some (.link target)⟩) :
    Walks before false links place names result := by
  induction walks with
  | @arrived links place =>
      simp only [Except.ok.injEq, Spot.mk.injEq] at found
      rw [found.2, ← noNewLink place target found.2]
      exact .arrived
  | stay => exact absurd rfl (down "." List.mem_cons_self).1
  | back => exact absurd rfl (down ".." List.mem_cons_self).2
  | linkItself here plain there leave =>
      have old := noNewLink _ _ there
      exact .linkItself (wellFormed.parents _ _ _ old) plain old leave
  | @through links _ _ _ _ _ here plain there follow =>
      have old := noNewLink _ _ there
      have more := follow.resolve_right Bool.false_ne_true
      have link :=
        @Walks.linkItself before false (links + 1) _ _ _
          (wellFormed.parents _ _ _ old) plain old rfl
      exact absurd link.eq_walk (unlinked [_] _ rfl (by simp) more _ _)
  | @enter links place name rest entry result here plain there noLink further
    induction =>
      subst found
      by_cases last : rest = []
      · subst last
        have arrived := further.eq_walk
        rw [walk_nil, there] at arrived
        cases arrived
        exact absurd rfl (noLink target)
      · have enters :
            before.HasDirectory (place ++ [name]) →
              ∀ {result : Except FileError Spot} {names : List Text},
            Walks before false links (place ++ [name]) names result →
              Walks before false links place (name :: names) result := by
          rintro ⟨mode, below⟩ _ _ walks
          exact .enter (wellFormed.parents _ _ _ below) plain below
            (by simp [NoLink]) walks
        have earlier :
            Walks before false links (place ++ [name]) rest
              (.ok ⟨goal, some (.link target)⟩) := by
          refine induction rfl (List.forall_mem_of_forall_mem_cons down) ?_
          intro first others parts some more other link came
          have walks := walk_eq_iff.mp came
          have through := enters (walks.hasDirectory some) walks
          exact unlinked (name :: first) others (by rw [parts]; rfl)
            (by simp) more _ _ through.eq_walk
        exact enters (earlier.hasDirectory last) earlier
  | missing | blocked | long | absent | lost | loop => cases found

/-- A walk that runs out of links still does when entries are added. -/
theorem Walks.extend_loop
    {before after : FileSystem}
    {followLast : Bool}
    {links : Nat}
    {place : Place}
    {names : List Text}
    {result : Except FileError Spot}
    (walks : Walks before followLast links place names result)
    (looped : result = .error .linkLoop)
    (extends_ : Extends before after) :
    Walks after followLast links place names result := by
  induction walks with
  | stay here _ induction =>
      exact .stay (extends_.hasDirectory here) (induction looped)
  | back here _ induction =>
      exact .back (extends_.hasDirectory here) (induction looped)
  | loop here plain there follow =>
      exact .loop (extends_.hasDirectory here) plain
        (extends_.kept _ _ there) follow
  | through here plain there follow _ induction =>
      exact .through (extends_.hasDirectory here) plain
        (extends_.kept _ _ there) follow (induction looped)
  | enter here plain there noLink _ induction =>
      exact .enter (extends_.hasDirectory here) plain
        (extends_.kept _ _ there) noLink (induction looped)
  | arrived | missing | blocked | long | absent | lost | linkItself =>
      cases looped

theorem locate_extend_loop
    {before after : FileSystem}
    (extends_ : Extends before after)
    {path : Path}
    {followLast : Bool}
    (looped : before.locate path followLast = .error .linkLoop) :
    after.locate path followLast = .error .linkLoop := by
  by_cases askable : Askable path
  · rw [askable.locate_eq] at looped ⊢
    rcases lead_cases before path.start (storedNames path) with
      ⟨place, rest, walks⟩ | ⟨result, known, fixed⟩
    · rw [walks before followLast rfl] at looped
      rw [walks after followLast extends_.workDirectory]
      exact ((walk_eq_iff.mp looped).extend_loop rfl extends_).eq_walk
    · rw [fixed before followLast rfl] at looped
      rcases known with known | ⟨_, _, known⟩ <;> cases known.symm.trans looped
  · obtain ⟨error, why, refused⟩ := locate_of_not_askable askable
    rw [refused] at looped
    rcases why with rfl | ⟨_, _, rfl⟩ <;> cases looped

/-! ## Canonical paths among new directories -/

/--
Names that lead back from the start of a canonical path, and the place to which
they lead.
-/
inductive Based
    (files : FileSystem) :
    PathStart → List Text → Place → Prop where
  | root : Based files .root [] []
  | here {place : Place}
      (present : files.workDirectory = .present place) :
      Based files .relative [] place
  /-- From a work directory that was taken away the only way leads back. -/
  | out {place : Place}
      (removed : files.workDirectory = .removed place) :
      Based files .relative [".."] place.dropLast
  | back {ups : List Text} {place : Place}
      (based : Based files .relative ups place) :
      Based files .relative (ups ++ [Text.ofString ".."]) place.dropLast

/--
A path that goes back from its start and then down, without a link on the way,
or that leads nowhere.
-/
inductive Straight (files : FileSystem) : Path → Prop where
  | down {start : PathStart} {ups downs : List Text} {place : Place}
      (based : Based files start ups place)
      (asked : ∀ name ∈ downs, Asked name)
      (unlinked :
        ∀ first rest, downs = first ++ rest → first ≠ [] → ∀ target,
          files.linkAt ⟨start, ups ++ first⟩ ≠ .ok (some target)) :
      Straight files ⟨start, ups ++ downs⟩
  | lost {place : Place} {names : List Text}
      (removed : files.workDirectory = .removed place)
      (noWay : names.head? ≠ some "..") :
      Straight files ⟨.relative, names⟩

/-- Above a work directory that was taken away there is still a directory. -/
def LeftAbove (files : FileSystem) : Prop :=
  ∀ place, files.workDirectory = .removed place →
    files.HasDirectory place.dropLast

theorem Asked.stored
    {name : Text}
    (asked : Asked name) :
    name.stored ≠ "." ∧ name.stored ≠ ".." :=
  ⟨fun here => asked.notHere
      (Text.eq_of_stored_dots (by simp [Text.ofString]) here),
    fun back => asked.notBack (Text.eq_back_of_stored back)⟩

namespace Based

variable {files : FileSystem} {start : PathStart} {ups : List Text}
  {place : Place}

theorem hasDirectory
    (based : Based files start ups place)
    (wellFormed : files.WellFormed)
    (leftAbove : start = .relative → files.LeftAbove) :
    files.HasDirectory place := by
  induction based with
  | root => exact hasDirectory_root files
  | here present => exact wellFormed.workDirectory _ present
  | out removed => exact leftAbove rfl _ removed
  | back _ induction => exact wellFormed.dropLast (induction leftAbove)

/--
What follows the names that lead back is a walk from the place to which they
lead, also among new entries.
-/
theorem lead
    {after : FileSystem}
    (based : Based files start ups place)
    (wellFormed : files.WellFormed)
    (leftAbove : start = .relative → files.LeftAbove)
    (extends_ : Extends files after)
    (followLast : Bool)
    (names : List Text) :
    after.lead start followLast (ups.map Text.stored ++ names) =
      after.walk followLast linkLimit place names := by
  have up : Text.stored ".." = (".." : Text) := Text.stored_ofString ".."
  induction based generalizing names with
  | root => rfl
  | here present => simp [FileSystem.lead, extends_.workDirectory, present]
  | out removed =>
      simp [FileSystem.lead, extends_.workDirectory, removed, walkRemoved, up]
  | @back ups place based induction =>
      have here :=
        extends_.hasDirectory (based.hasDirectory wellFormed leftAbove)
      have further :=
        Walks.back here
          (walks_walk after followLast linkLimit place.dropLast names)
      rw [List.map_append, List.append_assoc, induction leftAbove,
        List.map_singleton, up, List.singleton_append]
      exact further.eq_walk

end Based

/-! ## Canonical paths are straight -/

/--
Why the system could not be asked about a path has nothing to do with the files.
-/
theorem linkAt_of_locate
    {files : FileSystem}
    {path : Path}
    {place : Place}
    {target : Text}
    (found : files.locate path false = .ok ⟨place, some (.link target)⟩) :
    files.linkAt path = .ok (some target) := by
  rw [linkAt, linkTarget?, found]

namespace Straight

variable {files : FileSystem} {path : Path}

theorem root : Straight files ⟨.root, []⟩ := by
  have nothing :
      ∀ first rest : List Text, [] = first ++ rest → first ≠ [] → ∀ target,
      files.linkAt ⟨.root, [] ++ first⟩ ≠ .ok (some target) :=
    fun first rest parts some =>
      absurd (List.append_eq_nil_iff.mp parts.symm).1 some
  exact .down .root (fun _ none => absurd none List.not_mem_nil) nothing

/-- Names that lead back are a straight path. -/
theorem of_based
    {start : PathStart}
    {ups : List Text}
    {place : Place}
    (based : Based files start ups place) :
    Straight files ⟨start, ups⟩ := by
  have straight : Straight files ⟨start, ups ++ []⟩ :=
    .down based (fun _ none => absurd none List.not_mem_nil)
      fun first rest parts some =>
        absurd (List.append_eq_nil_iff.mp parts.symm).1 some
  rwa [List.append_nil] at straight

theorem canonicalStart
    (files : FileSystem)
    (path : Path) :
    Straight files (canonicalStart path) := by
  rw [FileSystem.canonicalStart]
  split
  · exact root
  · cases work : files.workDirectory with
    | present place => exact of_based (.here work)
    | removed place => exact .lost work (by simp)

theorem child
    {name : Text}
    (straight : Straight files path)
    (asked : Asked name)
    (noLink : files.linkAt (path.child name) = .ok none) :
    Straight files (path.child name) := by
  cases straight with
  | @down start ups downs place based askedDowns unlinked =>
      rw [Path.child, List.append_assoc] at noLink ⊢
      refine .down based (List.forall_mem_append.mpr
          ⟨askedDowns, List.forall_mem_singleton.mpr asked⟩) ?_
      intro first rest parts some target
      rcases List.eq_nil_or_concat rest with rfl | ⟨init, last, rfl⟩
      · rw [List.append_nil] at parts
        rw [← parts, noLink]
        simp
      · rw [List.concat_eq_append, ← List.append_assoc] at parts
        exact unlinked first init (List.append_inj' parts rfl).1 some target
  | @lost place names removed noWay =>
      refine .lost removed ?_
      cases names with
      | nil => simpa using asked.notBack
      | cons first names => exact noWay

/--
Names that lead back are led back from by one name more, except at the root.
-/
theorem ascend_of_based
    {start : PathStart}
    {ups : List Text}
    {place : Place}
    (based : Based files start ups place) :
    Straight files (Path.ascend ⟨start, ups⟩) := by
  rw [Path.ascend]
  cases based with
  | root => exact root
  | here present => exact of_based (.back (.here present))
  | out removed => exact of_based (.back (.out removed))
  | back based =>
      rw [List.getLast?_concat]
      dsimp only
      rw [if_pos rfl]
      exact of_based (.back (.back based))

theorem ascend
    (straight : Straight files path) :
    Straight files path.ascend := by
  cases straight with
  | @down start ups downs place based asked unlinked =>
      rcases List.eq_nil_or_concat downs with rfl | ⟨init, last, rfl⟩
      · rw [List.append_nil]
        exact ascend_of_based based
      · rw [List.concat_eq_append] at asked unlinked ⊢
        have notBack := (asked last (by simp)).notBack
        rw [Path.ascend]
        dsimp only
        rw [← List.append_assoc, List.getLast?_concat]
        dsimp only
        rw [if_neg notBack, Path.parent]
        dsimp only
        rw [List.dropLast_concat]
        refine .down based (fun name member =>
            asked name (List.mem_append_left _ member)) ?_
        intro first rest parts some target
        exact unlinked first (rest ++ [last])
          (by rw [parts, List.append_assoc]) some target
  | @lost place names removed noWay =>
      rw [Path.ascend]
      cases names with
      | nil => exact of_based (.out removed)
      | cons first names =>
          rcases List.eq_nil_or_concat names with rfl | ⟨init, last, rfl⟩
          · have other : first ≠ ".." := fun back => noWay (by rw [back]; rfl)
            dsimp only [List.getLast?_singleton]
            rw [if_neg other]
            exact .lost removed (by simp)
          · rw [List.concat_eq_append, ← List.cons_append, List.getLast?_concat]
            dsimp only
            split
            · exact .lost removed noWay
            · rw [Path.parent]
              dsimp only
              rw [List.dropLast_concat]
              exact .lost removed noWay

theorem kept (files : FileSystem) :
    Kept files (fun _ => True) (Straight files) (fun _ => True) where
  root := root
  ascend _ := ascend
  child _ _ straight _ asked noLink := straight.child asked noLink
  link _ _ _ _ _ := trivial
  start _ _ _ _ _ _ := trivial
  written _ _ _ _ := trivial
  base _ _ _ _ := trivial

/-- Going on and going back keep the start of a path, or lead to the root. -/
theorem kept_upheld (files : FileSystem) :
    Kept files (fun _ => True) (fun path => Straight files path ∧
      (path.start = .relative → files.LeftAbove))
        (fun _ => True) where
  root := ⟨root, nofun⟩
  ascend path upheld :=
    ⟨upheld.1.ascend, fun relative => upheld.2 (path.start_ascend ▸ relative)⟩
  child _ _ upheld _ asked noLink := ⟨upheld.1.child asked noLink, upheld.2⟩
  link _ _ _ _ _ := trivial
  start _ _ _ _ _ _ := trivial
  written _ _ _ _ := trivial
  base _ _ _ _ := trivial

end Straight

/-! ## Answers that depend on loops -/

theorem status_eq_loop_iff
    {files : FileSystem}
    {path : Path} :
    files.status path = .error .linkLoop ↔
      files.locate path true = .error .linkLoop := by
  rw [status]
  rcases files.locate path true with _ | ⟨_, _ | _⟩ <;> simp

/--
The canonical path is the same where names are led on alike and a loop is found
at the end if it was before.
-/
theorem resolve_alike
    {before after : FileSystem}
    {path : Path}
    (led :
      after.resolveWithin resolveLevels (canonicalStart path) path.names [] =
        before.resolveWithin resolveLevels (canonicalStart path) path.names [])
    (workDirectory : after.workDirectory = before.workDirectory)
    (loops :
      ∀ found, before.status found = .error .linkLoop →
        after.status found = .error .linkLoop)
    (noLoop :
      ∀ found, before.resolve path = .ok found →
        after.status found ≠ .error .linkLoop) :
    after.resolve path = before.resolve path := by
  have sameRoot : ∀ path, after.fromRoot? path = before.fromRoot? path :=
    fun path => by
    rw [fromRoot?, fromRoot?, workDirectory]
  have sameName : ∀ {found : Path} {cause : NameError},
      after.status found = .error (.name cause) ↔
        before.status found = .error (.name cause) :=
    status_eq_name_iff.trans status_eq_name_iff.symm
  have resolved := resolve_eq before path
  rw [resolve_eq after, led]
  rw [resolved] at noLoop ⊢
  generalize before.resolveWithin resolveLevels
    (canonicalStart path) path.names [] = reached at noLoop ⊢
  cases reached with
  | error => rfl
  | ok reached =>
      dsimp only at noLoop ⊢
      rw [sameRoot]
      generalize before.fromRoot? reached.path = root at noLoop ⊢
      cases root with
      | none => rfl
      | some whole =>
          dsimp only at noLoop ⊢
          split at noLoop
          · rename_i looped
            rw [loops _ looped]
          · rename_i cause refused
            rw [sameName.mpr refused]
          · rename_i noLoopBefore noName
            have still := noLoop _ rfl
            split
            · rename_i looped
              exact absurd looped still
            · rename_i cause refused
              exact absurd (sameName.mp refused) (noName cause)
            · rfl

/-- No loop is found at the end of a canonical path. -/
theorem status_of_resolve
    {files : FileSystem}
    {path found : Path}
    (resolved : files.resolve path = .ok found) :
    files.status found ≠ .error .linkLoop := by
  rw [resolve_eq] at resolved
  split at resolved
  · cases resolved
  · split at resolved
    · cases resolved
    · split at resolved
      · cases resolved
      · cases resolved
      · rename_i noLoop _
        cases resolved
        exact noLoop

/-- A path is made absolute alike where it has the same canonical path. -/
theorem absolutePath_congr
    {before after : FileSystem}
    {path : Path}
    (workDirectory : after.workDirectory = before.workDirectory)
    (resolved : after.resolve path = before.resolve path) :
    after.absolutePath path = before.absolutePath path := by
  rw [absolutePath, absolutePath, resolved, fromRoot?, fromRoot?, workDirectory]

/-! ## Paths from nowhere -/

/-- As long as it meets no link, a relative path is led to relative paths. -/
theorem Resolves.relative
    {files : FileSystem}
    {levels : Nat}
    {path : Path}
    {names : List Text}
    {met : LinksMet}
    {result : Except PathError Resolution}
    (resolves : Resolves files levels path names met result)
    (noLink :
      ∀ (path : Path) (name target : Text), path.start = .relative →
        Asked name →
        files.linkAt (path.child name) ≠ .ok (some target))
    (relative : path.start = .relative)
    {reached : Resolution}
    (came : result = .ok reached) :
    reached.path.start = .relative := by
  induction resolves with
  | arrived =>
      cases came
      exact relative
  | stay _ _ induction => exact induction relative came
  | back _ induction =>
      exact induction ((Path.start_ascend _).trans relative) came
  | refused => cases came
  | enter _ _ _ induction => exact induction relative came
  | known asked link | again asked link | deep asked link | failed asked link
  | halted asked link
  | replaced asked link =>
      exact absurd link (noLink _ _ _ relative asked)

/--
No relative path has a canonical path once the work directory is gone and the
directory above it too.
-/
theorem resolve_of_nothing_above
    {files : FileSystem}
    {place : Place}
    {path : Path}
    (removed : files.workDirectory = .removed place)
    (nothing : ¬ files.HasDirectory place.dropLast)
    (relative : path.isAbsolute = false)
    (found : Path) :
    files.resolve path ≠ .ok found := by
  have noLink :
      ∀ (path : Path) (name target : Text), path.start = .relative →
        Asked name →
      files.linkAt (path.child name) ≠ .ok (some target) := by
    intro path name target relative asked link
    obtain ⟨goal, found⟩ := linkAt_eq_some link
    rw [(askable_of_locate_ok found).locate_eq] at found
    have lead :
        files.walkRemoved false place (storedNames path ++ [name.stored]) =
        .ok ⟨goal, some (.link target)⟩ := by
      simpa [FileSystem.lead, Path.child, storedNames, relative, removed]
        using found
    cases names : storedNames path with
    | nil =>
        rw [names, List.nil_append, walkRemoved, if_neg asked.stored.2] at lead
        cases lead
    | cons first rest =>
        rw [names, List.cons_append, walkRemoved] at lead
        split at lead
        · exact nothing ((walk_eq_iff.mp lead).hasDirectory (by simp))
        · cases lead
  intro resolved
  have start : (canonicalStart path).start = .relative := by
    rw [FileSystem.canonicalStart, relative]
    rfl
  rw [resolve_eq] at resolved
  split at resolved
  · cases resolved
  · rename_i reached came
    have led :=
      resolves_resolveWithin files resolveLevels
        (canonicalStart path) path.names []
    have from_ : files.fromRoot? reached.path = none := by
      rw [fromRoot?, Path.isAbsolute, led.relative noLink start came, removed]
      rfl
    rw [from_] at resolved
    cases resolved

theorem leftAbove_of_resolve
    {files : FileSystem}
    {path found : Path}
    (resolved : files.resolve path = .ok found)
    (relative : path.isAbsolute = false) :
    files.LeftAbove := by
  intro place removed
  by_contra nothing
  exact resolve_of_nothing_above removed nothing relative found resolved

/-! ## Directories that were added -/

/-- Nothing but directories was added. -/
structure OnlyDirectories
    (before after : FileSystem) :
    Prop extends Extends before after where
  added :
    ∀ place entry, before.get? place = none → after.get? place = some entry →
      ∃ mode, entry = .directory mode

/-- Making the directories on the way to a path adds nothing but directories. -/
theorem GrownTowards.onlyDirectories
    {path : Path}
    {before after : FileSystem}
    (grown : GrownTowards path before after) :
    OnlyDirectories before after :=
  ⟨grown.toExtends, fun place entry nothing there =>
      ⟨_, (grown.added place entry nothing there).1⟩⟩

theorem OnlyDirectories.noNewLink
    {before after : FileSystem}
    (only : OnlyDirectories before after) :
    NoNewLink before after := by
  intro place target link
  cases held : before.get? place with
  | none =>
      obtain ⟨mode, same⟩ := only.added place _ held link
      cases same
  | some entry =>
      rw [only.kept place entry held] at link
      exact link

section

variable {before after : FileSystem}
variable (wellFormed : before.WellFormed)
variable (only : OnlyDirectories before after)

include wellFormed only

/-- A name that is a link after a straight path was one before. -/
theorem Straight.locate_before
    {path : Path}
    {name target : Text}
    {goal : Place}
    (straight : Straight before path)
    (leftAbove : path.start = .relative → before.LeftAbove)
    (asked : Asked name)
    (link :
      after.locate (path.child name) false = .ok ⟨goal, some (.link target)⟩) :
    before.locate (path.child name) false =
      .ok ⟨goal, some (.link target)⟩ := by
  have askable := askable_of_locate_ok link
  cases straight with
  | @down start ups downs place based askedDowns unlinked =>
      have led :
          ∀ {files : FileSystem} {names : List Text}, Extends before files →
          Askable ⟨start, ups ++ names⟩ →
            files.locate ⟨start, ups ++ names⟩ false =
              files.walk false linkLimit place (names.map Text.stored) := by
        intro files names extends_ askable
        rw [askable.locate_eq, storedNames_append]
        exact based.lead wellFormed leftAbove extends_ false _
      rw [Path.child, List.append_assoc] at askable link ⊢
      rw [led only.toExtends askable] at link
      rw [led (Extends.refl before) askable]
      refine ((walk_eq_iff.mp link).before rfl wellFormed only.noNewLink
          ?_ ?_).eq_walk
      · intro name member
        obtain ⟨spoken, inside, rfl⟩ := List.mem_map.mp member
        rcases List.mem_append.mp inside with inside | inside
        · exact (askedDowns spoken inside).stored
        · rw [List.mem_singleton.mp inside]
          exact asked.stored
      · intro first rest parts some more other found came
        obtain ⟨above, below, names, rfl, rfl⟩ :=
          List.map_eq_append_iff.mp parts
        have further : below ≠ [] := fun none => more (by rw [none]; rfl)
        obtain ⟨init, last, rfl⟩ :=
          (List.eq_nil_or_concat below).resolve_left further
        rw [List.concat_eq_append, ← List.append_assoc] at names
        have known : downs = above ++ init := (List.append_inj' names rfl).1
        have beginning : Askable ⟨start, ups ++ above⟩ := by
          have whole : Askable ⟨start, (ups ++ above) ++ (init ++ [name])⟩ := by
            simpa [known] using askable
          exact whole.of_append
        rw [← led (Extends.refl before) beginning] at came
        refine unlinked above init known ?_ found (linkAt_of_locate came)
        rintro rfl
        exact some rfl
  | @lost place names removed noWay =>
      have astray :
          ∃ first rest, names ++ [name] = first :: rest ∧ first ≠ ".." := by
        cases names with
        | nil => exact ⟨name, [], rfl, asked.notBack⟩
        | cons first rest =>
            exact ⟨first, rest ++ [name], rfl,
              fun back => noWay (by rw [back]; rfl)⟩
      obtain ⟨first, rest, parts, other⟩ := astray
      have away : first.stored ≠ ".." :=
        fun back => other (Text.eq_back_of_stored back)
      rw [Path.child, parts] at askable link
      rw [askable.locate_eq] at link
      simp [lead, only.workDirectory, removed, storedNames, walkRemoved, away]
        at link

/-- What a straight path names is asked with the same answer. -/
theorem Straight.linkAt_eq
    {path : Path}
    {name : Text}
    (straight : Straight before path)
    (leftAbove : path.start = .relative → before.LeftAbove)
    (asked : Asked name) :
    after.linkAt (path.child name) = before.linkAt (path.child name) := by
  cases link : before.linkAt (path.child name) with
  | error cause => exact linkAt_eq_error_iff.mpr (linkAt_eq_error_iff.mp link)
  | ok found =>
      cases found with
      | some target =>
          obtain ⟨place, found⟩ := linkAt_eq_some link
          exact linkAt_of_locate (locate_extend only.toExtends found)
      | none =>
          cases linkAfter : after.linkAt (path.child name) with
          | error cause =>
              rw [linkAt_eq_error_iff.mpr (linkAt_eq_error_iff.mp linkAfter)]
                at link
              cases link
          | ok found =>
              cases found with
              | none => rfl
              | some target =>
                  obtain ⟨place, found⟩ := linkAt_eq_some linkAfter
                  have earlier :=
                    straight.locate_before wellFormed only leftAbove asked found
                  rw [linkAt_of_locate earlier] at link
                  cases link

theorem resolveWithin_onlyDirectories
    (levels : Nat)
    (path : Path)
    (leftAbove : path.isAbsolute = false → before.LeftAbove) :
    after.resolveWithin levels (canonicalStart path) path.names [] =
      before.resolveWithin levels (canonicalStart path) path.names [] := by
  have start : (canonicalStart path).start = .relative → before.LeftAbove := by
    rw [FileSystem.canonicalStart]
    split
    · intro relative
      cases relative
    · rename_i relative
      exact fun _ => leftAbove (Bool.eq_false_iff.mpr relative)
  exact ((resolves_resolveWithin before levels
      (canonicalStart path) path.names []).alike
      (Straight.kept_upheld before)
        (fun _ _ upheld asked _ =>
          upheld.1.linkAt_eq wellFormed only upheld.2 asked)
      ⟨Straight.canonicalStart before path, start⟩
        (fun _ _ none => absurd none List.not_mem_nil)
      (fun _ _ => trivial)).eq_resolveWithin

/--
A canonical path stays what it is among new directories, unless they complete a
loop.
-/
theorem resolve_onlyDirectories
    {path : Path}
    (leftAbove : path.isAbsolute = false → before.LeftAbove)
    (noLoop :
      ∀ found, before.resolve path = .ok found →
        after.status found ≠ .error .linkLoop) :
    after.resolve path = before.resolve path := by
  refine resolve_alike
    (resolveWithin_onlyDirectories wellFormed only _ path leftAbove)
    only.workDirectory ?_ noLoop
  intro found looped
  rw [status_eq_loop_iff] at looped ⊢
  exact locate_extend_loop only.toExtends looped

end

/-! ## A file in the place of a file or of nothing -/

/-- A file stands at a place, or nothing. -/
def FreeOfLinks (files : FileSystem) (place : Place) : Prop :=
  ∀ entry, files.get? place = some entry →
    ∃ content mode, entry = .file content mode

/-- A walk ends at a place where its names end, and fails where they go on. -/
inductive Halts
    (goal : Place)
    (held : Option Entry) :
    List Text → Except FileError Spot → Prop where
  | ended : Halts goal held [] (.ok ⟨goal, held⟩)
  | cut {name : Text} {rest : List Text} {error : FileError}
      (among : error ∈ [FileError.noEntry, .notDirectory]) :
      Halts goal held (name :: rest) (.error error)

/--
How walks differ where a file or nothing stands at a place instead of another
file or nothing.
-/
inductive Differs
    (goal : Place) :
    Except FileError Spot → Except FileError Spot → Prop where
  | alike (result : Except FileError Spot) : Differs goal result result
  | ended {old new : Option Entry}
      (noLink : NoLink old)
      (noLinkNew : NoLink new) :
      Differs goal (.ok ⟨goal, old⟩) (.ok ⟨goal, new⟩)
  | cut {error other : FileError}
      (among : error ∈ [FileError.noEntry, .notDirectory])
      (amongOthers : other ∈ [FileError.noEntry, .notDirectory]) :
      Differs goal (.error error) (.error other)

theorem Halts.differs
    {goal : Place}
    {old new : Option Entry}
    {names : List Text}
    {result other : Except FileError Spot}
    (halts : Halts goal old names result)
    (haltsToo : Halts goal new names other)
    (noLink : NoLink old)
    (noLinkNew : NoLink new) :
    Differs goal result other := by
  cases halts with
  | ended =>
      cases haltsToo with
      | ended => exact .ended noLink noLinkNew
  | cut among =>
      cases haltsToo with
      | cut amongOthers => exact .cut among amongOthers

namespace FreeOfLinks

variable {files : FileSystem} {place : Place}

theorem noLink
    (free : FreeOfLinks files place) :
    NoLink (files.get? place) := by
  intro target link
  obtain ⟨content, mode, same⟩ := free _ link
  cases same

/-- A walk on from there ends where it starts or does not start at all. -/
theorem walk
    (free : FreeOfLinks files place)
    (followLast : Bool)
    (links : Nat)
    (names : List Text) :
    Halts place (files.get? place) names
      (files.walk followLast links place names) := by
  cases names with
  | nil =>
      rw [walk_nil]
      exact .ended
  | cons name rest =>
      cases held : files.get? place with
      | none =>
          rw [(Walks.missing held).eq_walk]
          exact .cut (by simp)
      | some entry =>
          obtain ⟨content, mode, rfl⟩ := free entry held
          rw [(Walks.blocked held (by simp)).eq_walk]
          exact .cut (by simp)

/-- A walk that comes there ends there or fails. -/
theorem walk_comes
    {directory : Place}
    {name : Text}
    (free : FreeOfLinks files (directory ++ [name]))
    (here : files.HasDirectory directory)
    (plain : Plain name)
    (followLast : Bool)
    (links : Nat)
    (rest : List Text) :
    Halts (directory ++ [name]) (files.get? (directory ++ [name])) rest
      (files.walk followLast links directory (name :: rest)) := by
  cases held : files.get? (directory ++ [name]) with
  | none =>
      cases rest with
      | nil =>
          rw [(Walks.absent here plain held).eq_walk]
          exact .ended
      | cons next rest =>
          rw [(Walks.lost here plain held (by simp)).eq_walk]
          exact .cut (by simp)
  | some entry =>
      have noLink : NoLink (some entry) := held ▸ free.noLink
      have enters := Walks.enter here plain held noLink
        (walks_walk files followLast links (directory ++ [name]) rest)
      rw [enters.eq_walk, ← held]
      exact free.walk followLast links rest

end FreeOfLinks

section

variable {before after : FileSystem} {directory : Place} {name : Text}
variable (same : SameExcept [directory ++ [name]] before after)
variable (free : FreeOfLinks before (directory ++ [name]))
variable (freeAfter : FreeOfLinks after (directory ++ [name]))

include same free freeAfter

/-- What paths lead to differs at the place alone and behind it. -/
theorem locate_differs
    (path : Path)
    (followLast : Bool) :
    Differs (directory ++ [name]) (before.locate path followLast)
      (after.locate path followLast) := by
  have elsewhere :
      ∀ place, place ≠ directory ++ [name] →
        after.get? place = before.get? place :=
    fun place other => same.entries place (by simpa using other)
  refine locate_apart elsewhere .alike ?_ ?_ same.workDirectory path
  · intro here plain links rest
    have hereAfter : after.HasDirectory directory := by
      obtain ⟨mode, held⟩ := here
      exact ⟨mode, (elsewhere directory (by simp)).trans held⟩
    exact (free.walk_comes here plain followLast links rest).differs
      (freeAfter.walk_comes hereAfter plain followLast links rest) free.noLink
        freeAfter.noLink
  · intro links names
    exact (free.walk followLast links names).differs
      (freeAfter.walk followLast links names) free.noLink
      freeAfter.noLink

/-- No loop is found at the end of a path, nor one missed. -/
theorem status_differs (path : Path) :
    after.status path = .error .linkLoop ↔
      before.status path = .error .linkLoop := by
  have differs := locate_differs same free freeAfter path true
  rw [status_eq_loop_iff, status_eq_loop_iff]
  generalize before.locate path true = old at differs
  generalize after.locate path true = new at differs
  cases differs with
  | alike => exact Iff.rfl
  | ended => exact ⟨nofun, nofun⟩
  | cut among amongOthers =>
      constructor
      · rintro ⟨⟩
        simp at amongOthers
      · rintro ⟨⟩
        simp at among

theorem linkAt_differs
    (path : Path) :
    after.linkAt path = before.linkAt path := by
  have differs := locate_differs same free freeAfter path false
  rw [linkAt, linkAt, linkTarget?, linkTarget?]
  generalize before.locate path false = old at differs
  generalize after.locate path false = new at differs
  cases differs with
  | alike => rfl
  | @ended old new noLink noLinkNew =>
      rcases old with _ | _ | _ | target
      all_goals rcases new with _ | _ | _ | other
      all_goals first
        | rfl
        | exact absurd rfl (noLinkNew _)
        | exact absurd rfl (noLink _)
  | cut among amongOthers =>
      simp only [List.mem_cons, List.not_mem_nil, or_false] at among amongOthers
      rcases among with rfl | rfl
      all_goals rcases amongOthers with rfl | rfl
      all_goals rfl

/--
Canonical paths do not depend on which file stands at a place, or whether one
does.
-/
theorem resolve_differs
    (path : Path) :
    after.resolve path = before.resolve path := by
  have led :=
    (resolves_resolveWithin before resolveLevels
        (canonicalStart path) path.names []).alike
        (Straight.kept before)
          (fun path name _ _ _ =>
            linkAt_differs same free freeAfter (path.child name))
        (Straight.canonicalStart before path)
          (fun _ _ none => absurd none List.not_mem_nil) (fun _ _ => trivial)
  have loops := status_differs same free freeAfter
  refine resolve_alike led.eq_resolveWithin same.workDirectory
    (fun found => (loops found).mpr) ?_
  intro found resolved looped
  exact status_of_resolve resolved ((loops found).mp looped)

end

end FileSystem

end SettingsStore
