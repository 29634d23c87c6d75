import SettingsStore.Proofs.Files.Settling

/-!
# What a change at one place shows

Where two file systems differ at one place, walks through them differ only if
they come to that place or start there.  So what a file shows that was put under
a name of a directory is told by what the name led to before.  If that was a
file or nothing, each path that now ends at the new file has ended at the same
before, each path that is now cut off by it has found nothing before, and no way
to a directory is touched.  A walk with fewer links has the same end as one with
more or runs out of them, which is why ways of any length through one link can
be compared.
-/

namespace SettingsStore

namespace FileSystem

/-! ## Walks with more links -/

/-- A walk that did not run out of links goes the same way with more of them. -/
theorem Walks.moreLinks
    {files : FileSystem}
    {followLast : Bool}
    {links more : Nat}
    {place : Place}
    {names : List Text}
    {result : Except FileError Spot}
    (walks : Walks files followLast links place names result)
    (enough : result ≠ .error .linkLoop)
    (atLeast : links ≤ more) :
    Walks files followLast more place names result := by
  induction walks generalizing more with
  | arrived => exact .arrived
  | missing nothing => exact .missing nothing
  | blocked here noDirectory => exact .blocked here noDirectory
  | stay here _ induction => exact .stay here (induction enough atLeast)
  | back here _ induction => exact .back here (induction enough atLeast)
  | long here notHere notBack tooLong =>
      exact .long here notHere notBack tooLong
  | absent here plain nothing => exact .absent here plain nothing
  | lost here plain nothing rest => exact .lost here plain nothing rest
  | linkItself here plain there leave =>
      exact .linkItself here plain there leave
  | loop => exact absurd rfl enough
  | through here plain there follow _ induction =>
      cases more with
      | zero => exact absurd atLeast (Nat.not_succ_le_zero _)
      | succ more =>
          exact .through here plain there follow
            (induction enough (Nat.le_of_succ_le_succ atLeast))
  | enter here plain there noLink _ induction =>
      exact .enter here plain there noLink (induction enough atLeast)

/--
Two walks by the same names end alike unless one of them runs out of links.
-/
theorem walk_agree
    {files : FileSystem}
    {followLast : Bool}
    {links others : Nat}
    {place : Place}
    {names : List Text}
    (enough : files.walk followLast links place names ≠ .error .linkLoop)
    (enoughOthers :
      files.walk followLast others place names ≠ .error .linkLoop) :
    files.walk followLast links place names =
      files.walk followLast others place names := by
  rcases Nat.le_total links others with fewer | more
  · exact ((walks_walk files followLast links place names).moreLinks enough
        fewer).eq_walk.symm
  · exact ((walks_walk files followLast others place names).moreLinks
        enoughOthers more).eq_walk

/--
What stops a walk that follows all links stops it also when names come after.
-/
theorem Walks.append_eq_error
    {files : FileSystem}
    {links : Nat}
    {place : Place}
    {names : List Text}
    {result : Except FileError Spot}
    {error : FileError}
    (walks : Walks files true links place names result)
    (stopped : result = .error error)
    (otherwise : Bool)
    {rest : List Text}
    (more : rest ≠ []) :
    Walks files otherwise links place (names ++ rest) (.error error) := by
  induction walks with
  | missing nothing =>
      cases stopped
      exact .missing nothing
  | blocked here noDirectory =>
      cases stopped
      exact .blocked here noDirectory
  | stay here _ induction => exact .stay here (induction stopped)
  | back here _ induction => exact .back here (induction stopped)
  | long here notHere notBack tooLong =>
      cases stopped
      exact .long here notHere notBack tooLong
  | lost here plain nothing _ =>
      cases stopped
      exact .lost here plain nothing (by simp [more])
  | loop here plain there _ =>
      cases stopped
      exact .loop here plain there (Or.inl (by simp [more]))
  | through here plain there _ _ induction =>
      have further := induction stopped
      rw [List.append_assoc] at further
      exact .through here plain there (Or.inl (by simp [more])) further
  | enter here plain there noLink _ induction =>
      exact .enter here plain there noLink (induction stopped)
  | arrived | absent | linkItself => cases stopped

/-! ## Walks that come to a place -/

section

variable {before after : FileSystem} {directory : Place} {changed : Text}
  {followLast : Bool}
variable {related : Except FileError Spot → Except FileError Spot → Prop}
variable (same : ∀ place, place ≠ directory ++ [changed] →
  after.get? place = before.get? place)
variable (alike : ∀ result, related result result)
variable
  (comes :
    before.HasDirectory directory → Plain changed → ∀ links rest,
      related (before.walk followLast links directory (changed :: rest))
        (after.walk followLast links directory (changed :: rest)))
variable
  (starts :
    ∀ links names,
      related (before.walk followLast links (directory ++ [changed]) names)
        (after.walk followLast links (directory ++ [changed]) names))
include same alike comes starts

/--
Walks that start elsewhere are related if those that come to the place of the
difference or start there are.
-/
theorem Walks.aside
    {links : Nat}
    {place : Place}
    {names : List Text}
    {result : Except FileError Spot}
    (walks : Walks before followLast links place names result)
    (elsewhere : place ≠ directory ++ [changed]) :
    related result (after.walk followLast links place names) := by
  have directories : ∀ {place : Place}, place ≠ directory ++ [changed] →
      before.HasDirectory place → after.HasDirectory place := by
    rintro place other ⟨mode, here⟩
    exact ⟨mode, (same place other).trans here⟩
  have comesTo :
      ∀ {links : Nat} {place : Place} {name : Text} {rest : List Text}
          {result : Except FileError Spot},
        Walks before followLast links place (name :: rest) result →
          before.HasDirectory place → Plain name →
            place ++ [name] = directory ++ [changed] →
            related result (after.walk followLast links place
                (name :: rest)) := by
    intro links place name rest result walks here plain equal
    obtain ⟨rfl, last⟩ := List.append_inj' equal rfl
    cases last
    rw [← walks.eq_walk]
    exact comes here plain links rest
  induction walks with
  | @arrived links place =>
      rw [walk_nil, same place elsewhere]
      exact alike _
  | missing nothing =>
      rw [(Walks.missing ((same _ elsewhere).trans nothing)).eq_walk]
      exact alike _
  | blocked here noDirectory =>
      rw [(Walks.blocked ((same _ elsewhere).trans here) noDirectory).eq_walk]
      exact alike _
  | stay here _ induction =>
      rw [(Walks.stay (directories elsewhere here)
          (walks_walk after followLast _ _ _)).eq_walk]
      exact induction elsewhere
  | @back links place rest _ here further induction =>
      rw [(Walks.back (directories elsewhere here)
          (walks_walk after followLast _ _ _)).eq_walk]
      by_cases start : place.dropLast = directory ++ [changed]
      · rw [← further.eq_walk, start]
        exact starts links rest
      · exact induction start
  | long here notHere notBack tooLong =>
      rw [(Walks.long (directories elsewhere here) notHere notBack
          tooLong).eq_walk]
      exact alike _
  | @absent links place name here plain nothing =>
      by_cases there : place ++ [name] = directory ++ [changed]
      · exact comesTo (.absent here plain nothing) here plain there
      · rw [(Walks.absent (directories elsewhere here) plain
            ((same _ there).trans nothing)).eq_walk]
        exact alike _
  | @lost links place name rest here plain nothing more =>
      by_cases there : place ++ [name] = directory ++ [changed]
      · exact comesTo (.lost here plain nothing more) here plain there
      · rw [(Walks.lost (directories elsewhere here) plain
            ((same _ there).trans nothing) more).eq_walk]
        exact alike _
  | @linkItself links place name target here plain held leave =>
      by_cases there : place ++ [name] = directory ++ [changed]
      · exact comesTo (.linkItself here plain held leave) here plain there
      · rw [(Walks.linkItself (directories elsewhere here) plain
            ((same _ there).trans held) leave).eq_walk]
        exact alike _
  | @loop place name rest target here plain held follow =>
      by_cases there : place ++ [name] = directory ++ [changed]
      · exact comesTo (.loop here plain held follow) here plain there
      · rw [(Walks.loop (directories elsewhere here) plain
            ((same _ there).trans held) follow).eq_walk]
        exact alike _
  | @through links place name rest target result here plain held follow further
    induction =>
      by_cases there : place ++ [name] = directory ++ [changed]
      · exact comesTo (.through here plain held follow further) here plain there
      · rw [(Walks.through (directories elsewhere here) plain
            ((same _ there).trans held) follow
            (walks_walk after followLast _ _ _)).eq_walk]
        refine induction ?_
        rw [linkStart]
        split
        · simp
        · exact elsewhere
  | @enter links place name rest entry result here plain held noLink further
    induction =>
      by_cases there : place ++ [name] = directory ++ [changed]
      · exact comesTo (.enter here plain held noLink further) here plain there
      · rw [(Walks.enter (directories elsewhere here) plain
            ((same _ there).trans held) noLink
            (walks_walk after followLast _ _ _)).eq_walk]
        exact induction there

/--
Walks are related if those that come to the place of the difference or start
there are.
-/
theorem walk_apart
    (links : Nat)
    (place : Place)
    (names : List Text) :
    related (before.walk followLast links place names)
      (after.walk followLast links place names) := by
  by_cases start : place = directory ++ [changed]
  · rw [start]
    exact starts links names
  · exact (walks_walk before followLast links place names).aside same alike
      comes starts start

/-- What paths lead to is related if walks are. -/
theorem locate_apart
    (workDirectory : after.workDirectory = before.workDirectory)
    (path : Path) :
    related (before.locate path followLast) (after.locate path followLast) := by
  by_cases askable : Askable path
  · rw [askable.locate_eq, askable.locate_eq]
    rcases lead_cases before path.start (storedNames path) with
      ⟨place, rest, walks⟩ | ⟨result, -, fixed⟩
    · rw [walks before followLast rfl, walks after followLast workDirectory]
      exact walk_apart same alike comes starts linkLimit place rest
    · rw [fixed before followLast rfl, fixed after followLast workDirectory]
      exact alike result
  · obtain ⟨error, -, refused⟩ := locate_of_not_askable askable
    rw [refused, refused]
    exact alike _

end

/-! ## A file that was put under a name -/

/-- What is read where a walk ends. -/
def readAt : Except FileError Spot → Except FileError ByteArray
  | .error error => .error error
  | .ok ⟨_, none⟩ => .error .noEntry
  | .ok ⟨_, some (.file content _)⟩ => .ok content
  | .ok ⟨_, some (.directory _)⟩ => .error .isDirectory
  | .ok ⟨_, some (.link _)⟩ => .error .linkLoop

theorem contentOf_eq
    (files : FileSystem)
    (path : Path) :
    files.contentOf path = readAt (files.locate path true) := by
  rw [contentOf, status]
  rcases files.locate path true with _ | ⟨_, _ | _ | _ | _⟩ <;> rfl

/-- Something was read, or nothing was there to be read. -/
def FileOrNothing : Except FileError ByteArray → Prop
  | .ok _ => True
  | .error .noEntry => True
  | .error .notDirectory => True
  | _ => False

/--
A file stands under a name of a directory where a file or nothing was read, and
nothing else has changed.
-/
structure Overwritten
    (directory : Path)
    (name : Text)
    (content : ByteArray)
    (mode : Nat)
    (place : Place)
    (before after : FileSystem) :
    Prop where
  leads :
    ∃ mode, before.locate directory true = .ok ⟨place, some (.directory mode)⟩
  anchored : ∃ base, before.Anchored directory.start base
  askable : Askable (directory.child name)
  plain : Plain name.stored
  read : FileOrNothing (before.contentOf (directory.child name))
  there : after.get? (place ++ [name.stored]) = some (.file content mode)
  same : SameExcept [place ++ [name.stored]] before after

/--
How a walk shows that a file was put in the place of what was read before.
-/
inductive Shows
    (goal : Place)
    (entry : Entry)
    (old : Except FileError ByteArray) :
    Except FileError Spot → Except FileError Spot → Prop where
  | alike (result : Except FileError Spot) : Shows goal entry old result result
  | looped (result : Except FileError Spot) :
    Shows goal entry old (.error .linkLoop) result
  | ended {result : Except FileError Spot}
      (was : readAt result = old ∨ readAt result = .error .linkLoop) :
      Shows goal entry old result (.ok ⟨goal, some entry⟩)
  | cut {result : Except FileError Spot}
      (was : result = .error .noEntry ∨ result = .error .notDirectory) :
      Shows goal entry old result (.error .notDirectory)

namespace Overwritten

variable {directory : Path} {name : Text} {content : ByteArray} {mode : Nat}
  {place : Place}
variable {before after : FileSystem}

theorem hasDirectory
    (overwritten : Overwritten directory name content mode place before after) :
    before.HasDirectory place := by
  obtain ⟨_, leads⟩ := overwritten.leads
  obtain ⟨_, anchored⟩ := overwritten.anchored
  exact hasDirectory_of_locate leads anchored

theorem get?_ne
    (overwritten : Overwritten directory name content mode place before after)
    {other : Place}
    (elsewhere : other ≠ place ++ [name.stored]) :
    after.get? other = before.get? other :=
  overwritten.same.entries other (by simpa using elsewhere)

theorem hasDirectory_after
    (overwritten : Overwritten directory name content mode place before after) :
    after.HasDirectory place := by
  obtain ⟨mode, here⟩ := overwritten.hasDirectory
  exact ⟨mode, (overwritten.get?_ne (by simp)).trans here⟩

/--
What was read under the name is read wherever a walk comes to it, if it has
links enough.
-/
theorem readAt_walk
    (overwritten : Overwritten directory name content mode place before after)
    (links : Nat) :
    readAt (before.walk true links place [name.stored]) =
      before.contentOf (directory.child name) ∨
      before.walk true links place [name.stored] = .error .linkLoop := by
  obtain ⟨_, leads⟩ := overwritten.leads
  obtain ⟨_, anchored⟩ := overwritten.anchored
  obtain ⟨left, onward⟩ := lead_beyond leads anchored
  have located :=
    onward before true [name.stored] (Extends.refl before) (by simp)
  have child : before.locate (directory.child name) true =
      before.walk true left place [name.stored] := by
    rw [overwritten.askable.locate_eq, ← located]
    exact congrArg _ (storedNames_append _ _ _)
  have read := overwritten.read
  rw [contentOf_eq, child] at read ⊢
  by_cases enough :
    before.walk true links place [name.stored] = .error .linkLoop
  · exact Or.inr enough
  · refine Or.inl (congrArg readAt (walk_agree enough fun loop => ?_))
    rw [loop] at read
    exact read.elim

/-- A walk that comes to the name ends there or is cut off. -/
theorem shows_comes
    (overwritten : Overwritten directory name content mode place before after)
    (links : Nat)
    (rest : List Text) :
    Shows (place ++ [name.stored]) (.file content mode)
      (before.contentOf (directory.child name))
      (before.walk true links place (name.stored :: rest))
      (after.walk true links place (name.stored :: rest)) := by
  have read := overwritten.readAt_walk links
  have walks := walks_walk before true links place [name.stored]
  have file : NoLink (some (.file content mode)) := by simp [NoLink]
  by_cases more : rest = []
  · subst more
    have arrived : Walks after true links place [name.stored]
        (.ok ⟨place ++ [name.stored], some (.file content mode)⟩) := by
      refine .enter overwritten.hasDirectory_after overwritten.plain
        overwritten.there file ?_
      rw [← overwritten.there]
      exact .arrived
    rw [arrived.eq_walk]
    refine .ended (read.imp_right fun loop => ?_)
    rw [loop]
    rfl
  · have cut :
        Walks after true links place (name.stored :: rest)
          (.error .notDirectory) := by
      obtain ⟨next, rest, rfl⟩ := List.exists_cons_of_ne_nil more
      exact .enter overwritten.hasDirectory_after overwritten.plain
        overwritten.there file
        (.blocked overwritten.there (by simp))
    have legible := overwritten.read
    rw [cut.eq_walk]
    generalize before.walk true links place [name.stored] = result at read walks
    rcases read with read | rfl
    · rw [← read] at legible
      rcases result with error | ⟨goal, held⟩
      · have stopped := (walks.append_eq_error rfl true more).eq_walk
        rw [List.singleton_append] at stopped
        rw [stopped]
        cases error <;> first | exact legible.elim | exact .cut (by simp)
      · rcases held with _ | _ | _ | _
        · have nothing := (walks.append_eq_noEntry trivial true more).eq_walk
          rw [List.singleton_append] at nothing
          exact .cut (Or.inl nothing)
        · have stopped :=
            (walks.append_eq_notDirectory trivial true more).eq_walk
          rw [List.singleton_append] at stopped
          exact .cut (Or.inr stopped)
        · exact legible.elim
        · exact legible.elim
    · have stopped := (walks.append_eq_error rfl true more).eq_walk
      rw [List.singleton_append] at stopped
      rw [stopped]
      exact .looped _

/--
A walk that starts at the name, as one back from a directory that was taken away
may, does not go on.
-/
theorem shows_starts
    (overwritten : Overwritten directory name content mode place before after)
    (links : Nat)
    (names : List Text) :
    Shows (place ++ [name.stored]) (.file content mode)
      (before.contentOf (directory.child name))
      (before.walk true links (place ++ [name.stored]) names)
      (after.walk true links (place ++ [name.stored]) names) := by
  have read := overwritten.readAt_walk 0
  rw [walk_plain overwritten.hasDirectory overwritten.plain] at read
  have legible := overwritten.read
  have noDirectory :
      ∀ mode, before.get? (place ++ [name.stored]) ≠
        some (.directory mode) := by
    intro mode held
    rw [held] at read
    dsimp only at read
    rw [walk_nil, held] at read
    rcases read with read | loop
    · rw [← read] at legible
      exact legible
    · cases loop
  cases names with
  | nil =>
      rw [walk_nil, walk_nil, overwritten.there]
      refine .ended ?_
      cases held : before.get? (place ++ [name.stored]) with
      | none =>
          rw [held] at read
          exact Or.inl (read.resolve_right (by simp))
      | some entry =>
          cases entry with
          | file =>
              rw [held] at read
              dsimp only at read
              rw [walk_nil, held] at read
              exact Or.inl (read.resolve_right (by simp))
          | directory mode => exact absurd held (noDirectory mode)
          | link => exact Or.inr rfl
  | cons first rest =>
      have blocked :
          Walks after true links (place ++ [name.stored]) (first :: rest)
            (.error .notDirectory) :=
        .blocked overwritten.there (by simp)
      rw [blocked.eq_walk]
      refine .cut ?_
      cases held : before.get? (place ++ [name.stored]) with
      | none => exact Or.inl (Walks.missing held).eq_walk
      | some entry =>
          refine Or.inr (Walks.blocked held ?_).eq_walk
          rintro mode rfl
          exact noDirectory mode held

/-- What a path leads to shows the file, or it is what it was. -/
theorem shows
    (overwritten : Overwritten directory name content mode place before after)
    (path : Path) :
    Shows (place ++ [name.stored]) (.file content mode)
      (before.contentOf (directory.child name))
      (before.locate path true) (after.locate path true) :=
  locate_apart (fun _ => overwritten.get?_ne) .alike
    (fun _ _ => overwritten.shows_comes)
    overwritten.shows_starts overwritten.same.workDirectory path

/-- The way to a directory is as before. -/
theorem locate_directory
    (overwritten : Overwritten directory name content mode place before after)
    {path : Path}
    {goal : Place}
    {goalMode : Nat}
    (leads : before.locate path true = .ok ⟨goal, some (.directory goalMode)⟩) :
    after.locate path true = .ok ⟨goal, some (.directory goalMode)⟩ := by
  have shows := overwritten.shows path
  have legible := overwritten.read
  rw [leads] at shows
  generalize after.locate path true = result at shows
  cases shows with
  | alike => rfl
  | ended was =>
      rcases was with was | loop
      · rw [← was] at legible
        exact legible.elim
      · cases loop
  | cut was => rcases was with was | was <;> cases was

theorem isDirectory
    (overwritten : Overwritten directory name content mode place before after)
    {path : Path}
    (there : before.isDirectory path = true) :
    after.isDirectory path = true := by
  obtain ⟨goalMode, held⟩ := isDirectory_iff.mp there
  obtain ⟨goal, leads⟩ := locate_of_status held
  exact isDirectory_iff.mpr
    ⟨goalMode, status_of_locate (overwritten.locate_directory leads)⟩

/--
What is read under a path is as before, or the new file is read in place of the
old one, or still nothing is.
-/
theorem contentOf
    (overwritten : Overwritten directory name content mode place before after)
    {path : Path}
    (legible : FileOrNothing (before.contentOf path)) :
    after.contentOf path = before.contentOf path ∨
      (before.contentOf path = before.contentOf (directory.child name) ∧
        after.contentOf path = .ok content) ∨
        ((before.contentOf path = .error .noEntry ∨
          before.contentOf path = .error .notDirectory) ∧
          after.contentOf path = .error .notDirectory) := by
  have shows := overwritten.shows path
  rw [contentOf_eq] at legible
  rw [contentOf_eq before path, contentOf_eq after path]
  generalize before.locate path true = result at shows legible
  generalize after.locate path true = found at shows
  cases shows with
  | alike => exact Or.inl rfl
  | looped => exact legible.elim
  | ended was =>
      rcases was with was | loop
      · exact Or.inr (Or.inl ⟨was, rfl⟩)
      · rw [loop] at legible
        exact legible.elim
  | cut was =>
      refine Or.inr (Or.inr ⟨?_, rfl⟩)
      rcases was with rfl | rfl
      · exact Or.inl rfl
      · exact Or.inr rfl

end Overwritten

end FileSystem

end SettingsStore
