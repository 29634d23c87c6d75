import SettingsStore.Proofs.Files.Children

/-!
# What a change shows under a path

Making a directory on the way to a name, or putting a file under a name that
nothing mentions, does not show when the name is read: where it was missing it
goes on to be missing.  There is one exception.  A name on the way that is too
long is not looked at until the directory before it is there, and from then on
the path is refused for it.  What is put in the place of a link is noticed by
those ways that led through the link, and these end there.
-/

namespace SettingsStore

namespace FileSystem

/-! ## Reading under a path -/

/-- What is read under a path is decided by where it leads. -/
theorem contentOf_congr
    {before after : FileSystem}
    {path : Path}
    (same : after.locate path true = before.locate path true) :
    after.contentOf path = before.contentOf path := by
  rw [contentOf, contentOf, status, status, same]

theorem contentOf_of_nowhere
    {files : FileSystem}
    {path : Path}
    (nowhere : LeadsNowhere (files.locate path true)) :
    files.contentOf path = .error .noEntry := by
  rw [contentOf, status]
  cases found : files.locate path true with
  | error error =>
      rw [found] at nowhere
      cases error with
      | noEntry => rfl
      | _ => exact nowhere.elim
  | ok spot =>
      obtain ⟨place, entry⟩ := spot
      rw [found] at nowhere
      cases entry with
      | none => rfl
      | some entry => exact nowhere.elim

theorem contentOf_of_error
    {files : FileSystem}
    {path : Path}
    {error : FileError}
    (refused : files.locate path true = .error error) :
    files.contentOf path = .error error := by
  rw [contentOf, status, refused]

/-! ## Directories on the way -/

/--
Nothing that was there has changed, and a name of a directory is read as before,
unless it was missing and is now refused for a name on the way that is too long.
-/
structure Unnoticed
    (directory : Path)
    (name : Text)
    (before during : FileSystem) :
    Prop extends
    Extends before during where
  reading :
    during.contentOf (directory.child name) =
      before.contentOf (directory.child name) ∨
      (before.contentOf (directory.child name) = .error .noEntry ∧
        during.contentOf (directory.child name) = .error .nameTooLong ∧
          ∃ part ∈ directory.names, nameLimit < octetCount part.stored)

namespace Unnoticed

variable {directory : Path} {name : Text}

theorem refl (files : FileSystem) : Unnoticed directory name files files where
  toExtends := Extends.refl files
  reading := Or.inl rfl

theorem trans
    {first second third : FileSystem}
    (left : Unnoticed directory name first second)
    (right : Unnoticed directory name second third) :
    Unnoticed directory name first third where
  toExtends := left.toExtends.trans right.toExtends
  reading := by
    rcases left.reading with same | ⟨missing, refused, long⟩
    · rw [← same]
      exact right.reading
    · rcases right.reading with same | ⟨impossible, _, _⟩
      · exact Or.inr ⟨missing, same.trans refused, long⟩
      · rw [refused] at impossible
        cases impossible

end Unnoticed

/-- In an empty directory names lead nowhere, or one of them is too long. -/
theorem walk_of_empty
    {files : FileSystem}
    {place : Place}
    {names : List Text}
    {last : Text}
    (here : files.HasDirectory place)
    (empty : ∀ name, files.get? (place ++ [name]) = none)
    (noBack : ∀ name ∈ names, name ≠ "..")
    (plain : Plain last)
    (followLast : Bool)
    (links : Nat) :
    LeadsNowhere (files.walk followLast links place (names ++ [last])) ∨
      (files.walk followLast links place (names ++ [last]) =
          .error .nameTooLong ∧
        ∃ name ∈ names, nameLimit < octetCount name) := by
  induction names with
  | nil =>
      refine Or.inl ?_
      rw [List.nil_append, walk_plain here plain, empty]
      trivial
  | cons name names induction =>
      obtain ⟨notBack, others⟩ := List.forall_mem_cons.mp noBack
      by_cases isHere : name = "."
      · subst isHere
        have stays :=
          (Walks.stay here (walks_walk files followLast links place
              (names ++ [last]))).eq_walk
        rw [List.cons_append, stays]
        rcases induction others with nowhere | ⟨refused, long, member, tooLong⟩
        · exact Or.inl nowhere
        · exact Or.inr ⟨refused, long, List.mem_cons_of_mem _ member, tooLong⟩
      · by_cases tooLong : nameLimit < octetCount name
        · exact Or.inr ⟨(Walks.long here isHere notBack tooLong).eq_walk, name,
            List.mem_cons_self .., tooLong⟩
        · refine Or.inl ?_
          rw [List.cons_append,
            walk_plain here ⟨isHere, notBack, Nat.le_of_not_lt tooLong⟩, empty]
          simp [LeadsNowhere]

/--
Without a name that leads back, a free place is found from a directory that is
there.
-/
theorem anchored_of_free
    {files : FileSystem}
    {path : Path}
    {place : Place}
    (noBack : ∀ name ∈ path.names, name.stored ≠ "..")
    (free : files.locate path false = .ok ⟨place, none⟩) :
    ∃ base, files.Anchored path.start base := by
  obtain ⟨start, names⟩ := path
  by_cases relative : start = .relative
  · cases work : files.workDirectory with
    | present base => exact ⟨base, Or.inr ⟨relative, work⟩⟩
    | removed gone =>
        rw [(askable_of_locate_ok free).locate_eq, lead,
          if_neg (not_not_intro relative), work] at free
        cases names with
        | nil => cases free
        | cons name rest =>
            have notBack := noBack name (List.mem_cons_self ..)
            simp [storedNames, walkRemoved, notBack] at free
  · exact ⟨[], Or.inl ⟨relative, rfl⟩⟩

/--
A directory on the way to a name is made without being noticed under the name.
-/
theorem unnoticed_put
    {files : FileSystem}
    {directory : Path}
    {beginning : List Text}
    {place base : Place}
    {name : Text}
    (wellFormed : files.WellFormed)
    (anchored : files.Anchored directory.start base)
    (noBack : ∀ part ∈ directory.names, part.stored ≠ "..")
    (plain : Plain name.stored)
    (begins : beginning <+: directory.names)
    (free :
      files.locate ⟨directory.start, beginning⟩ false = .ok ⟨place, none⟩) :
    Unnoticed directory name files
      (files.put place (.directory (files.masked 0o777))) := by
  have nothing : files.get? place = none := get?_of_locate (by simp) free
  have extends_ := extends_put nothing (.directory (files.masked 0o777))
  have there := get?_put_self nothing (.directory (files.masked 0o777))
  refine { toExtends := extends_, reading := ?_ }
  by_cases askable : Askable (directory.child name)
  · obtain ⟨more, parts⟩ := begins
    have names : storedNames (directory.child name) =
        storedNames ⟨directory.start, beginning⟩ ++
          (more.map Text.stored ++ [name.stored]) := by
      simp [storedNames, Path.child, ← parts]
    have missing :
        files.contentOf (directory.child name) = .error .noEntry := by
      have walks :=
        walks_walk files false linkLimit base
          (storedNames ⟨directory.start, beginning⟩)
      rw [(askable_of_locate_ok free).locate_eq, anchored.lead rfl] at free
      rw [free] at walks
      refine contentOf_of_error ?_
      rw [askable.locate_eq, names, Path.child, anchored.lead rfl]
      exact (walks.append_eq_noEntry trivial true (by simp)).eq_walk
    have leads := locate_fill extends_ there (by simp [NoLink]) free true
    obtain ⟨left, onward⟩ :=
      lead_beyond leads (anchored.of_workDirectory extends_.workDirectory)
    have further :=
      onward _ true (more.map Text.stored ++ [name.stored])
        (Extends.refl _) (by simp)
    have located :
        (files.put place (.directory (files.masked 0o777))).locate
          (directory.child name) true =
        (files.put place (.directory (files.masked 0o777))).walk true left place
          (more.map Text.stored ++ [name.stored]) := by
      rw [askable.locate_eq, names]
      exact further
    have empty : ∀ other,
        (files.put place (.directory (files.masked 0o777))).get?
          (place ++ [other]) = none := by
      intro other
      rw [get?_put_of_ne nothing (by simp),
        wellFormed.get?_below_free nothing other]
    have onwards : ∀ part ∈ more.map Text.stored, part ≠ ".." := by
      intro part member
      obtain ⟨original, rest, rfl⟩ := List.mem_map.mp member
      exact noBack original (parts ▸ List.mem_append_right _ rest)
    rcases walk_of_empty ⟨_, there⟩ empty onwards plain true left with
      nowhere | ⟨refused, part, member, long⟩
    · rw [← located] at nowhere
      exact Or.inl ((contentOf_of_nowhere nowhere).trans missing.symm)
    · obtain ⟨original, rest, rfl⟩ := List.mem_map.mp member
      exact Or.inr ⟨missing, contentOf_of_error (located.trans refused),
        original, parts ▸ List.mem_append_right _ rest, long⟩
  · obtain ⟨error, _, everywhere⟩ := locate_of_not_askable askable
    exact Or.inl (contentOf_congr (by rw [everywhere, everywhere]))

/--
Making a directory is not noticed under a name in it, however far it comes.
-/
theorem makeDirectories_unnoticed
    {directory : Path}
    {name : Text}
    {trail : Trail}
    (noBack : ∀ part ∈ directory.names, part.stored ≠ "..")
    (plain : Plain name.stored) :
    Trail.Continues
      (fun before after => before.WellFormed →
        after.WellFormed ∧ Unnoticed directory name before after)
      trail ((makeDirectories directory).on trail).2 := by
  refine ensureDirectories_continues
    (fun files wellFormed => ⟨wellFormed, .refl files⟩)
    (fun _ _ _ left right wellFormed =>
      have middle := left wellFormed
      have last := right middle.1
      ⟨last.1, middle.2.trans last.2⟩) ?_ trail
  intro files beginning place begins free wellFormed
  rw [List.reverse_reverse] at begins
  have onTheWay : ∀ part ∈ beginning, part.stored ≠ ".." :=
    fun part member => noBack part (begins.subset member)
  obtain ⟨base, anchored⟩ :=
    @anchored_of_free files ⟨directory.start, beginning⟩ place onTheWay free
  have nothing : files.get? place = none := get?_of_locate (by simp) free
  obtain ⟨before, last, rfl, here⟩ := parent_of_locate free wellFormed anchored
  exact ⟨wellFormed.put nothing here _,
    unnoticed_put wellFormed anchored noBack plain begins free⟩

/-! ## The temporary file -/

section

variable {files during : FileSystem} {directory temporary : Path}
  {origin place base : Place} {mode : Nat}
variable (leads : files.locate directory true =
    .ok ⟨place, some (.directory mode)⟩)
variable (anchored : files.Anchored directory.start base)

include leads anchored

/--
A temporary file is not noticed under another name that no link of it has.
-/
theorem HoldsTemporary.unnoticed
    {name free : Text}
    (holds : HoldsTemporary temporary origin files during)
    (wellFormed : files.WellFormed)
    (last : origin.getLast? = some free)
    (unmentioned : files.Unmentioned free)
    (other : name.stored ≠ free) :
    Unnoticed directory name files during where
  toExtends := holds.extends_
  reading := Or.inl (contentOf_congr
    (HoldsTemporary.locate_child leads anchored holds wellFormed last
      unmentioned other true))

end

/-! ## A link that is replaced by a file -/

/-- Whether a walk ends at a file, or at one before its end. -/
def StopsAtFile : Except FileError Spot → Prop
  | .ok ⟨_, some (.file _ _)⟩ => True
  | .error .notDirectory => True
  | _ => False

/-- Behind a file there is no directory to go on in. -/
theorem Walks.append_eq_notDirectory
    {files : FileSystem}
    {followLast : Bool}
    {links : Nat}
    {place : Place}
    {names : List Text}
    {result : Except FileError Spot}
    (walks : Walks files followLast links place names result)
    (stops : StopsAtFile result)
    (otherwise : Bool)
    {rest : List Text}
    (more : rest ≠ []) :
    Walks files otherwise links place (names ++ rest)
      (.error .notDirectory) := by
  induction walks with
  | @arrived _ place =>
      obtain ⟨name, rest, rfl⟩ := List.exists_cons_of_ne_nil more
      cases held : files.get? place with
      | none =>
          rw [held] at stops
          exact stops.elim
      | some entry =>
          rw [held] at stops
          cases entry with
          | file content mode => exact .blocked held (by simp)
          | directory mode => exact stops.elim
          | link target => exact stops.elim
  | blocked here noDirectory => exact .blocked here noDirectory
  | stay here _ induction => exact .stay here (induction stops)
  | back here _ induction => exact .back here (induction stops)
  | through here plain there _ _ induction =>
      have further := induction stops
      rw [List.append_assoc] at further
      exact .through here plain there (Or.inl (by simp [more])) further
  | enter here plain there noLink _ induction =>
      exact .enter here plain there noLink (induction stops)
  | missing | absent | lost | long | linkItself | loop => exact stops.elim

/--
A walk to a directory does not notice that a link is replaced by a file, or it
ends there.
-/
theorem Walks.cut
    {before after : FileSystem}
    {followLast : Bool}
    {links : Nat}
    {place goal link : Place}
    {names : List Text}
    {target : Text}
    {content : ByteArray}
    {fileMode mode : Nat}
    {result : Except FileError Spot}
    (walks : Walks before followLast links place names result)
    (stood : before.get? link = some (.link target))
    (stands : after.get? link = some (.file content fileMode))
    (same : ∀ place, place ≠ link → after.get? place = before.get? place)
    (found : result = .ok ⟨goal, some (.directory mode)⟩) :
    Walks after followLast links place names result ∨
      ∃ other, Walks after followLast links place names other ∧
        StopsAtFile other := by
  have kept :
      ∀ {place : Place} {entry : Entry}, before.get? place = some entry →
        entry ≠ .link target → after.get? place = some entry := by
    intro place entry held noLink
    rw [same place ?_, held]
    rintro rfl
    rw [stood] at held
    exact noLink (Option.some.inj held).symm
  have directories :
      ∀ {place : Place}, before.HasDirectory place →
        after.HasDirectory place := by
    rintro place ⟨mode, here⟩
    exact ⟨mode, kept here (by simp)⟩
  induction walks with
  | @arrived _ place =>
      simp only [Except.ok.injEq, Spot.mk.injEq] at found
      rw [found.2, ← kept found.2 (by simp)]
      exact Or.inl .arrived
  | stay here _ induction =>
      rcases induction found with further | ⟨other, further, stops⟩
      · exact Or.inl (.stay (directories here) further)
      · exact Or.inr ⟨other, .stay (directories here) further, stops⟩
  | back here _ induction =>
      rcases induction found with further | ⟨other, further, stops⟩
      · exact Or.inl (.back (directories here) further)
      · exact Or.inr ⟨other, .back (directories here) further, stops⟩
  | @through links place name rest passed _ here plain held follow _
    induction =>
      by_cases cut : place ++ [name] = link
      · -- the walk enters the file that stands there now, and what is left of
        -- its names finds no directory
        refine Or.inr ⟨_, .enter (directories here) plain (cut ▸ stands)
            (by simp [NoLink])
          (walks_walk after followLast (links + 1) (place ++ [name]) rest), ?_⟩
        cases rest with
        | nil =>
            rw [walk_nil, cut, stands]
            trivial
        | cons next rest =>
            rw [(Walks.blocked (cut ▸ stands) (by simp)).eq_walk]
            trivial
      · have there : after.get? (place ++ [name]) = some (.link passed) :=
          (same _ cut).trans held
        rcases induction found with further | ⟨other, further, stops⟩
        · exact Or.inl (.through (directories here) plain there follow further)
        · exact Or.inr
            ⟨other, .through (directories here) plain there follow further,
            stops⟩
  | @enter _ _ _ _ entry _ here plain held noLink _ induction =>
      have there :=
        kept held (fun isLink => noLink target (congrArg some isLink))
      rcases induction found with further | ⟨other, further, stops⟩
      · exact Or.inl (.enter (directories here) plain there noLink further)
      · exact Or.inr
          ⟨other, .enter (directories here) plain there noLink further, stops⟩
  | linkItself => cases found
  | absent => cases found
  | missing | blocked | long | lost | loop => cases found

/--
The way to a directory is the same after a link is replaced by a file, or it
ends at a file.
-/
theorem locate_cut
    {before after : FileSystem}
    {path : Path}
    {followLast : Bool}
    {place link : Place}
    {target : Text}
    {content : ByteArray}
    {fileMode mode : Nat}
    (stood : before.get? link = some (.link target))
    (stands : after.get? link = some (.file content fileMode))
    (same : SameExcept [link] before after)
    (leads :
      before.locate path followLast = .ok ⟨place, some (.directory mode)⟩) :
    after.locate path followLast = .ok ⟨place, some (.directory mode)⟩ ∨
      StopsAtFile (after.locate path followLast) := by
  have askable := askable_of_locate_ok leads
  rw [askable.locate_eq] at leads ⊢
  rcases lead_cases before path.start (storedNames path) with
    ⟨start, rest, walked⟩ | ⟨result, _, constant⟩
  · rw [walked before followLast rfl] at leads
    rw [walked after followLast same.workDirectory]
    rcases (walk_eq_iff.mp leads).cut stood stands
      (fun other differs => same.entries other (by simpa using differs))
        rfl with
      onward | ⟨other, onward, stops⟩
    · exact Or.inl onward.eq_walk
    · rw [onward.eq_walk]
      exact Or.inr stops
  · rw [constant before followLast rfl] at leads
    rw [constant after followLast same.workDirectory]
    exact Or.inl leads

/--
The way to a directory is the same after a file was put where no directory was,
or it ends at a file.
-/
theorem locate_after_file
    {before after : FileSystem}
    {path : Path}
    {followLast : Bool}
    {place goal : Place}
    {content : ByteArray}
    {fileMode mode : Nat}
    (noDirectory : ∀ mode, before.get? goal ≠ some (.directory mode))
    (stands : after.get? goal = some (.file content fileMode))
    (same : SameExcept [goal] before after)
    (leads :
      before.locate path followLast = .ok ⟨place, some (.directory mode)⟩) :
    after.locate path followLast = .ok ⟨place, some (.directory mode)⟩ ∨
      StopsAtFile (after.locate path followLast) := by
  cases stood : before.get? goal with
  | none => exact Or.inl (locate_extend (same.extends_ stood) leads)
  | some entry =>
      cases entry with
      | file => exact Or.inl (locate_without_file stood same leads)
      | directory mode => exact absurd stood (noDirectory mode)
      | link target => exact locate_cut stood stands same leads

/-- A name of what is no directory but a file is refused for that. -/
theorem locate_child_of_stopsAtFile
    {files : FileSystem}
    {directory : Path}
    {name : Text}
    {base : Place}
    {followLast : Bool}
    (anchored : files.Anchored directory.start base)
    (located : Askable directory)
    (askable : Askable (directory.child name))
    (stops : StopsAtFile (files.locate directory followLast))
    (otherwise : Bool) :
    files.locate (directory.child name) otherwise = .error .notDirectory := by
  rw [located.locate_eq, anchored.lead rfl] at stops
  rw [askable.locate_eq, Path.child, storedNames_append, anchored.lead rfl]
  have walks :=
    walks_walk files followLast linkLimit base (storedNames directory)
  exact (walks.append_eq_notDirectory stops otherwise (by simp)).eq_walk

end FileSystem

end SettingsStore
