import SettingsStore.Proofs.Files.Locating
import SettingsStore.Proofs.Files.Procedures

/-!
# Making directories

Making a directory with those on the way to it only ever adds directories, each
at a place to which a beginning of the path leads.  That holds of every file
system that it passes through, whether it succeeds or stops half-way.
-/

namespace SettingsStore

namespace FileSystem

/-- A beginning of a path leads to a directory at a place. -/
def OnTheWay (files : FileSystem) (path : Path) (place : Place) : Prop :=
  ∃ beginning mode,
    beginning <+: path.names ∧
      files.locate ⟨path.start, beginning⟩ false =
        .ok ⟨place, some (.directory mode)⟩

/-- Nothing but directories on the way to a path was added. -/
structure GrownTowards (path : Path) (before after : FileSystem) : Prop extends
    Extends before after where
  umask : after.umask = before.umask
  added :
    ∀ place entry, before.get? place = none → after.get? place = some entry →
      entry = .directory (before.masked 0o777) ∧ after.OnTheWay path place

theorem OnTheWay.extend
    {before after : FileSystem}
    (extends_ : Extends before after)
    {path : Path}
    {place : Place}
    (onTheWay : before.OnTheWay path place) :
    after.OnTheWay path place := by
  obtain ⟨beginning, mode, begins, found⟩ := onTheWay
  exact ⟨beginning, mode, begins, locate_extend extends_ found⟩

namespace GrownTowards

theorem refl
    (path : Path)
    (files : FileSystem) :
    GrownTowards path files files where
  toExtends := Extends.refl files
  umask := rfl
  added place entry nothing found := by
    rw [nothing] at found
    cases found

theorem trans
    {path : Path}
    {first second third : FileSystem}
    (left : GrownTowards path first second)
    (right : GrownTowards path second third) :
    GrownTowards path first third where
  toExtends := left.toExtends.trans right.toExtends
  umask := right.umask.trans left.umask
  added place entry nothing found := by
    cases between : second.get? place with
    | none =>
        obtain ⟨made, onTheWay⟩ := right.added place entry between found
        refine ⟨?_, onTheWay⟩
        rw [made, masked, masked, left.umask]
    | some held =>
        have same : entry = held := by
          rw [right.kept place held between] at found
          exact (Option.some.inj found).symm
        obtain ⟨made, onTheWay⟩ := left.added place held nothing between
        exact ⟨same.trans made, onTheWay.extend right.toExtends⟩

end GrownTowards

theorem ne_root_of_get?_eq_none
    {files : FileSystem}
    {place : Place}
    (nothing : files.get? place = none) :
    place ≠ [] := by
  rintro rfl
  simp [get?] at nothing

theorem get?_put_self
    {files : FileSystem}
    {place : Place}
    (nothing : files.get? place = none)
    (entry : Entry) :
    (files.put place entry).get? place = some entry := by
  rw [get?_put files place place entry (ne_root_of_get?_eq_none nothing),
    if_pos rfl]

theorem get?_put_of_ne
    {files : FileSystem}
    {place other : Place}
    {entry : Entry}
    (nothing : files.get? place = none)
    (differs : other ≠ place) :
    (files.put place entry).get? other = files.get? other := by
  rw [get?_put files place other entry (ne_root_of_get?_eq_none nothing),
    if_neg differs]

/-- Putting an entry at a free place keeps all others. -/
theorem extends_put
    {files : FileSystem}
    {place : Place}
    (nothing : files.get? place = none)
    (entry : Entry) :
    Extends files (files.put place entry) := by
  refine ⟨?_, rfl⟩
  intro other held found
  have differs : other ≠ place := by
    rintro rfl
    rw [nothing] at found
    cases found
  rw [get?_put_of_ne nothing differs, found]

/--
Making the directory of a beginning of a path grows the file system towards the
path.
-/
theorem grownTowards_put
    {files : FileSystem}
    {path : Path}
    {beginning : List Text}
    {place : Place}
    (begins : beginning <+: path.names)
    (free : files.locate ⟨path.start, beginning⟩ false = .ok ⟨place, none⟩) :
    GrownTowards path files
      (files.put place (.directory (files.masked 0o777))) := by
  have nothing : files.get? place = none := get?_of_locate (by simp) free
  have extends_ := extends_put nothing (.directory (files.masked 0o777))
  refine { toExtends := extends_, umask := rfl, added := ?_ }
  intro other entry absent found
  have here : other = place := by
    by_contra differs
    rw [get?_put_of_ne nothing differs, absent] at found
    cases found
  subst here
  have there := get?_put_self nothing (.directory (files.masked 0o777))
  rw [there] at found
  refine ⟨(Option.some.inj found).symm, beginning,
    files.masked 0o777, begins, ?_⟩
  exact locate_fill extends_ there (by simp [NoLink]) free false

/-! ## One directory -/

/-- What making one directory comes to. -/
inductive Ensured
    (path : Path)
    (trail : Trail) :
    Except PathFailure Unit × Trail → Prop where
  | made {place : Place}
      (free : trail.files.locate path false = .ok ⟨place, none⟩) :
      Ensured path trail
        (.ok (), ⟨trail.files.put place (.directory (trail.files.masked 0o777)),
          trail.files :: trail.earlier⟩)
  | there {mode : Nat}
      (held : trail.files.status path = .ok (.directory mode))
      (notMissing : trail.files.locate path false ≠ .error .noEntry) :
      Ensured path trail (.ok (), trail)
  | missing
      (nowhere : trail.files.locate path false = .error .noEntry) :
      Ensured path trail (.error (.noEntry, path), trail)
  | refused {error : FileError}
      (notMissing : error ≠ .noEntry)
      (noDirectory : ∀ mode, trail.files.status path ≠ .ok (.directory mode))
      (cause :
        trail.files.locate path false = .error error ∨ error = .alreadyExists ∨
          error = .nameTooLong) :
      Ensured path trail (.error (error, path), trail)

theorem makeDirectory_of_free
    {files : FileSystem}
    {path : Path}
    {place : Place}
    (free : files.locate path false = .ok ⟨place, none⟩) :
    files.makeDirectory path =
      .ok (files.put place (.directory (files.masked 0o777))) := by
  rw [makeDirectory, free]

theorem makeDirectory_of_taken
    {files : FileSystem}
    {path : Path}
    {place : Place}
    {held : Entry}
    (taken : files.locate path false = .ok ⟨place, some held⟩) :
    files.makeDirectory path = .error .alreadyExists := by
  rw [makeDirectory, taken]

/--
After a refusal that is not for want of a parent, what is there already decides.
-/
theorem ensureDirectory_of_refused
    {path : Path}
    {trail : Trail}
    {error : FileError}
    (notMissing : error ≠ .noEntry)
    (refused : trail.files.makeDirectory path = .error error) :
    (ensureDirectory path).on trail =
      match trail.files.status path with
      | .ok (.directory _) => (.ok (), trail)
      | .error .nameTooLong => (.error (.nameTooLong, path), trail)
      | _ => (.error (error, path), trail) := by
  have attempted :
      (Procedure.attempt (Procedure.perform fun files =>
          files.makeDirectory path) :
        Procedure PathFailure (Except FileError Unit)).on trail =
          (.ok (.error error), trail) := by
    rw [Procedure.on_attempt, Procedure.on_perform_of_error refused]
  rw [ensureDirectory, Procedure.on_bind_of_ok attempted]
  cases error with
  | noEntry => exact absurd rfl notMissing
  | _ =>
      simp only [Procedure.on_bind, Procedure.on_ask]
      cases trail.files.status path with
      | ok entry => cases entry <;> rfl
      | error error => cases error <;> rfl

theorem ensured_of_refused
    {path : Path}
    {trail : Trail}
    {error : FileError}
    (notMissing : error ≠ .noEntry)
    (located : trail.files.locate path false ≠ .error .noEntry)
    (cause :
      trail.files.locate path false = .error error ∨ error = .alreadyExists)
    (refused : trail.files.makeDirectory path = .error error) :
    Ensured path trail ((ensureDirectory path).on trail) := by
  rw [ensureDirectory_of_refused notMissing refused]
  split
  · rename_i mode held
    exact .there held located
  · rename_i long
    exact .refused (by simp) (by simp [long]) (Or.inr (Or.inr rfl))
  · rename_i noDirectory _
    refine .refused notMissing noDirectory ?_
    rcases cause with cause | cause
    · exact Or.inl cause
    · exact Or.inr (Or.inl cause)

theorem ensured (path : Path) (trail : Trail) :
    Ensured path trail ((ensureDirectory path).on trail) := by
  cases located : trail.files.locate path false with
  | error error =>
      have refused : trail.files.makeDirectory path = .error error := by
        rw [makeDirectory, located]
      by_cases missing : error = .noEntry
      · subst missing
        have attempted :
            (Procedure.attempt (Procedure.perform fun files =>
                files.makeDirectory path) :
              Procedure PathFailure (Except FileError Unit)).on trail =
                (.ok (.error .noEntry), trail) := by
          rw [Procedure.on_attempt, Procedure.on_perform_of_error refused]
        rw [ensureDirectory, Procedure.on_bind_of_ok attempted]
        exact .missing located
      · exact ensured_of_refused missing (by simp [located, missing])
          (Or.inl located) refused
  | ok spot =>
      obtain ⟨place, entry⟩ := spot
      cases entry with
      | none =>
          have attempted :
              (Procedure.attempt (Procedure.perform fun files =>
                  files.makeDirectory path) :
                Procedure PathFailure (Except FileError Unit)).on trail =
                  (.ok (.ok ()),
                    ⟨trail.files.put place
                      (.directory (trail.files.masked 0o777)),
                    trail.files :: trail.earlier⟩) := by
            rw [Procedure.on_attempt,
              Procedure.on_perform_of_ok (makeDirectory_of_free located)]
          rw [ensureDirectory, Procedure.on_bind_of_ok attempted]
          exact .made located
      | some held =>
          exact ensured_of_refused (by simp) (by simp [located]) (Or.inr rfl)
            (makeDirectory_of_taken located)

/-! ## A directory with those on the way to it -/

/--
One round of making the directories on the way: the directory, or those before
it and then itself.
-/
theorem ensureDirectories_cons
    (start : PathStart)
    (name : Text)
    (before : List Text)
    (trail : Trail) :
    (ensureDirectories start (name :: before)).on trail =
      match (ensureDirectory ⟨start, (name :: before).reverse⟩).on trail with
      | (.ok (), after) => (.ok (), after)
      | (.error (.noEntry, _), after) =>
        match (ensureDirectories start before).on after with
        | (.ok (), after) =>
            (ensureDirectory ⟨start, (name :: before).reverse⟩).on after
        | (.error failure, after) => (.error failure, after)
      | (.error failure, after) => (.error failure, after) := by
  rw [ensureDirectories]
  simp only [Procedure.on_bind, Procedure.on_attempt]
  generalize (ensureDirectory ⟨start, (name :: before).reverse⟩).on trail =
    first
  obtain ⟨outcome, after⟩ := first
  cases outcome with
  | ok => rfl
  | error failure =>
      obtain ⟨error, refused⟩ := failure
      cases error with
      | noEntry =>
          simp only [Procedure.on_bind]
          generalize (ensureDirectories start before).on after = parents
          obtain ⟨outcome, after⟩ := parents
          cases outcome <;> rfl
      | _ => rfl

/--
What making the directories on the way to a path does is one or more times
putting a directory where a beginning of the path leads.
-/
theorem ensureDirectories_continues
    {relation : FileSystem → FileSystem → Prop}
    (reflexive : ∀ files, relation files files)
    (transitive : ∀ first second third,
      relation first second → relation second third → relation first third)
    {start : PathStart}
    {names : List Text}
    (single : ∀ {files : FileSystem} {beginning : List Text} {place : Place},
      beginning <+: names.reverse →
      files.locate ⟨start, beginning⟩ false = .ok ⟨place, none⟩ →
      relation files (files.put place (.directory (files.masked 0o777))))
    (trail : Trail) :
    Trail.Continues relation trail
      ((ensureDirectories start names).on trail).2 := by
  have one : ∀ trail : Trail, ∀ beginning, beginning <+: names.reverse →
      Trail.Continues relation trail
        ((ensureDirectory ⟨start, beginning⟩).on trail).2 := by
    intro trail beginning begins
    have known := ensured ⟨start, beginning⟩ trail
    generalize (ensureDirectory ⟨start, beginning⟩).on trail =
      outcome at known ⊢
    cases known with
    | made free => exact .step reflexive (single begins free)
    | there | missing | refused => exact .refl reflexive trail
  induction names generalizing trail with
  | nil => exact one trail [] (List.prefix_refl _)
  | cons name before induction =>
      have shorter : ∀ {beginning}, beginning <+: before.reverse →
          beginning <+: (name :: before).reverse := by
        intro beginning begins
        rw [List.reverse_cons]
        exact begins.trans (List.prefix_append _ _)
      have itself : ∀ trail, Trail.Continues relation trail
          ((ensureDirectory ⟨start, (name :: before).reverse⟩).on trail).2 :=
        fun trail => one trail _ (List.prefix_refl _)
      have first := itself trail
      rw [ensureDirectories_cons]
      generalize (ensureDirectory ⟨start, (name :: before).reverse⟩).on trail =
        made at first ⊢
      obtain ⟨outcome, after⟩ := made
      cases outcome with
      | ok => exact first
      | error failure =>
          obtain ⟨error, refused⟩ := failure
          cases error with
          | noEntry =>
              have parents := induction
                (fun begins free => single (shorter begins) free) after
                (fun trail beginning begins =>
                    one trail beginning (shorter begins))
              dsimp only
              generalize (ensureDirectories start before).on after = made
                at parents ⊢
              obtain ⟨outcome, reached⟩ := made
              have sofar := first.trans transitive parents
              cases outcome with
              | ok => exact sofar.trans transitive (itself reached)
              | error failure => exact sofar
          | _ => exact first

/--
Making a directory grows the file system towards it, however far it comes.
-/
theorem makeDirectories_continues
    (path : Path)
    (trail : Trail) :
    Trail.Continues (GrownTowards path) trail
      ((makeDirectories path).on trail).2 := by
  refine ensureDirectories_continues (GrownTowards.refl path)
    (fun _ _ _ left right => left.trans right) ?_ trail
  intro files beginning place begins free
  rw [List.reverse_reverse] at begins
  exact grownTowards_put begins free

/-- A directory that is there already is left as it is. -/
theorem makeDirectories_of_directory
    {path : Path}
    {trail : Trail}
    {mode : Nat}
    (there : trail.files.status path = .ok (.directory mode)) :
    (makeDirectories path).on trail = (.ok (), trail) := by
  have itself : (ensureDirectory path).on trail = (.ok (), trail) := by
    have known := ensured path trail
    generalize (ensureDirectory path).on trail = outcome at known ⊢
    cases known with
    | there => rfl
    | made free =>
        rw [status_of_nowhere (by rw [free]; trivial)] at there
        cases there
    | missing nowhere =>
        rw [status_of_nowhere (by rw [nowhere]; trivial)] at there
        cases there
    | refused _ noDirectory _ => exact absurd there (noDirectory mode)
  obtain ⟨start, names⟩ := path
  rw [makeDirectories]
  cases reversed : names.reverse with
  | nil =>
      rw [List.reverse_eq_nil_iff.mp reversed] at itself
      exact itself
  | cons name before =>
      rw [ensureDirectories_cons, ← reversed, List.reverse_reverse, itself]

theorem Ensured.isDirectory
    {path : Path}
    {trail after : Trail}
    (known : Ensured path trail (.ok (), after)) :
    ∃ mode, after.files.status path = .ok (.directory mode) := by
  cases known with
  | @made place free =>
      have nothing : trail.files.get? place = none :=
        get?_of_locate (by simp) free
      exact ⟨_, status_of_locate
        (locate_fill (extends_put nothing _) (get?_put_self nothing _)
          (by simp [NoLink]) free true)⟩
  | there held _ => exact ⟨_, held⟩

/-- What was made is a directory. -/
theorem makeDirectories_isDirectory
    {path : Path}
    {trail after : Trail}
    (done : (makeDirectories path).on trail = (.ok (), after)) :
    ∃ mode, after.files.status path = .ok (.directory mode) := by
  obtain ⟨start, names⟩ := path
  rw [makeDirectories] at done
  dsimp only at done
  cases reversed : names.reverse with
  | nil =>
      rw [reversed] at done
      rw [List.reverse_eq_nil_iff.mp reversed]
      have known := ensured ⟨start, []⟩ trail
      rw [ensureDirectories] at done
      rw [done] at known
      exact known.isDirectory
  | cons name before =>
      rw [reversed, ensureDirectories_cons, ← reversed, List.reverse_reverse]
        at done
      have known := ensured ⟨start, names⟩ trail
      generalize (ensureDirectory ⟨start, names⟩).on trail = first at known done
      cases known with
      | made free =>
          cases done
          exact (Ensured.made free).isDirectory
      | there held notMissing =>
          cases done
          exact ⟨_, held⟩
      | @refused error notMissing =>
          cases error with
          | noEntry => exact absurd rfl notMissing
          | _ => cases done
      | missing nowhere =>
          dsimp only at done
          generalize (ensureDirectories start before).on trail = ran at done
          obtain ⟨outcome, reached⟩ := ran
          cases outcome with
          | error failure => cases done
          | ok =>
              have last := ensured ⟨start, names⟩ reached
              dsimp only at done
              rw [done] at last
              exact last.isDirectory

/-! ## Well-formedness -/

theorem WellFormed.put
    {files : FileSystem}
    (wellFormed : files.WellFormed)
    {directory : Place}
    {name : Text}
    (nothing : files.get? (directory ++ [name]) = none)
    (here : files.HasDirectory directory)
    (entry : Entry) :
    (files.put (directory ++ [name]) entry).WellFormed := by
  have extends_ := extends_put nothing entry
  constructor
  · intro place last held found
    by_cases same : place ++ [last] = directory ++ [name]
    · rw [(List.append_inj' same rfl).1]
      exact extends_.hasDirectory here
    · rw [get?_put_of_ne nothing same] at found
      exact extends_.hasDirectory (wellFormed.parents place last held found)
  · intro place present
    exact extends_.hasDirectory (wellFormed.workDirectory place present)

/-- Making directories keeps a file system well-formed. -/
theorem ensureDirectories_wellFormed
    {start : PathStart}
    {names : List Text}
    {trail : Trail}
    {base : Place}
    (wellFormed : trail.files.WellFormed)
    (anchored : trail.files.Anchored start base) :
    ((ensureDirectories start names).on trail).2.files.WellFormed ∧
      ((ensureDirectories start names).on trail).2.files.Anchored
        start base := by
  have continues :
      Trail.Continues
        (fun before after => before.WellFormed → before.Anchored start base →
          after.WellFormed ∧ after.Anchored start base)
        trail ((ensureDirectories start names).on trail).2 := by
    refine ensureDirectories_continues
      (fun _ wellFormed anchored => ⟨wellFormed, anchored⟩)
      (fun _ _ _ left right wellFormed anchored =>
        right (left wellFormed anchored).1 (left wellFormed anchored).2) ?_
          trail
    intro files beginning place _ free wellFormed anchored
    have nothing : files.get? place = none := get?_of_locate (by simp) free
    obtain ⟨before, name, rfl, here⟩ :=
      parent_of_locate free wellFormed anchored
    exact ⟨wellFormed.put nothing here _, anchored.of_workDirectory rfl⟩
  exact continues.files wellFormed anchored

/-! ## New directories -/

/-- A path led nowhere before, and leads to an empty directory now. -/
structure MadeAnew
    (path : Path)
    (before after : FileSystem)
    (place : Place) :
    Prop where
  absent : LeadsNowhere (before.locate path false)
  leads : ∃ mode, after.locate path true = .ok ⟨place, some (.directory mode)⟩
  empty : ∀ name, after.get? (place ++ [name]) = none

/-- Nothing stands below a free place. -/
theorem WellFormed.get?_below_free
    {files : FileSystem}
    (wellFormed : files.WellFormed)
    {place : Place}
    (nothing : files.get? place = none)
    (name : Text) :
    files.get? (place ++ [name]) = none := by
  cases found : files.get? (place ++ [name]) with
  | none => rfl
  | some entry =>
      obtain ⟨mode, here⟩ := wellFormed.parents place name entry found
      rw [nothing] at here
      cases here

/-- A directory that is made where nothing is, is new. -/
theorem madeAnew_put
    {files before : FileSystem}
    {path : Path}
    {place : Place}
    (wellFormed : files.WellFormed)
    (absent : LeadsNowhere (before.locate path false))
    (free : files.locate path false = .ok ⟨place, none⟩) :
    MadeAnew path before (files.put place (.directory (files.masked 0o777)))
      place := by
  have nothing : files.get? place = none := get?_of_locate (by simp) free
  have there := get?_put_self nothing (.directory (files.masked 0o777))
  refine ⟨absent,
    ⟨_, locate_fill (extends_put nothing _) there (by simp [NoLink]) free true⟩,
    ?_⟩
  intro name
  rw [get?_put_of_ne nothing (by simp), wellFormed.get?_below_free nothing name]

/-- In a new directory there is only the directory itself. -/
theorem MadeAnew.child
    {before after earlier : FileSystem}
    {start : PathStart}
    {names : List Text}
    {name : Text}
    {place base : Place}
    {mode : Nat}
    (anew : MadeAnew ⟨start, names⟩ before after place)
    (anchored : after.Anchored start base)
    (notBack : name.stored ≠ "..")
    (absent : LeadsNowhere (earlier.locate ⟨start, names ++ [name]⟩ false))
    (there : after.status ⟨start, names ++ [name]⟩ = .ok (.directory mode)) :
    MadeAnew ⟨start, names ++ [name]⟩ earlier after place := by
  obtain ⟨parentMode, leads⟩ := anew.leads
  have here := hasDirectory_of_locate leads anchored
  obtain ⟨left, onward⟩ := lead_beyond leads anchored
  obtain ⟨goal, found⟩ := locate_of_status there
  have walked :
      after.walk true left place [name.stored] =
        .ok ⟨goal, some (.directory mode)⟩ := by
    rw [← found, (askable_of_locate_ok found).locate_eq, storedNames_append]
    exact (onward after true _ (Extends.refl after) (by simp)).symm
  refine ⟨absent, ⟨mode, ?_⟩, anew.empty⟩
  rw [← (walk_eq_iff.mp walked).place_eq_of_empty anew.empty notBack]
  exact found

/--
Making a directory, where no name leads back, either finds it there and changes
nothing, or leaves it new and empty.
-/
theorem ensureDirectories_anew
    {start : PathStart}
    {names : List Text}
    {trail after : Trail}
    {base : Place}
    (wellFormed : trail.files.WellFormed)
    (anchored : trail.files.Anchored start base)
    (noBack : ∀ name ∈ names, name.stored ≠ "..")
    (done : (ensureDirectories start names).on trail = (.ok (), after)) :
    after = trail ∨ ∃ place,
      MadeAnew ⟨start, names.reverse⟩ trail.files after.files place := by
  induction names generalizing after with
  | nil =>
      have known := ensured ⟨start, []⟩ trail
      rw [ensureDirectories] at done
      rw [done] at known
      cases known with
      | there => exact Or.inl rfl
      | made free =>
          exact Or.inr ⟨_, madeAnew_put wellFormed (free ▸ trivial) free⟩
  | cons name before induction =>
      rw [ensureDirectories_cons] at done
      have known := ensured ⟨start, (name :: before).reverse⟩ trail
      generalize (ensureDirectory ⟨start, (name :: before).reverse⟩).on trail =
        first at known done
      cases known with
      | made free =>
          cases done
          exact Or.inr ⟨_, madeAnew_put wellFormed (by rw [free]; trivial) free⟩
      | there =>
          cases done
          exact Or.inl rfl
      | @refused error notMissing =>
          cases error with
          | noEntry => exact absurd rfl notMissing
          | _ => cases done
      | missing nowhere =>
          have nowBefore : LeadsNowhere
              (trail.files.locate ⟨start, (name :: before).reverse⟩ false) := by
            rw [nowhere]
            trivial
          dsimp only at done
          have kept :=
            @ensureDirectories_wellFormed start before trail base
              wellFormed anchored
          have parents := @induction
          generalize (ensureDirectories start before).on trail = ran
            at done kept parents
          obtain ⟨outcome, reached⟩ := ran
          cases outcome with
          | error failure => cases done
          | ok =>
              have unchangedOrAnew :=
                parents (fun name member => noBack name (by simp [member])) rfl
              have last := ensured ⟨start, (name :: before).reverse⟩ reached
              dsimp only at done
              rw [done] at last
              cases last with
              | made free =>
                  exact Or.inr ⟨_, madeAnew_put kept.1 nowBefore free⟩
              | there held notMissing =>
                  rcases unchangedOrAnew with same | ⟨place, anew⟩
                  · rw [same] at notMissing
                    exact absurd nowhere notMissing
                  · rw [List.reverse_cons] at nowBefore held ⊢
                    exact Or.inr ⟨place,
                      anew.child kept.2 (noBack name (by simp)) nowBefore held⟩

/--
Making the directory of a path in which no name leads back either finds it there
and changes nothing, or leaves it new and empty.
-/
theorem makeDirectories_anew
    {path : Path}
    {trail after : Trail}
    {base : Place}
    (wellFormed : trail.files.WellFormed)
    (anchored : trail.files.Anchored path.start base)
    (noBack : ∀ name ∈ path.names, name.stored ≠ "..")
    (done : (makeDirectories path).on trail = (.ok (), after)) :
    after = trail ∨ ∃ place, MadeAnew path trail.files after.files place := by
  have anew := ensureDirectories_anew wellFormed anchored
    (fun name member => noBack name (List.mem_reverse.mp member)) done
  rwa [List.reverse_reverse] at anew

end FileSystem

end SettingsStore
