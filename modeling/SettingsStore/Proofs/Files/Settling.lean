import SettingsStore.Proofs.Files.Refusal
import SettingsStore.Proofs.Files.Visibility

/-!
# Making directories again

Making a directory a second time changes nothing, whether it was there in the
end or something was in the way: what stopped it the first time stops it again
before anything is made.  A directory that is no longer to be had, because a
file stands in its place or on the way to it, is not made anew either.
-/

namespace SettingsStore

namespace FileSystem

/-- Making a directory changes nothing. -/
def Settled (directory : Path) (files : FileSystem) : Prop :=
  ∀ earlier, ∃ outcome, (makeDirectories directory).on ⟨files, earlier⟩ =
    (outcome, ⟨files, earlier⟩)

/-- A path is taken if one with a name more is. -/
theorem Askable.of_child
    {path : Path}
    {name : Text}
    (askable : Askable (path.child name)) :
    Askable path := by
  by_cases none : path.names = []
  · obtain ⟨start, names⟩ := path
    dsimp only at none
    rw [none]
    cases start <;> exact ⟨_, rfl, by decide⟩
  · obtain ⟨octets, taken, short⟩ := askable
    rw [toText_child none] at taken
    obtain ⟨found, beginning, shorter⟩ := Text.systemOctets?_append taken
    exact ⟨found, beginning, Nat.le_trans shorter short⟩

theorem Askable.of_append
    {start : PathStart}
    {names more : List Text}
    (askable : Askable ⟨start, names ++ more⟩) :
    Askable ⟨start, names⟩ := by
  induction more generalizing names with
  | nil => rwa [List.append_nil] at askable
  | cons name more induction =>
      rw [← List.singleton_append, ← List.append_assoc] at askable
      exact @Askable.of_child ⟨start, names⟩ name (induction askable)

/-! ## One directory -/

/-- What was done before has no part in what making a directory comes to. -/
theorem ensureDirectory_fst
    (path : Path)
    (files : FileSystem)
    (earlier others : List FileSystem) :
    ((ensureDirectory path).on ⟨files, others⟩).1 =
      ((ensureDirectory path).on ⟨files, earlier⟩).1 := by
  cases made : files.makeDirectory path with
  | ok after =>
      have done :
          ∀ earlier : List FileSystem,
            ((ensureDirectory path).on ⟨files, earlier⟩).1 = .ok () := by
        intro earlier
        rw [ensureDirectory, Procedure.on_bind, Procedure.on_attempt,
          @Procedure.on_perform_of_ok _ (fun files => files.makeDirectory path)
            ⟨files, earlier⟩ after made]
        rfl
      rw [done, done]
  | error error =>
      by_cases missing : error = .noEntry
      · subst missing
        have failed : ∀ earlier : List FileSystem,
            ((ensureDirectory path).on ⟨files, earlier⟩).1 =
              .error (.noEntry, path) := by
          intro earlier
          rw [ensureDirectory, Procedure.on_bind, Procedure.on_attempt,
            @Procedure.on_perform_of_error _
              (fun files => files.makeDirectory path) ⟨files, earlier⟩
              .noEntry made]
          rfl
        rw [failed, failed]
      · rw [@ensureDirectory_of_refused path
            ⟨files, earlier⟩ error missing made,
          @ensureDirectory_of_refused path ⟨files, others⟩ error missing made]
        dsimp only
        cases files.status path with
        | ok entry => cases entry <;> rfl
        | error error => cases error <;> rfl

theorem ensureDirectory_of_error
    {path : Path}
    {trail after : Trail}
    {failure : PathFailure}
    (failed : (ensureDirectory path).on trail = (.error failure, after)) :
    after = trail ∧ failure.2 = path := by
  have known := ensured path trail
  rw [failed] at known
  cases known with
  | missing => exact ⟨rfl, rfl⟩
  | refused => exact ⟨rfl, rfl⟩

/-- A directory that was not made is not made the next time either. -/
theorem ensureDirectory_again
    {path : Path}
    {trail after : Trail}
    {failure : PathFailure}
    (failed : (ensureDirectory path).on trail = (.error failure, after))
    (earlier : List FileSystem) :
    (ensureDirectory path).on ⟨after.files, earlier⟩ =
      (.error failure, ⟨after.files, earlier⟩) := by
  obtain ⟨rfl, -⟩ := ensureDirectory_of_error failed
  have same := ensureDirectory_fst path after.files after.earlier earlier
  rw [failed] at same
  cases again : (ensureDirectory path).on ⟨after.files, earlier⟩ with
  | mk outcome reached =>
      rw [again] at same
      dsimp only at same
      subst same
      rw [(ensureDirectory_of_error again).1]

/-! ## With those on the way -/

/-- The directory before one that is there, or that could be made, is there. -/
theorem directory_before
    {files : FileSystem}
    {start : PathStart}
    {name : Text}
    {before : List Text}
    {followLast : Bool}
    {spot : Spot}
    (found :
      files.locate ⟨start, (name :: before).reverse⟩ followLast = .ok spot) :
    ∃ mode, files.status ⟨start, before.reverse⟩ = .ok (.directory mode) := by
  rw [List.reverse_cons] at found
  have located : Askable ⟨start, before.reverse⟩ :=
    @Askable.of_child ⟨start, before.reverse⟩ name (askable_of_locate_ok found)
  obtain ⟨place, mode, leads⟩ :=
    @locate_directory_of_child files
      ⟨start, before.reverse⟩ name _ _ located found
  exact ⟨mode, status_of_locate leads⟩

theorem ensureDirectories_of_directory
    {start : PathStart}
    {names : List Text}
    {trail : Trail}
    {mode : Nat}
    (there :
      trail.files.status ⟨start, names.reverse⟩ = .ok (.directory mode)) :
    (ensureDirectories start names).on trail = (.ok (), trail) := by
  have made := makeDirectories_of_directory there
  rwa [makeDirectories, List.reverse_reverse] at made

/-- Where the directories on the way cannot be made, nothing is made. -/
theorem ensureDirectories_blocked
    {start : PathStart}
    {name : Text}
    {before : List Text}
    {files : FileSystem}
    {earlier : List FileSystem}
    (blocked :
      ∃ refusal,
        (ensureDirectories start before).on ⟨files, earlier⟩ =
          (.error refusal, ⟨files, earlier⟩)) :
    ∃ refusal,
      (ensureDirectories start (name :: before)).on ⟨files, earlier⟩ =
        (.error refusal, ⟨files, earlier⟩) := by
  obtain ⟨refusal, blocked⟩ := blocked
  have noDirectory :
      ∀ mode, files.status ⟨start, before.reverse⟩ ≠ .ok (.directory mode) := by
    intro mode there
    rw [@ensureDirectories_of_directory start before
        ⟨files, earlier⟩ mode there] at blocked
    cases blocked
  rw [ensureDirectories_cons]
  have known := ensured ⟨start, (name :: before).reverse⟩ ⟨files, earlier⟩
  generalize (ensureDirectory ⟨start, (name :: before).reverse⟩).on
    ⟨files, earlier⟩ = first at known ⊢
  cases known with
  | made free =>
      obtain ⟨mode, there⟩ := directory_before free
      exact absurd there (noDirectory mode)
  | there held _ =>
      obtain ⟨place, found⟩ := locate_of_status held
      obtain ⟨mode, there⟩ := directory_before found
      exact absurd there (noDirectory mode)
  | missing =>
      dsimp only
      rw [blocked]
      exact ⟨refusal, rfl⟩
  | @refused error notMissing =>
      cases error with
      | noEntry => exact absurd rfl notMissing
      | _ => exact ⟨_, rfl⟩

/--
A directory that was not made although those on the way were there is not made
the next time.
-/
theorem ensureDirectories_of_last
    {start : PathStart}
    {name : Text}
    {before : List Text}
    {made after : Trail}
    {mode : Nat}
    {failure : PathFailure}
    (there : made.files.status ⟨start, before.reverse⟩ = .ok (.directory mode))
    (failed :
      (ensureDirectory ⟨start, (name :: before).reverse⟩).on made =
        (.error failure, after))
    (earlier : List FileSystem) :
    (ensureDirectories start (name :: before)).on ⟨after.files, earlier⟩ =
      (.error failure, ⟨after.files, earlier⟩) := by
  have again := ensureDirectory_again failed earlier
  obtain ⟨rfl, -⟩ := ensureDirectory_of_error failed
  obtain ⟨error, refused⟩ := failure
  rw [ensureDirectories_cons, again]
  cases error with
  | noEntry =>
      dsimp only
      rw [@ensureDirectories_of_directory start before
          ⟨after.files, earlier⟩ mode there]
      exact again
  | _ => rfl

/--
Directories that were not made to the end are not made any further the next
time.
-/
theorem ensureDirectories_again
    {start : PathStart}
    {names : List Text}
    {trail after : Trail}
    {failure : PathFailure}
    (failed :
      (ensureDirectories start names).on trail = (.error failure, after))
    (earlier : List FileSystem) :
    ∃ refusal,
      (ensureDirectories start names).on ⟨after.files, earlier⟩ =
        (.error refusal, ⟨after.files, earlier⟩) := by
  induction names generalizing trail after failure with
  | nil => exact ⟨failure, ensureDirectory_again failed earlier⟩
  | cons name before induction =>
      rw [ensureDirectories_cons] at failed
      cases first :
        (ensureDirectory ⟨start, (name :: before).reverse⟩).on trail with
      | mk outcome reached =>
          rw [first] at failed
          cases outcome with
          | ok => cases failed
          | error refusal =>
              obtain ⟨error, refused⟩ := refusal
              cases error with
              | noEntry =>
                  dsimp only at failed
                  cases parents :
                    (ensureDirectories start before).on reached with
                  | mk outcome made =>
                      rw [parents] at failed
                      cases outcome with
                      | error failure =>
                          cases failed
                          exact ensureDirectories_blocked (induction parents)
                      | ok =>
                          have done :
                              (makeDirectories ⟨start, before.reverse⟩).on
                                reached = (.ok (), made) := by
                            rw [makeDirectories, List.reverse_reverse]
                            exact parents
                          obtain ⟨mode, there⟩ :=
                            makeDirectories_isDirectory done
                          exact ⟨failure,
                            ensureDirectories_of_last there failed earlier⟩
              | _ =>
                  cases failed
                  have again := ensureDirectory_again first earlier
                  rw [ensureDirectories_cons, again]
                  exact ⟨_, rfl⟩

/-! ## What settles a directory -/

/--
Once a directory was made, as far as that went, making it changes nothing.
-/
theorem settled_made
    (directory : Path)
    (trail : Trail) :
    Settled directory ((makeDirectories directory).on trail).2.files := by
  intro earlier
  cases ran : (makeDirectories directory).on trail with
  | mk outcome made =>
      cases outcome with
      | ok =>
          obtain ⟨mode, there⟩ := makeDirectories_isDirectory ran
          exact ⟨.ok (), @makeDirectories_of_directory directory
              ⟨made.files, earlier⟩ mode there⟩
      | error failure =>
          obtain ⟨refusal, again⟩ := ensureDirectories_again ran earlier
          exact ⟨.error refusal, again⟩

theorem settled_of_directory
    {directory : Path}
    {files : FileSystem}
    {place : Place}
    {mode : Nat}
    (leads :
      files.locate directory true = .ok ⟨place, some (.directory mode)⟩) :
    Settled directory files :=
  fun earlier =>
    ⟨.ok (), @makeDirectories_of_directory directory ⟨files, earlier⟩ mode
      (status_of_locate leads)⟩

/-- A directory in whose way a file stands is not made. -/
theorem settled_of_stopsAtFile
    {directory : Path}
    {files : FileSystem}
    (stops : StopsAtFile (files.locate directory true)) :
    Settled directory files := by
  intro earlier
  have notNowhere : ¬ LeadsNowhere (files.locate directory false) := by
    intro nowhere
    have missing := status_of_nowhere nowhere
    rw [status] at missing
    cases found : files.locate directory true with
    | error error =>
        rw [found] at missing stops
        cases missing
        exact stops
    | ok spot =>
        obtain ⟨place, entry⟩ := spot
        rw [found] at missing stops
        cases entry with
        | none => exact stops
        | some entry => cases missing
  have itself : ∃ outcome,
      (ensureDirectory directory).on ⟨files, earlier⟩ =
        (outcome, ⟨files, earlier⟩) ∧
        ∀ refused, outcome ≠ .error (.noEntry, refused) := by
    have known := ensured directory ⟨files, earlier⟩
    generalize (ensureDirectory directory).on ⟨files, earlier⟩ =
      result at known ⊢
    cases known with
    | made free => exact absurd (by rw [free]; trivial) notNowhere
    | missing nowhere => exact absurd (by rw [nowhere]; trivial) notNowhere
    | there => exact ⟨_, rfl, by simp⟩
    | refused notMissing => exact ⟨_, rfl, by simp [notMissing]⟩
  obtain ⟨outcome, itself, notMissing⟩ := itself
  refine ⟨outcome, ?_⟩
  obtain ⟨start, names⟩ := directory
  rw [makeDirectories]
  dsimp only
  cases reversed : names.reverse with
  | nil =>
      rw [List.reverse_eq_nil_iff.mp reversed] at itself
      exact itself
  | cons name before =>
      rw [ensureDirectories_cons, ← reversed, List.reverse_reverse, itself]
      cases outcome with
      | ok => rfl
      | error failure =>
          obtain ⟨error, refused⟩ := failure
          cases error with
          | noEntry => exact absurd rfl (notMissing refused)
          | _ => rfl

end FileSystem

end SettingsStore
