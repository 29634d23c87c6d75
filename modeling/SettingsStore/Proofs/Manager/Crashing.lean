import SettingsStore.Proofs.Files.Visibility
import SettingsStore.Proofs.Manager.Saving

/-!
# Saves that are cut short

A crash between two operations of a save leaves one of the file systems that the
save passes.  In all of them but the last one the session is read as before the
save: the directories that are made on the way are not noticed under its name,
and neither is the temporary file.  The last operation of a save that succeeds
shows the new session at once and whole.
-/

namespace SettingsStore

namespace FileSystem

theorem stored_ne_back
    {names : List Text}
    (noBack : Text.ofString ".." ∉ names) :
    ∀ name ∈ names, name.stored ≠ ".." := by
  intro name member back
  rw [Text.eq_back_of_stored back] at member
  exact noBack member

section

variable {files : FileSystem} {directory : Path}
variable (wellFormed : files.WellFormed)
variable (noBack : Text.ofString ".." ∉ directory.names)
variable (unmentioned : ∀ number, files.Unmentioned (temporarySession number))

include wellFormed noBack

/-- Directories that were made are not noticed under the name of the session. -/
theorem unnoticed_of_made
    {outcome : Except PathFailure Unit}
    {made : Trail}
    (ran : (makeDirectories directory).on ⟨files, []⟩ = (outcome, made)) :
    made.files.WellFormed ∧
      Unnoticed directory "session.json" files made.files ∧
      ∀ during ∈ made.earlier,
        Unnoticed directory "session.json" files during := by
  have continues :=
    @makeDirectories_unnoticed directory "session.json" ⟨files, []⟩
      (stored_ne_back noBack) plain_session
  rw [ran] at continues
  obtain ⟨now, passed, equal, before⟩ := continues
  obtain ⟨wellFormedMade, unnoticed⟩ := now wellFormed
  refine ⟨wellFormedMade, unnoticed, ?_⟩
  intro during member
  rw [equal, List.append_nil] at member
  exact (before during member wellFormed).2

/-- A replacement that fails is not noticed under the name of the session. -/
theorem unnoticed_of_replaceFile_error
    {content : ByteArray}
    {error : FileError}
    {after : Trail}
    (failed :
      (replaceFile (directory.child "session.json") content).on ⟨files, []⟩ =
        (.error error, after)) :
    Unnoticed directory "session.json" files after.files := by
  have left := replaceFile_of_error failed
  rw [parent_child] at left
  rw [left]
  exact (unnoticed_of_made wellFormed noBack (Prod.eta _).symm).2.1

include unmentioned

/--
Up to its last operation a replacement is not noticed under the name of the
session.
-/
theorem PassedBy.unnoticed
    {during : FileSystem}
    (passed : PassedBy (directory.child "session.json") ⟨files, []⟩ during) :
    Unnoticed directory "session.json" files during := by
  cases passed with
  | makingDirectories passed =>
      rw [parent_child] at passed
      exact (unnoticed_of_made wellFormed noBack (Prod.eta _).symm).2.2
        during passed
  | madeDirectories done =>
      rw [parent_child] at done
      exact (unnoticed_of_made wellFormed noBack done).2.1
  | @holdingTemporary made root number origin _ done fromRoot holds =>
      rw [parent_child] at done fromRoot
      obtain ⟨wellFormedMade, unnoticed, -⟩ :=
        unnoticed_of_made wellFormed noBack done
      obtain ⟨absolute, base, anchored⟩ := start_of_fromRoot? fromRoot
      obtain ⟨mode, held⟩ := makeDirectories_isDirectory done
      obtain ⟨place, leads⟩ := locate_of_status held
      have grown := (makeDirectories_continues directory ⟨files, []⟩).files
      rw [done] at grown
      exact unnoticed.trans
        (HoldsTemporary.unnoticed leads anchored holds wellFormedMade
        (holds.getLast? absolute) (grown.unmentioned (unmentioned number))
        (session_ne_temporarySession number))

end

/--
The new session is read whole, or the way to its directory ends at the file that
replaced a link.
-/
theorem SessionReplaced.reading
    {directory : Path}
    {content : ByteArray}
    {mode : Nat}
    {place base : Place}
    {before after : FileSystem}
    (replaced : SessionReplaced directory content mode place before after)
    (anchored : before.Anchored directory.start base)
    (askable : Askable (directory.child "session.json")) :
    (after.contentOf (directory.child "session.json") = .ok content ∨
        after.contentOf (directory.child "session.json") =
          .error .notDirectory) ∧
      (before.ClearOfChild directory "session.json" ↔
        after.contentOf (directory.child "session.json") = .ok content) := by
  obtain ⟨placeMode, leads⟩ := replaced.leads
  have found : before.ClearOfChild directory "session.json" →
      after.contentOf (directory.child "session.json") = .ok content := by
    intro clear
    have located :=
      locate_followed (by simp [NoLink])
        (replaced.locate anchored askable clear).2
    rw [contentOf, status, located]
  refine ⟨?_, found, ?_⟩
  · have onward := anchored.of_workDirectory replaced.same.workDirectory
    rcases locate_after_file replaced.noDirectory replaced.there replaced.same
      leads with still | stops
    · exact Or.inl
        (found
          (replaced.clear (locate_child still onward plain_session askable)))
    · exact Or.inr (contentOf_of_error
        (locate_child_of_stopsAtFile onward
          (askable_of_locate_ok leads) askable stops true))
  · intro read
    rw [contentOf, status] at read
    cases located : after.locate (directory.child "session.json") true with
    | error error =>
        rw [located] at read
        cases read
    | ok spot => exact replaced.clear located

end FileSystem

namespace Manager

open FileSystem

/--
At every point between two operations of a save, and after one that fails, the
session is read as before, and nothing else that was there has changed; the
exception is a name on the way that is too long.  After a save that succeeds
nothing else has changed either, and the session is read as the new one, unless
the way to its directory led through the link that the save replaced.
-/
theorem save_crashConsistent
    (manager : Manager)
    (files : FileSystem)
    (directory : Path)
    (kept : manager.paths.machineData = some directory)
    (wellFormed : files.WellFormed)
    (noBack : Text.ofString ".." ∉ directory.names)
    (unmentioned : ∀ number, files.Unmentioned (temporarySession number)) :
    (∀ during ∈ (manager.save files).trail.earlier,
      Unnoticed directory "session.json" files during) ∧
      match (manager.save files).result with
      | .error _ =>
          Unnoticed directory "session.json" files (manager.save files).files
      | .ok () =>
        ∃ content made place mode,
          sessionContent manager.codec manager.session = .ok content ∧
            Unnoticed directory "session.json" files made ∧
              SessionReplaced directory content mode place made
                (manager.save files).files ∧
                ((manager.save files).files.contentOf
                    (directory.child "session.json") = .ok content ∨
                  (manager.save files).files.contentOf
                    (directory.child "session.json") =
                    .error .notDirectory) ∧
                  (files.ClearOfChild directory "session.json" ↔
                    (manager.save files).files.contentOf
                      (directory.child "session.json") =
                      .ok content) := by
  have known := saved kept files
  generalize manager.save files = outcome at known ⊢
  cases known with
  | unwritable => exact ⟨by simp, .refl files⟩
  | @refused content error detail after written failed =>
      have passes :=
        replaceFile_passes (directory.child "session.json") content ⟨files, []⟩
      rw [failed] at passes
      constructor
      · intro during passed
        exact (passes during passed).unnoticed wellFormed noBack unmentioned
      · exact unnoticed_of_replaceFile_error wellFormed noBack failed
  | @replaced content after events written done =>
      have passes :=
        replaceFile_passes (directory.child "session.json") content ⟨files, []⟩
      rw [done] at passes
      obtain ⟨made, place, base, mode, ran, anchored, replaced, askable, -⟩ :=
        replaceFile_session done
      have grown := (makeDirectories_continues directory ⟨files, []⟩).files
      rw [ran] at grown
      have anchoredBefore : files.Anchored directory.start base :=
        anchored.of_workDirectory grown.workDirectory.symm
      obtain ⟨-, clearMade⟩ :=
        makeDirectories_session wellFormed anchoredBefore noBack ran
      obtain ⟨whole, clear⟩ := replaced.reading anchored askable
      constructor
      · intro during passed
        exact (passes during passed).unnoticed wellFormed noBack unmentioned
      · exact ⟨content, made.files, place, mode, written,
          (unnoticed_of_made wellFormed noBack ran).2.1, replaced, whole,
          clearMade.trans clear⟩

/-- A directory whose last name is too long, below one that is not there. -/
def tooLong : Path :=
  ⟨.root, ["x", List.replicate 256 (CodePoint.ofNat 0x6E)]⟩

/--
A save is noticed in three ways: a directory is made and then a name in it is
too long, the link that the save replaces was on the way, or the name of the
session is a link to the temporary file.
-/
theorem save_noticed :
    (let files : FileSystem := ⟨[], .present [], 0o022⟩
      let session := tooLong.child "session.json"
      files.contentOf session = .error .noEntry ∧
        ((keeping tooLong).save files).result.isOk = false ∧
          ((keeping tooLong).save files).files.contentOf session =
            .error .nameTooLong) ∧
      (let session := (Path.ofText "/x/session.json").child "session.json"
        let outcome :=
          (keeping (Path.ofText "/x/session.json")).save selfHolding
        selfHolding.contentOf session = .error .isDirectory ∧
          outcome.result.isOk = true ∧
          outcome.files.contentOf session = .error .notDirectory) ∧
        (let files : FileSystem :=
            ⟨[(["x"], .directory 0o755),
              (sessionPlace ["x"], .link ".session.00000000.tmp")],
              .present [], 0o022⟩
          let session := (Path.ofText "/x").child "session.json"
          let outcome := (keeping (Path.ofText "/x")).save files
          files.contentOf session = .error .noEntry ∧
            ∃ during ∈ outcome.trail.earlier,
              during.contentOf session = .ok ByteArray.empty) := by
  refine ⟨?_, ?_, ?_⟩
  · decide +kernel
  · decide +kernel
  · decide +kernel

theorem save_crashConsistent_selfHolding :
    selfHolding.WellFormed ∧
      ∀ during ∈ ((keeping (Path.ofText "/x")).save selfHolding).trail.earlier,
        Unnoticed (Path.ofText "/x") "session.json" selfHolding during :=
  ⟨selfHolding_wellFormed,
    (save_crashConsistent (keeping (Path.ofText "/x")) selfHolding
        (Path.ofText "/x") rfl
        selfHolding_wellFormed (by decide) selfHolding_unmentioned).1⟩

end Manager

end SettingsStore
