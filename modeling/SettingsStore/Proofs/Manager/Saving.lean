import SettingsStore.Proofs.Files.Children

/-!
# Saving is all or nothing

A save that fails leaves every entry that was there and no temporary file; at
most directories on the way to the data directory were added.  A save that
succeeds also puts the text of the session under its name in the data directory,
with the permission bits of what that name led to before.  The name leads to
what was put there unless the way to the data directory goes through a link of
that name, which the save replaces.
-/

namespace SettingsStore

namespace FileSystem

/-! ## The names of temporary files -/

/-- The name of a temporary file beside a session. -/
def temporarySession (number : Nat) : Text :=
  temporaryName ".session." ".tmp" number

theorem temporarySession_eq (number : Nat) :
    ∃ characters, temporarySession number =
      Text.ofChars ('.' :: 's' :: characters) := by
  refine ⟨"ession.".toList ++
      (List.replicate (8 - (Nat.toDigits 10 number).length) '0' ++
    Nat.toDigits 10 number) ++ ".tmp".toList, ?_⟩
  simp [temporarySession, temporaryName, Text.ofString, Text.ofChars]

theorem stored_temporarySession (number : Nat) :
    (temporarySession number).stored = temporarySession number := by
  obtain ⟨characters, equal⟩ := temporarySession_eq number
  rw [equal, Text.stored_ofChars]

theorem temporarySession_ne_dots (number : Nat) :
    temporarySession number ≠ "." ∧ temporarySession number ≠ ".." := by
  obtain ⟨characters, equal⟩ := temporarySession_eq number
  rw [equal]
  constructor
  · intro same
    have seconds := congrArg (fun text : Text => text[1]?) same
    revert seconds
    simp [Text.ofChars, Text.ofString]
  · intro same
    have seconds := congrArg (fun text : Text => text[1]?) same
    revert seconds
    simp only [Text.ofChars, Text.ofString, List.map_cons,
      List.getElem?_cons_succ, List.getElem?_cons_zero]
    decide

theorem plain_session : Plain (Text.stored "session.json") := by
  rw [Text.stored_ofString]
  refine ⟨?_, ?_, ?_⟩ <;> decide

theorem session_ne_temporarySession (number : Nat) :
    Text.stored "session.json" ≠ temporarySession number := by
  obtain ⟨characters, equal⟩ := temporarySession_eq number
  rw [Text.stored_ofString, equal]
  intro same
  have heads := congrArg List.head? same
  revert heads
  simp only [Text.ofChars, List.map_cons, List.head?_cons]
  decide

/-! ## Where a temporary file stands -/

/-- A path from the root leads to a place of its last name. -/
theorem getLast?_of_locate
    {files : FileSystem}
    {path : Path}
    {name : Text}
    {spot : Spot}
    (absolute : path.start ≠ .relative)
    (notHere : name.stored ≠ ".")
    (notBack : name.stored ≠ "..")
    (found : files.locate (path.child name) false = .ok spot) :
    spot.place.getLast? = some name.stored := by
  have askable := askable_of_locate_ok found
  rw [askable.locate_eq, Path.child, storedNames_append, lead, if_pos absolute]
    at found
  exact (walk_eq_iff.mp found).getLast?_place rfl notHere notBack rfl

theorem start_of_fromRoot?
    {files : FileSystem}
    {path directory : Path}
    (fromRoot : files.fromRoot? path = some directory) :
    directory.start ≠ .relative ∧ ∃ base, files.Anchored path.start base := by
  rw [fromRoot?] at fromRoot
  split at fromRoot
  · rename_i absolute
    cases fromRoot
    have start : path.start ≠ .relative := by
      simpa [Path.isAbsolute] using absolute
    exact ⟨start, [], Or.inl ⟨start, rfl⟩⟩
  · rename_i relative
    have start : path.start = .relative := by
      simpa [Path.isAbsolute] using relative
    split at fromRoot
    · rename_i place present
      cases fromRoot
      refine ⟨?_, place, Or.inr ⟨start, present⟩⟩
      simp [Path.join, Path.isAbsolute, start]
    · cases fromRoot

theorem HoldsTemporary.getLast?
    {directory : Path}
    {number : Nat}
    {origin : Place}
    {before after : FileSystem}
    (holds :
      HoldsTemporary (temporaryPath directory number) origin before after)
    (absolute : directory.start ≠ .relative) :
    origin.getLast? = some (temporarySession number) := by
  obtain ⟨notHere, notBack⟩ := temporarySession_ne_dots number
  rw [← stored_temporarySession] at notHere notBack ⊢
  exact @getLast?_of_locate before directory.normalize _ _ absolute notHere
    notBack holds.free

/-! ## The session in its directory -/

/-- The place of the session in a directory. -/
abbrev sessionPlace (directory : Place) : Place :=
  directory ++ [Text.ofString "session.json"]

/--
The session stands in the directory to which a path leads, in place of what was
no directory, and nothing else has changed.
-/
structure SessionReplaced
    (directory : Path)
    (content : ByteArray)
    (mode : Nat)
    (place : Place)
    (before after : FileSystem) :
    Prop where
  leads :
    ∃ mode, before.locate directory true = .ok ⟨place, some (.directory mode)⟩
  noDirectory :
    ∀ mode, before.get? (sessionPlace place) ≠ some (.directory mode)
  there : after.get? (sessionPlace place) = some (.file content mode)
  same : SameExcept [sessionPlace place] before after

/-- The mode of what a save replaces is not that of its temporary file. -/
theorem HoldsTemporary.targetMode_session
    {directory root : Path}
    {number : Nat}
    {origin place base : Place}
    {mode : Nat}
    {made during : FileSystem}
    (holds : HoldsTemporary (temporaryPath root number) origin made during)
    (absolute : root.start ≠ .relative)
    (leads : made.locate directory true = .ok ⟨place, some (.directory mode)⟩)
    (anchored : made.Anchored directory.start base)
    (wellFormed : made.WellFormed)
    (unmentioned : ∀ number, made.Unmentioned (temporarySession number)) :
    targetMode during (directory.child "session.json") =
      targetMode made (directory.child "session.json") := by
  have located := HoldsTemporary.locate_child leads anchored holds wellFormed
    (holds.getLast? absolute) (unmentioned number)
      (session_ne_temporarySession number) true
  have same : during.status (directory.child "session.json") =
      made.status (directory.child "session.json") := by
    rw [status, status, located]
  rw [targetMode, targetMode, modeOf, modeOf, same, masked, masked,
    holds.same.umask]

/--
What a successful replacement has done.  The mode is that of what the name led
to while the temporary file was there.
-/
theorem replaceFile_asked
    {directory : Path}
    {content : ByteArray}
    {trail after : Trail}
    (done :
      (replaceFile (directory.child "session.json") content).on trail =
        (.ok (), after)) :
    ∃ (made : Trail) (place base : Place) (mode : Nat),
      (makeDirectories directory).on trail = (.ok (), made) ∧
        made.files.Anchored directory.start base ∧
          SessionReplaced directory content mode place made.files after.files ∧
            Askable (directory.child "session.json") ∧
              ∃ root number origin during,
                root.start ≠ .relative ∧
                  HoldsTemporary (temporaryPath root number) origin
                    made.files during ∧
                    targetMode during (directory.child "session.json") =
                      .ok mode := by
  have known := replacement (directory.child "session.json") content trail
  rw [done] at known
  cases known with
  | @replaced made _ root number origin made_ fromRoot filled =>
      rw [parent_child] at made_ fromRoot
      obtain ⟨absolute, base, anchored⟩ := start_of_fromRoot? fromRoot
      obtain ⟨placeMode, held⟩ := makeDirectories_isDirectory made_
      obtain ⟨place, leads⟩ := locate_of_status held
      cases filled with
      | @replaced filled ready _ goal entry mode whileAsked asked whileMoved
        target noDirectory there same =>
          have askable := askable_of_locate_ok target
          have child := locate_child (locate_extend whileMoved.extends_ leads)
            (anchored.of_workDirectory whileMoved.same.workDirectory)
              plain_session askable
          rw [target] at child
          simp only [Except.ok.injEq, Spot.mk.injEq] at child
          obtain ⟨rfl, rfl⟩ := child
          rw [Text.stored_ofString] at there same noDirectory
          refine ⟨made, place, base, mode, made_, anchored,
            ⟨⟨placeMode, leads⟩, ?_, there, same⟩, askable,
            root, number, origin, filled, absolute, whileAsked, asked⟩
          intro mode directory_
          exact noDirectory mode (whileMoved.extends_.kept _ _ directory_)

/--
What a successful replacement has done, where no link mentions the name of a
temporary file.
-/
theorem replaceFile_session
    {directory : Path}
    {content : ByteArray}
    {trail after : Trail}
    (done :
      (replaceFile (directory.child "session.json") content).on trail =
        (.ok (), after)) :
    ∃ (made : Trail) (place base : Place) (mode : Nat),
      (makeDirectories directory).on trail = (.ok (), made) ∧
        made.files.Anchored directory.start base ∧
          SessionReplaced directory content mode place made.files after.files ∧
            Askable (directory.child "session.json") ∧
              (made.files.WellFormed →
                (∀ number, made.files.Unmentioned (temporarySession number)) →
                  targetMode made.files (directory.child "session.json") =
                    .ok mode) := by
  obtain ⟨made, place, base, mode, made_, anchored, replaced, askable, root,
    number, origin, during, absolute,
    holds, asked⟩ := replaceFile_asked done
  refine ⟨made, place, base, mode, made_, anchored, replaced, askable, ?_⟩
  intro wellFormed unmentioned
  obtain ⟨_, leads⟩ := replaced.leads
  rw [← asked]
  exact (holds.targetMode_session absolute leads anchored wellFormed
      unmentioned).symm

/--
The name of the session leads to what replaced it, if the way to its directory
is clear of it.
-/
theorem SessionReplaced.locate
    {directory : Path}
    {content : ByteArray}
    {mode : Nat}
    {place base : Place}
    {before after : FileSystem}
    (replaced : SessionReplaced directory content mode place before after)
    (anchored : before.Anchored directory.start base)
    (askable : Askable (directory.child "session.json"))
    (clear : before.ClearOfChild directory "session.json") :
    (∃ mode, after.locate directory true =
        .ok ⟨place, some (.directory mode)⟩) ∧
      after.locate (directory.child "session.json") false =
        .ok ⟨sessionPlace place, some (.file content mode)⟩ := by
  obtain ⟨placeMode, leads⟩ := replaced.leads
  have stored := Text.stored_ofString "session.json"
  have still :
      after.locate directory true =
        .ok ⟨place, some (.directory placeMode)⟩ := by
    refine locate_directory_of_replaced leads ?_ clear ?_
    · rw [stored]
      exact replaced.noDirectory
    · rw [stored]
      exact replaced.same
  refine ⟨⟨placeMode, still⟩, ?_⟩
  rw [locate_child still (anchored.of_workDirectory replaced.same.workDirectory)
      plain_session askable,
    stored, replaced.there]

/--
The way to the directory of a session that is found under its name does not need
what stood there.
-/
theorem SessionReplaced.clear
    {directory : Path}
    {content : ByteArray}
    {mode : Nat}
    {place : Place}
    {before after : FileSystem}
    {followLast : Bool}
    {spot : Spot}
    (replaced : SessionReplaced directory content mode place before after)
    (found :
      after.locate (directory.child "session.json") followLast = .ok spot) :
    before.ClearOfChild directory "session.json" := by
  intro other otherMode target leads _
  obtain ⟨_, here⟩ := replaced.leads
  rw [here] at leads
  cases leads
  rw [Text.stored_ofString]
  obtain ⟨goal, mode, still⟩ :=
    locate_directory_of_child (askable_of_locate_ok here) found
  have without :
      SameExcept [sessionPlace place] after
        (before.erase (sessionPlace place)) :=
    replaced.same.symm.trans (sameExcept_erase before (sessionPlace place))
  exact isDirectory_iff.mpr
    ⟨mode, status_of_locate (locate_without_file replaced.there without still)⟩

/-- A replacement that fails leaves what making the directories left. -/
theorem replaceFile_of_error
    {path : Path}
    {content : ByteArray}
    {trail after : Trail}
    {error : FileError}
    (failed : (replaceFile path content).on trail = (.error error, after)) :
    after.files = ((makeDirectories path.parent).on trail).2.files := by
  have known := replacement path content trail
  rw [failed] at known
  cases known with
  | blocked unmade => rw [unmade]
  | adrift done _ => rw [done]
  | noTemporary done _ _ => rw [done]
  | refused done _ _ _ restored => rw [done, restored]

/-! ## Before and after the directories were made -/

/-- Making directories makes no links. -/
theorem GrownTowards.unmentioned
    {path : Path}
    {before after : FileSystem}
    (grown : GrownTowards path before after)
    {name : Text}
    (unmentioned : before.Unmentioned name) :
    after.Unmentioned name := by
  intro place target there
  cases held : before.get? place with
  | none =>
      obtain ⟨made, _⟩ := grown.added place _ held there
      cases made
  | some entry =>
      rw [grown.kept place entry held] at there
      cases there
      exact unmentioned place target held

/--
What the name of the session led to, its mode and the way to its directory are
the same before and after.
-/
theorem makeDirectories_session
    {directory : Path}
    {trail made : Trail}
    {base : Place}
    (wellFormed : trail.files.WellFormed)
    (anchored : trail.files.Anchored directory.start base)
    (noBack : Text.ofString ".." ∉ directory.names)
    (done : (makeDirectories directory).on trail = (.ok (), made)) :
    targetMode made.files (directory.child "session.json") =
        targetMode trail.files (directory.child "session.json") ∧
      (trail.files.ClearOfChild directory "session.json" ↔
        made.files.ClearOfChild directory "session.json") := by
  have grown := (makeDirectories_continues directory trail).files
  rw [done] at grown
  have back : ∀ name ∈ directory.names, name.stored ≠ ".." := by
    intro name member back
    rw [Text.eq_back_of_stored back] at member
    exact noBack member
  rcases makeDirectories_anew wellFormed anchored back done with
    rfl | ⟨place, anew⟩
  · exact ⟨rfl, Iff.rfl⟩
  · have same := anew.status_child grown.workDirectory anchored plain_session
    have nowhere := status_of_nowhere anew.absent
    have clearBefore : trail.files.ClearOfChild directory "session.json" := by
      intro other mode target leads _
      rw [status_of_locate leads] at nowhere
      cases nowhere
    refine ⟨?_, fun _ => anew.clearOfChild _, fun _ => clearBefore⟩
    rw [targetMode, targetMode, modeOf, modeOf, same, masked, masked,
      grown.umask]

end FileSystem

/-! ## The save -/

/--
The content that a save writes is the document of the session, one item a line,
and a line end.
-/
theorem sessionContent_eq_ok
    {codec : RecordCodec}
    {session : Session}
    {content : ByteArray}
    (written : sessionContent codec session = .ok content) :
    ∃ document,
      session.toJson codec = .ok document ∧ document.hasHugeInteger = false ∧
        content =
          ⟨(Utf8.encode (Json.render .indented document ++
            ['\n'])).toArray⟩ := by
  rw [sessionContent] at written
  split at written
  · cases written
  · cases written
  · cases written
  · cases written
  · rename_i document encoded
    split at written
    · cases written
    · rename_i small
      cases written
      exact ⟨document, encoded, by simpa using small, rfl⟩

theorem targetMode_eq_ok
    {files : FileSystem}
    {path : Path}
    {mode : Nat}
    (found : targetMode files path = .ok mode) :
    files.modeOf path = .ok mode ∨
      (files.modeOf path = .error .noEntry ∧ mode = files.masked 0o666) := by
  rw [targetMode] at found
  split at found
  · rename_i mode held
    cases found
    exact Or.inl held
  · rename_i nowhere
    cases found
    exact Or.inr ⟨nowhere, rfl⟩
  · cases found

namespace Manager

open FileSystem

/-- A save puts the session into words and then replaces its file. -/
theorem save_eq
    {manager : Manager}
    {directory : Path}
    (known : manager.paths.machineData = some directory)
    (files : FileSystem) :
    manager.save files =
      match sessionContent manager.codec manager.session with
      | .error fault => ⟨.error fault, manager, ⟨files, []⟩, []⟩
      | .ok content =>
        match (replaceFile (directory.child "session.json") content).on
          ⟨files, []⟩ with
        | (.error error, after) =>
          ⟨.error
              (.ofFileError error ("cannot write " ++
                (directory.child "session.json").toText)), manager,
            after, []⟩
        | (.ok (), after) =>
          ⟨.ok (), manager, after,
            [managerEvent .debug ("session saved: " ++
                (directory.child "session.json").toText ++ " (" ++
              toString manager.session.notebooks.length ++
                " notebooks)")]⟩ := by
  have path :
      manager.paths.session = some (directory.child "session.json") := by
    rw [ResolvedPaths.session, known]
    rfl
  rw [save, path]
  dsimp only
  cases sessionContent manager.codec manager.session with
  | error fault => rfl
  | ok content =>
      dsimp only
      rw [Procedure.runOn_eq]
      generalize (replaceFile (directory.child "session.json") content).on
        ⟨files, []⟩ = ran
      obtain ⟨outcome, after⟩ := ran
      cases outcome <;> rfl

/-- What a save comes to where the data directory is known. -/
inductive Saved
    (manager : Manager)
    (directory : Path)
    (files : FileSystem) :
    Outcome → Prop where
  | unwritable {fault : Fault}
      (unwritten :
        sessionContent manager.codec manager.session = .error fault) :
      Saved manager directory files ⟨.error fault, manager, ⟨files, []⟩, []⟩
  | refused {content : ByteArray} {error : FileError} {detail : Text}
    {after : Trail}
      (written : sessionContent manager.codec manager.session = .ok content)
      (failed :
        (replaceFile (directory.child "session.json") content).on ⟨files, []⟩ =
          (.error error, after)) :
      Saved manager directory files
        ⟨.error (.ofFileError error detail), manager, after, []⟩
  | replaced {content : ByteArray} {after : Trail} {events : List Log.Event}
      (written : sessionContent manager.codec manager.session = .ok content)
      (done :
        (replaceFile (directory.child "session.json") content).on ⟨files, []⟩ =
          (.ok (), after)) :
      Saved manager directory files ⟨.ok (), manager, after, events⟩

theorem saved
    {manager : Manager}
    {directory : Path}
    (kept : manager.paths.machineData = some directory)
    (files : FileSystem) :
    Saved manager directory files (manager.save files) := by
  rw [save_eq kept]
  cases written : sessionContent manager.codec manager.session with
  | error fault => exact .unwritable written
  | ok content =>
      cases ran :
        (replaceFile (directory.child "session.json") content).on
        ⟨files, []⟩ with
      | mk outcome after =>
          cases outcome with
          | error error =>
              dsimp only
              rw [ran]
              exact .refused written ran
          | ok =>
              dsimp only
              rw [ran]
              exact .replaced written ran

/--
A save that fails leaves everything that was there and adds at most directories
on the way to the data directory.  A save that succeeds does that too and puts
the session under its name into the data directory, with the mode of what the
name led to.  The manager, the mask and the work directory stay the same.
-/
theorem save_allOrNothing
    (manager : Manager)
    (files : FileSystem)
    (directory : Path)
    (kept : manager.paths.machineData = some directory)
    (wellFormed : files.WellFormed)
    (noBack : Text.ofString ".." ∉ directory.names)
    (unmentioned : ∀ number, files.Unmentioned (temporarySession number)) :
    (manager.save files).manager = manager ∧
      (manager.save files).files.umask = files.umask ∧
        (manager.save files).files.workDirectory = files.workDirectory ∧
          match (manager.save files).result with
          | .error _ => GrownTowards directory files (manager.save files).files
          | .ok () =>
            ∃ document content made place mode,
              manager.session.toJson manager.codec = .ok document ∧
                content =
                  ⟨(Utf8.encode (Json.render .indented document ++
                    ['\n'])).toArray⟩ ∧
                  GrownTowards directory files made ∧
                    SessionReplaced directory content mode place made
                      (manager.save files).files ∧
                      (files.modeOf (directory.child "session.json") =
                          .ok mode ∨
                        (files.modeOf (directory.child "session.json") =
                            .error .noEntry ∧
                          mode = files.masked 0o666)) ∧
                        (files.ClearOfChild directory "session.json" ↔
                          (manager.save files).files.locate
                            (directory.child "session.json") false =
                            .ok ⟨sessionPlace place,
                            some (.file content mode)⟩) := by
  have known := saved kept files
  generalize manager.save files = outcome at known ⊢
  cases known with
  | unwritable => exact ⟨rfl, rfl, rfl, GrownTowards.refl directory files⟩
  | refused written failed =>
      have grown := (makeDirectories_continues directory ⟨files, []⟩).files
      have left := replaceFile_of_error failed
      rw [parent_child] at left
      rw [← left] at grown
      exact ⟨rfl, grown.umask, grown.workDirectory, grown⟩
  | @replaced content after events written done =>
      obtain ⟨document, encoded, -, rfl⟩ := sessionContent_eq_ok written
      obtain ⟨made, place, base, mode, made_, anchored, replaced, askable,
        modeKept⟩ :=
        replaceFile_session done
      have grown := (makeDirectories_continues directory ⟨files, []⟩).files
      rw [made_] at grown
      have anchoredBefore : files.Anchored directory.start base :=
        anchored.of_workDirectory grown.workDirectory.symm
      have wellFormedMade :=
        (@ensureDirectories_wellFormed directory.start directory.names.reverse
          ⟨files, []⟩ base wellFormed anchoredBefore).1
      rw [show (ensureDirectories directory.start directory.names.reverse).on
          ⟨files, []⟩ = _ from made_]
        at wellFormedMade
      obtain ⟨sameMode, clearMade⟩ :=
        makeDirectories_session wellFormed anchoredBefore noBack made_
      have asked :=
        modeKept wellFormedMade
          (fun number => grown.unmentioned (unmentioned number))
      rw [sameMode] at asked
      refine ⟨rfl, replaced.same.umask.trans grown.umask,
        replaced.same.workDirectory.trans grown.workDirectory, document, _,
        made.files, place, mode, encoded,
        rfl, grown, replaced, targetMode_eq_ok asked,
        clearMade.trans ⟨fun clear => ?_, fun found => ?_⟩⟩
      · exact (replaced.locate anchored askable clear).2
      · exact replaced.clear found

/--
A directory in which the name of the session is a link to the directory itself.
-/
def selfHolding : FileSystem where
  entries :=
    [(["x"], .directory 0o755),
      ([Text.ofString "x", Text.ofString "session.json"], .link "/x")]
  workDirectory := .present []
  umask := 0o022

/-- A manager that keeps its session in a directory. -/
def keeping (directory : Path) : Manager where
  codec := .verbatim
  testMode := false
  paths := ⟨none, none, some directory⟩

theorem selfHolding_wellFormed : selfHolding.WellFormed := by
  refine wellFormed_of_entries ?_ ?_
  · intro pair member
    simp only [selfHolding, List.mem_cons, List.not_mem_nil, or_false] at member
    rcases member with rfl | rfl
    · exact hasDirectory_root _
    · exact ⟨0o755, by decide⟩
  · rintro place present
    cases present
    exact hasDirectory_root _

theorem selfHolding_unmentioned (number : Nat) :
    selfHolding.Unmentioned (temporarySession number) := by
  refine unmentioned_of_entries ?_
  intro pair member target link
  simp only [selfHolding, List.mem_cons, List.not_mem_nil, or_false] at member
  rcases member with rfl | rfl
  · cases link
  · cases link
    obtain ⟨characters, equal⟩ := temporarySession_eq number
    have names : (linkNames (Text.ofString "/x")).2 = [Text.ofString "x"] := by
      decide
    rw [names, equal, List.mem_singleton]
    intro same
    have heads := congrArg List.head? same
    revert heads
    simp only [Text.ofChars, List.map_cons, List.head?_cons]
    decide

/--
A save into a directory whose path goes through the link that is replaced
succeeds and cuts it off.
-/
theorem save_cuts_off :
    let directory := Path.ofText "/x/session.json"
    let outcome := (keeping directory).save selfHolding
    selfHolding.WellFormed ∧
      (∀ number, selfHolding.Unmentioned (temporarySession number)) ∧
      Text.ofString ".." ∉ directory.names ∧
        selfHolding.isDirectory directory = true ∧
        outcome.result.isOk = true ∧
          outcome.files.isFile (directory.child "session.json") = false ∧
          outcome.files.isDirectory directory = false := by
  refine ⟨selfHolding_wellFormed, selfHolding_unmentioned, ?_⟩
  decide +kernel

theorem save_allOrNothing_selfHolding :
    selfHolding.WellFormed ∧
      ((keeping (Path.ofText "/x")).save selfHolding).result.isOk = true ∧
        ((keeping (Path.ofText "/x")).save selfHolding).files.umask =
          selfHolding.umask := by
  refine ⟨selfHolding_wellFormed, by decide +kernel, ?_⟩
  exact (save_allOrNothing (keeping (Path.ofText "/x")) selfHolding
      (Path.ofText "/x") rfl
      selfHolding_wellFormed (by decide) selfHolding_unmentioned).2.1

end Manager

end SettingsStore
