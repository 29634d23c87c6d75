import SettingsStore.Proofs.Manager.Documents
import SettingsStore.Proofs.Manager.Loading
import SettingsStore.Proofs.Manager.Saving

/-!
# What is saved is restored

The document that a save has written stands in the data directory, where new
directories do not disturb it, and a load finds the records in it that were
saved.  Saved again they give the same document.  All of this needs that the
path of the data directory still leads there after the save, so it must not go
through a link that the document has replaced.
-/

namespace SettingsStore

open FileSystem

namespace FileSystem

/-! ## The document that stands in its directory -/

/-- The document of a session stands in the directory to which a path leads. -/
structure SessionKept
    (directory : Path)
    (content : ByteArray)
    (files : FileSystem) :
    Prop where
  askable : Askable (directory.child "session.json")
  anchored : ∃ base, files.Anchored directory.start base
  there :
    ∃ place mode fileMode,
      files.locate directory true = .ok ⟨place, some (.directory mode)⟩ ∧
        files.get? (sessionPlace place) = some (.file content fileMode)

namespace SessionKept

variable {directory : Path} {content : ByteArray} {files : FileSystem}

/-- New entries do not disturb the document. -/
theorem extend
    {after : FileSystem}
    (kept : SessionKept directory content files)
    (extends_ : Extends files after) :
    SessionKept directory content after := by
  obtain ⟨base, anchored⟩ := kept.anchored
  obtain ⟨place, mode, fileMode, leads, held⟩ := kept.there
  exact ⟨kept.askable, ⟨base, anchored.of_workDirectory extends_.workDirectory⟩,
    ⟨place, mode, fileMode, locate_extend extends_ leads,
    extends_.kept _ _ held⟩⟩

theorem isDirectory
    (kept : SessionKept directory content files) :
    ∃ mode, files.status directory = .ok (.directory mode) := by
  obtain ⟨place, mode, _, leads, _⟩ := kept.there
  exact ⟨mode, status_of_locate leads⟩

theorem locate
    (kept : SessionKept directory content files) :
    ∃ place fileMode, files.locate (directory.child "session.json") false =
      .ok ⟨place, some (.file content fileMode)⟩ := by
  obtain ⟨base, anchored⟩ := kept.anchored
  obtain ⟨place, mode, fileMode, leads, held⟩ := kept.there
  have child := locate_child leads anchored plain_session kept.askable
  rw [Text.stored_ofString, held] at child
  exact ⟨_, fileMode, child⟩

theorem status
    (kept : SessionKept directory content files) :
    ∃ fileMode, files.status (directory.child "session.json") =
      .ok (.file content fileMode) := by
  obtain ⟨place, fileMode, found⟩ := kept.locate
  exact ⟨fileMode, status_of_locate (locate_followed (by simp [NoLink]) found)⟩

theorem contentOf
    (kept : SessionKept directory content files) :
    files.contentOf (directory.child "session.json") = .ok content := by
  obtain ⟨fileMode, held⟩ := kept.status
  rw [FileSystem.contentOf, held]

theorem clear
    (kept : SessionKept directory content files) :
    files.ClearOfChild directory "session.json" := by
  intro place mode target leads link
  obtain ⟨other, _, fileMode, found, held⟩ := kept.there
  rw [found] at leads
  cases leads
  rw [Text.stored_ofString, held] at link
  cases link

theorem makeDirectories
    (kept : SessionKept directory content files)
    (earlier : List FileSystem) :
    (FileSystem.makeDirectories directory).on ⟨files, earlier⟩ =
      (.ok (), ⟨files, earlier⟩) := by
  obtain ⟨mode, held⟩ := kept.isDirectory
  exact makeDirectories_of_directory held

end SessionKept

/--
What has replaced the session is kept, if the way to its directory does not go
through what it replaced.
-/
theorem replaceFile_kept
    {directory : Path}
    {content : ByteArray}
    {trail after : Trail}
    (clear :
      ((makeDirectories directory).on trail).2.files.ClearOfChild directory
        "session.json")
    (done :
      (replaceFile (directory.child "session.json") content).on trail =
        (.ok (), after)) :
    SessionKept directory content after.files := by
  obtain ⟨made, place, base, mode, made_, anchored, replaced, askable, _⟩ :=
    replaceFile_session done
  rw [made_] at clear
  obtain ⟨⟨placeMode, leads⟩, _⟩ := replaced.locate anchored askable clear
  exact ⟨askable, ⟨base, anchored.of_workDirectory replaced.same.workDirectory⟩,
    ⟨place, placeMode, mode, leads, replaced.there⟩⟩

theorem exists_fromRoot?
    {files : FileSystem}
    {path : Path}
    {base : Place}
    (anchored : files.Anchored path.start base) :
    ∃ root, files.fromRoot? path = some root := by
  rw [fromRoot?]
  split
  · exact ⟨path, rfl⟩
  · rename_i relative
    have start : path.start = .relative := by
      simpa [Path.isAbsolute] using relative
    rcases anchored with ⟨absolute, _⟩ | ⟨_, present⟩
    · exact absurd start absolute
    · rw [present]
      exact ⟨_, rfl⟩

/-- A session that is kept is replaced unless no temporary file can be made. -/
theorem SessionKept.noTemporary
    {directory : Path}
    {content other : ByteArray}
    {trail after : Trail}
    {error : FileError}
    (kept : SessionKept directory content trail.files)
    (failed :
      (replaceFile (directory.child "session.json") other).on trail =
        (.error error, after)) :
    ∃ error root, trail.files.fromRoot? directory = some root ∧
      ((createTemporary root.normalize ".session." ".tmp").on trail).1 =
        .error error := by
  have ready := kept.makeDirectories trail.earlier
  have known := replacement (directory.child "session.json") other trail
  rw [failed] at known
  cases known with
  | blocked unmade =>
      rw [parent_child, ready] at unmade
      cases unmade
  | adrift made gone =>
      rw [parent_child] at made gone
      cases ready.symm.trans made
      obtain ⟨base, anchored⟩ := kept.anchored
      obtain ⟨root, found⟩ := exists_fromRoot? anchored
      rw [gone] at found
      cases found
  | noTemporary made fromRoot refused =>
      rw [parent_child] at made fromRoot
      cases ready.symm.trans made
      exact ⟨_, _, fromRoot, congrArg Prod.fst refused⟩
  | @refused _ _ _ _ _ _ during made _ holds cause =>
      rw [parent_child] at made
      cases ready.symm.trans made
      have still := kept.extend holds.extends_
      obtain ⟨place, mode, found⟩ := still.locate
      obtain ⟨fileMode, held⟩ := still.status
      rcases cause with cause | cause | ⟨goal, _, cause⟩
      · rw [targetMode, modeOf, held] at cause
        cases cause
      · rw [found] at cause
        cases cause
      · rw [found] at cause
        cases cause

end FileSystem

/-! ## The records in it -/

/-- The document of a session, written by the usual codec. -/
def sessionDocument (records : List Json) : Json :=
  .object [("notebooks", .array records)]

theorem toJson_verbatim
    {session : Session}
    {document : Json}
    (encoded : session.toJson .verbatim = .ok document) :
    document = sessionDocument session.notebooks ∧
      ∀ record ∈ session.notebooks, record.Copyable := by
  have copied : session.notebooks.mapM RecordCodec.verbatim.encode = _ :=
    mapM_copy session.notebooks
  rw [Session.toJson, copied] at encoded
  split at encoded
  · rename_i copyable
    cases encoded
    exact ⟨rfl, copyable⟩
  · cases encoded

/-- The usual codec writes records that can be copied. -/
theorem toJson_of_copyable
    {records : List Json}
    (copyable : ∀ record ∈ records, record.Copyable) :
    Session.toJson .verbatim ⟨records⟩ = .ok (sessionDocument records) := by
  have copied : records.mapM RecordCodec.verbatim.encode = _ :=
    mapM_copy records
  rw [Session.toJson]
  dsimp only
  rw [copied, if_pos copyable]
  rfl

theorem ofJson_verbatim
    {records : List Json}
    (copyable : ∀ record ∈ records, record.Copyable) :
    Session.ofJson .verbatim (sessionDocument records) = .ok ⟨records⟩ := by
  have copied : records.mapM RecordCodec.verbatim.decode = _ :=
    mapM_copy records
  have found :
      ((sessionDocument records).field? "notebooks").bind Json.items? =
        some records := by
    simp [sessionDocument, Json.field?, Json.members?, Members.find?,
      Json.items?]
  rw [Session.ofJson, found]
  dsimp only
  rw [copied, if_pos copyable]
  rfl

/-- The document of records that can be read back is read back itself. -/
theorem faithful_sessionDocument
    {records : List Json}
    (copyable : ∀ record ∈ records, record.Copyable)
    (small : (sessionDocument records).hasHugeInteger = false)
    (spelled : ∀ record ∈ records, record.DistinctKeys ∧ record.Spelled) :
    Json.Faithful Json.levelLimit (sessionDocument records) := by
  have levels : Json.levelLimit = 998 + 1 + 1 := rfl
  have smallRecords : Json.hasHugeIntegerInItems records = false := by
    have parts := small
    rw [sessionDocument, Json.hasHugeInteger] at parts
    exact Json.hasHugeIntegerInMembers_eq_false_iff.mp parts _
      (List.mem_singleton_self _)
  rw [levels]
  refine Json.faithful_object_iff.mpr ⟨List.pairwise_singleton _ _, ?_⟩
  rintro member among
  cases List.mem_singleton.mp among
  refine ⟨Text.unpaired_ofString "notebooks",
    Json.faithful_array_iff.mpr fun record inside => ⟨?_, ?_, ?_, ?_⟩⟩
  · have cost : 2 * record.depth ≤ 960 := copyable record inside
    omega
  · exact (spelled record inside).1
  · exact Json.hasHugeIntegerInItems_eq_false_iff.mp smallRecords record inside
  · exact (spelled record inside).2

/--
What is written for the session of the usual codec is read as its document, if
the records can be read back.
-/
theorem sessionContent_verbatim
    {session : Session}
    {content : ByteArray}
    (written : sessionContent .verbatim session = .ok content)
    (spelled :
      ∀ record ∈ session.notebooks, record.DistinctKeys ∧ record.Spelled)
    (path : Path) :
    (∀ record ∈ session.notebooks, record.Copyable) ∧
      readDocument path content = .ok (sessionDocument session.notebooks) := by
  obtain ⟨document, encoded, small, rfl⟩ := sessionContent_eq_ok written
  obtain ⟨rfl, copyable⟩ := toJson_verbatim encoded
  exact ⟨copyable, readDocument_render
      (faithful_sessionDocument copyable small spelled) .indented path⟩

/-! ## Loading it -/

theorem readLayer_kept
    {files : FileSystem}
    {directory : Path}
    {content : ByteArray}
    {members : Members}
    (kept : SessionKept directory content files)
    (read :
      readDocument (directory.child "session.json") content =
        .ok (.object members)) :
    readLayer files (some (directory.child "session.json")) =
      .ok (.document members) := by
  rw [readLayer, kept.contentOf]
  dsimp only
  rw [read]

theorem layersOf_with_session
    {files : FileSystem}
    {paths : ResolvedPaths}
    {layers : Layers}
    {session : Layer}
    (without : layersOf files { paths with machineData := none } = .ok layers)
    (read : readLayer files paths.session = .ok session) :
    layersOf files paths = .ok { layers with session } := by
  have sameDefaults :
      { paths with machineData := none }.defaultConfig = paths.defaultConfig :=
    rfl
  have sameUser :
      { paths with machineData := none }.userConfig = paths.userConfig := rfl
  rw [layersOf, sameDefaults, sameUser] at without
  rw [layersOf]
  cases defaults : readLayer files paths.defaultConfig with
  | error fault =>
      rw [defaults] at without
      cases without
  | ok defaults_ =>
      cases user : readLayer files paths.userConfig with
      | error fault =>
          rw [defaults, user] at without
          cases without
      | ok user_ =>
          rw [defaults, user] at without
          cases without
          rw [read]
          rfl

theorem decode_with_session
    {layers : Layers}
    {codec : RecordCodec}
    {config : Config}
    {absent session : Session}
    {members : Members}
    (without : layers.decode codec = .ok (config, absent))
    (decoded : Session.ofJson codec (.object members) = .ok session) :
    Layers.decode { layers with session := .document members } codec =
      .ok (config, session) := by
  rw [Layers.decode] at without ⊢
  dsimp only
  split at without
  · cases without
  · dsimp only [Layer.members]
    rw [decoded]
    split at without
    · cases without
    · cases without
      rfl

/--
A load that would succeed without a session finds the one that is kept, among
directories that it may add.
-/
theorem documentsOf_kept
    {files : FileSystem}
    {paths : ResolvedPaths}
    {directory : Path}
    {content : ByteArray}
    {members : Members}
    {codec : RecordCodec}
    {config : Config}
    {session absent : Session}
    (kept : SessionKept directory content files)
    (known : paths.machineData = some directory)
    (read :
      readDocument (directory.child "session.json") content =
        .ok (.object members))
    (decoded : Session.ofJson codec (.object members) = .ok session)
    (without :
      documentsOf files { paths with machineData := none } codec =
        .ok (config, absent)) :
    documentsOf files paths codec = .ok (config, session) ∧
      ∃ after, (ensureDataDirectories paths).on ⟨files, []⟩ = (.ok (), after) ∧
        SessionKept directory content after.files := by
  have whole := ensureDataDirectories_on paths ⟨files, []⟩
  have apart :=
    ensureDataDirectories_on { paths with machineData := none } ⟨files, []⟩
  have extends_ := ensureDataDirectory_extends paths.userData ⟨files, []⟩
  dsimp only at apart
  generalize (ensureDataDirectory paths.userData).on ⟨files, []⟩ =
    first at whole apart extends_
  obtain ⟨outcome, after⟩ := first
  cases outcome with
  | error fault =>
      rw [documentsOf_of_unmade apart] at without
      cases without
  | ok =>
      dsimp only at whole apart extends_
      have still := kept.extend extends_
      have made := still.makeDirectories after.earlier
      have place : paths.session = some (directory.child "session.json") := by
        rw [ResolvedPaths.session, known]
        rfl
      rw [ensureDataDirectory_none] at apart
      rw [known, ensureDataDirectory_some, made] at whole
      refine ⟨?_, after, whole, still⟩
      rw [documentsOf_of_made apart] at without
      rw [documentsOf_of_made whole]
      split at without
      · cases without
      · rename_i layers found
        rw [layersOf_with_session found (place ▸ readLayer_kept still read)]
        exact decode_with_session without decoded

namespace Manager

/-- A session that was saved is kept. -/
theorem save_keeps
    {manager : Manager}
    {directory : Path}
    {files : FileSystem}
    (known : manager.paths.machineData = some directory)
    (clear :
      ((makeDirectories directory).runOn files).2.files.ClearOfChild directory
        "session.json")
    (done : (manager.save files).result = .ok ()) :
    ∃ content, sessionContent manager.codec manager.session = .ok content ∧
      SessionKept directory content (manager.save files).files := by
  have outcomes := saved known files
  generalize manager.save files = outcome at outcomes done ⊢
  cases outcomes with
  | unwritable => cases done
  | refused => cases done
  | @replaced content after _ written replaced =>
      exact ⟨content, written,
        @replaceFile_kept directory content ⟨files, []⟩ after clear replaced⟩

/--
A save over a session that is kept leaves the new one in its place unless no
temporary file can be made.
-/
theorem save_over_kept
    {manager : Manager}
    {directory : Path}
    {files : FileSystem}
    {content other : ByteArray}
    (known : manager.paths.machineData = some directory)
    (kept : SessionKept directory content files)
    (written : sessionContent manager.codec manager.session = .ok other) :
    match (manager.save files).result with
    | .ok () =>
        (manager.save files).files.contentOf (directory.child "session.json") =
          .ok other
    | .error _ =>
      ∃ error root, files.fromRoot? directory = some root ∧
        ((createTemporary root.normalize ".session." ".tmp").runOn files).1 =
          .error error := by
  have outcomes := saved known files
  generalize manager.save files = outcome at outcomes ⊢
  cases outcomes with
  | unwritable unwritten =>
      rw [written] at unwritten
      cases unwritten
  | refused writtenToo failed =>
      cases written.symm.trans writtenToo
      exact @SessionKept.noTemporary directory content other
        ⟨files, []⟩ _ _ kept failed
  | replaced writtenToo replaced =>
      cases written.symm.trans writtenToo
      have still :=
        @replaceFile_kept directory other ⟨files, []⟩ _
          (kept.makeDirectories [] ▸ kept.clear) replaced
      exact still.contentOf

/--
The manager without a directory for its session: what it loads are the settings
alone.
-/
def sessionless (manager : Manager) : Manager :=
  { manager with paths := { manager.paths with machineData := none } }

/--
A session that is kept is loaded, unless the settings stop that, and then it is
still kept.
-/
theorem load_of_kept
    {manager : Manager}
    {directory : Path}
    {files : FileSystem}
    {content : ByteArray}
    {members : Members}
    {session : Session}
    (known : manager.paths.machineData = some directory)
    (kept : SessionKept directory content files)
    (read :
      readDocument (directory.child "session.json") content =
        .ok (.object members))
    (decoded : Session.ofJson manager.codec (.object members) = .ok session)
    (settings : (manager.sessionless.load files).result = .ok ()) :
    (manager.load files).result = .ok () ∧
      (∃ config, (manager.load files).manager =
          { manager with state := .ready, config, session }) ∧
        SessionKept directory content (manager.load files).files := by
  have loads := settings.symm.trans (load_eq manager.sessionless files).1
  cases without :
    documentsOf files manager.sessionless.paths manager.sessionless.codec with
  | error fault =>
      rw [without] at loads
      cases loads
  | ok found =>
      obtain ⟨documents, made, ran, still⟩ :=
        documentsOf_kept kept known read decoded without
      obtain ⟨result, concluded, trail⟩ := manager.load_eq files
      rw [documents] at result concluded
      rw [Procedure.runOn_eq, ran] at trail
      have left : (manager.load files).files = made.files :=
        congrArg Trail.files trail
      exact ⟨result, ⟨found.1, concluded⟩, left ▸ still⟩

/--
After a save that succeeds, a load of the same paths finds the records that were
saved, in their order, unless the settings stop it.  A save that follows writes
the same document again unless no temporary file can be made.
-/
theorem load_restores
    (saver loader : Manager)
    (files : FileSystem)
    (directory : Path)
    (usual : saver.codec = .verbatim ∧ loader.codec = .verbatim)
    (samePaths : loader.paths = saver.paths)
    (known : saver.paths.machineData = some directory)
    (spelled :
      ∀ record ∈ saver.session.notebooks, record.DistinctKeys ∧ record.Spelled)
    (clear :
      ((makeDirectories directory).runOn files).2.files.ClearOfChild directory
        "session.json")
    (done : (saver.save files).result = .ok ())
    (settings :
      (loader.sessionless.load (saver.save files).files).result = .ok ()) :
    let loaded := loader.load (saver.save files).files
    loaded.result = .ok () ∧
      loaded.manager.session.notebooks = saver.session.notebooks ∧
      ∃ content,
        (saver.save files).files.contentOf (directory.child "session.json") =
          .ok content ∧
          match (loaded.manager.save loaded.files).result with
          | .ok () =>
            (loaded.manager.save loaded.files).files.contentOf
              (directory.child "session.json") =
              .ok content
          | .error _ =>
            ∃ error root, loaded.files.fromRoot? directory = some root ∧
              ((createTemporary root.normalize ".session." ".tmp").runOn
                  loaded.files).1 =
                .error error := by
  intro loaded
  obtain ⟨usualSaver, usualLoader⟩ := usual
  have here : loader.paths.machineData = some directory := samePaths ▸ known
  obtain ⟨content, written, kept⟩ := save_keeps known clear done
  rw [usualSaver] at written
  obtain ⟨copyable, read⟩ :=
    sessionContent_verbatim written spelled (directory.child "session.json")
  obtain ⟨result, ⟨config, manager⟩, still⟩ :=
    load_of_kept here kept read
      (usualLoader ▸ ofJson_verbatim copyable) settings
  have again :
      sessionContent loaded.manager.codec loaded.manager.session =
        .ok content := by
    rw [manager]
    exact usualLoader ▸ written
  refine ⟨result, congrArg (fun manager => manager.session.notebooks) manager,
    content, kept.contentOf, ?_⟩
  refine save_over_kept ?_ still again
  rw [manager]
  exact here

/--
A save whose path goes through the link that it replaces succeeds, and yet the
session is not found again where the settings alone would be.
-/
theorem load_after_cut_off :
    let manager := keeping (Path.ofText "/x/session.json")
    let saved := manager.save selfHolding
    saved.result.isOk = true ∧
      (manager.sessionless.load saved.files).result.isOk = true ∧
      (manager.load saved.files).result.isOk = false := by
  decide +kernel

theorem clearOfChild_selfHolding :
    ((makeDirectories (Path.ofText "/x")).runOn
        selfHolding).2.files.ClearOfChild (Path.ofText "/x")
        "session.json" := by
  have leads :
      selfHolding.locate (Path.ofText "/x") true =
        .ok ⟨["x"], some (.directory 0o755)⟩ := by
    rfl
  have same :=
    @makeDirectories_of_directory (Path.ofText "/x") ⟨selfHolding, []⟩ 0o755
      (status_of_locate leads)
  rw [Procedure.runOn_eq, same]
  intro place mode target found _
  rw [leads] at found
  cases found
  decide +kernel

/-- A record with a lone surrogate and no number. -/
def oddRecord : Json :=
  .object [("name", .string [CodePoint.ofNat 0xD800]),
    ("size", .double .notANumber)]

theorem load_restores_oddRecord :
    let manager := { keeping (Path.ofText "/x") with session := ⟨[oddRecord]⟩ }
    ((keeping (Path.ofText "/x")).load
        (manager.save selfHolding).files).manager.session.notebooks =
      [oddRecord] := by
  intro manager
  have spelled :
      ∀ record ∈ [oddRecord], record.DistinctKeys ∧ record.Spelled := by
    refine List.forall_mem_singleton.mpr
      ⟨⟨by decide, trivial, trivial, trivial⟩, ?_⟩
    exact ⟨Text.unpaired_ofString "name", trivial,
      Text.unpaired_ofString "size", rfl, trivial⟩
  have done : (manager.save selfHolding).result = .ok () := by
    rfl
  exact (load_restores manager (keeping (Path.ofText "/x")) selfHolding
      (Path.ofText "/x") ⟨rfl, rfl⟩ rfl rfl
      spelled clearOfChild_selfHolding done rfl).2.1

end Manager

end SettingsStore
