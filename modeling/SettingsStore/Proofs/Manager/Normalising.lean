import SettingsStore.Proofs.Files.Overwriting
import SettingsStore.Proofs.Files.Resolving
import SettingsStore.Proofs.Json.Merging
import SettingsStore.Proofs.Json.Parsed
import SettingsStore.Proofs.Manager.FirstFailure
import SettingsStore.Proofs.Manager.Furnishing
import SettingsStore.Proofs.Manager.Unsaved

/-!
# What loads can be saved

Everything that a document can hold is written again, so a save that follows a
load fails at the files or not at all.  It puts the records of the document that
was loaded under the name of the session and nothing else.  The document it
writes is a part of that one, so whatever way leads to it, also as one of the
other documents, a load that was possible before is possible afterwards.  That
load finds the same records, and saving them again changes nothing.
-/

namespace SettingsStore

open FileSystem

/-! ## Reading a layer -/

/-- What is read in a document does not depend on its path. -/
theorem readDocument_congr
    {path : Path}
    {content : ByteArray}
    {document : Json}
    (read : readDocument path content = .ok document)
    (other : Path) :
    readDocument other content = .ok document := by
  rw [readDocument] at read ⊢
  split at read
  · cases read
  · split at read
    · exact read
    · cases read
    · cases read

/--
A layer that was read is missing, or it has the members of what was read in its
document.
-/
inductive LayerRead (files : FileSystem) (path : Path) : Layer → Prop where
  | missing
      (nowhere :
        files.contentOf path = .error .noEntry ∨
          files.contentOf path = .error .notDirectory) :
      LayerRead files path (.missing path)
  | document {content : ByteArray} {document : Json} {layer : Layer}
      (held : files.contentOf path = .ok content)
      (read : readDocument path content = .ok document)
      (members : layer.members = document.members?.getD []) :
      LayerRead files path layer

theorem layerRead
    {files : FileSystem}
    {path : Path}
    {layer : Layer}
    (read : readLayer files (some path) = .ok layer) :
    LayerRead files path layer := by
  rw [readLayer] at read
  split at read
  · rename_i nowhere
    cases read
    exact .missing (Or.inl nowhere)
  · rename_i nowhere
    cases read
    exact .missing (Or.inr nowhere)
  · cases read
  · rename_i content held
    split at read
    · cases read
    · rename_i document
      cases read
      exact .document held document rfl
    · rename_i document noObject found
      cases read
      refine .document held found ?_
      cases document with
      | object members => exact absurd rfl (noObject members)
      | _ => rfl

/-! ## The records of a document -/

namespace Layer

/-- The records that a layer holds, if it is that of the session. -/
def records (layer : Layer) : List Json :=
  (((Json.object layer.members).field? "notebooks").bind Json.items?).getD []

theorem records_cases (layer : Layer) :
    layer.records = [] ∨ (Text.ofString "notebooks", Json.array layer.records) ∈
      layer.members := by
  cases found : layer.members.find? "notebooks" with
  | none => simp [records, Json.field?, Json.members?, found]
  | some value =>
      cases value with
      | array items =>
          have same : layer.records = items := by
            simp [records, Json.field?, Json.members?, found, Json.items?]
          rw [same]
          exact Or.inr (Members.mem_of_find? found)
      | _ => simp [records, Json.field?, Json.members?, found, Json.items?]

theorem records_sessionDocument (records : List Json) :
    (document [(Text.ofString "notebooks", .array records)]).records =
      records := by
  simp [Layer.records, members, Json.field?, Json.members?, Members.find?,
    Json.items?]

/--
The document of the records can be copied if the one that they come from can.
-/
theorem copyable_records
    {layer : Layer}
    (copyable : (Json.object layer.members).Copyable) :
    (sessionDocument layer.records).Copyable := by
  have cost : 2 * (Json.depthOfMembers layer.members + 1) ≤ 960 := copyable
  have depth :
      Json.depthOfMembers [(Text.ofString "notebooks",
        Json.array layer.records)] ≤ 479 := by
    refine Json.depthOfMembers_le_iff.mpr (List.forall_mem_singleton.mpr ?_)
    rcases layer.records_cases with none | among
    · rw [none]
      decide
    · have within := Json.depthOfMembers_le_iff.mp (Nat.le_refl _) _ among
      dsimp only at within ⊢
      omega
  show 2 * (Json.depthOfMembers _ + 1) ≤ 960
  omega

/-- It can be laid over another one if that one can. -/
theorem overlayCost_records_le
    {layer : Layer}
    (within : Json.overlayCostOfMembers layer.members ≤ Json.copyFrames) :
    Json.overlayCostOfMembers
      [(Text.ofString "notebooks", Json.array layer.records)] ≤
      Json.copyFrames := by
  refine Json.overlayCostOfMembers_le_iff.mpr (List.forall_mem_singleton.mpr ?_)
  rcases layer.records_cases with none | among
  · rw [none]
    decide
  · exact Json.overlayCostOfMembers_le_iff.mp within _ among

/-- The members of a layer that was read can be read back. -/
theorem faithful_members
    {files : FileSystem}
    {path : Option Path}
    {layer : Layer}
    (read : readLayer files path = .ok layer) :
    Json.Faithful Json.levelLimit (.object layer.members) := by
  have levels : Json.levelLimit = 999 + 1 := rfl
  have empty : Json.Faithful Json.levelLimit (.object []) := by
    rw [levels]
    exact Json.faithful_object_iff.mpr ⟨List.Pairwise.nil, nofun⟩
  cases path with
  | none =>
      cases read
      exact empty
  | some path =>
      cases layerRead read with
      | missing => exact empty
      | @document _ document _ _ found same =>
          rw [same]
          cases document with
          | object members => exact faithful_of_readDocument found
          | _ => exact empty

/-- The records of a document that was read can be read back. -/
theorem faithful_records
    {files : FileSystem}
    {path : Option Path}
    {layer : Layer}
    (read : readLayer files path = .ok layer) :
    ∀ record ∈ layer.records, record.DistinctKeys ∧
      record.hasHugeInteger = false ∧ record.Spelled := by
  intro record member
  rcases layer.records_cases with none | among
  · rw [none] at member
    exact absurd member List.not_mem_nil
  · have levels : Json.levelLimit = 998 + 1 + 1 := rfl
    have faithful := faithful_members read
    rw [levels] at faithful
    have inside := ((Json.faithful_object_iff.mp faithful).2 _ among).2
    obtain ⟨-, distinct, small, spelled⟩ :=
      Json.faithful_array_iff.mp inside record member
    exact ⟨distinct, small, spelled⟩

end Layer

/-! ## Layers after a save -/

theorem fileOrNothing_of_readLayer
    {files : FileSystem}
    {path : Path}
    {layer : Layer}
    (read : readLayer files (some path) = .ok layer) :
    FileOrNothing (files.contentOf path) := by
  cases layerRead read with
  | missing nowhere =>
      rcases nowhere with nowhere | nowhere
      · rw [nowhere]
        trivial
      · rw [nowhere]
        trivial
  | document held =>
      rw [held]
      trivial

/-- Layers in which the same was read have the same members. -/
theorem members_of_readLayer
    {files : FileSystem}
    {path other : Path}
    {layer second : Layer}
    (read : readLayer files (some path) = .ok layer)
    (readSecond : readLayer files (some other) = .ok second)
    (same : files.contentOf path = files.contentOf other) :
    layer.members = second.members := by
  cases layerRead read with
  | missing nowhere =>
      cases layerRead readSecond with
      | missing => rfl
      | document held =>
          rw [same, held] at nowhere
          rcases nowhere with nowhere | nowhere <;> cases nowhere
  | document held document members =>
      cases layerRead readSecond with
      | missing nowhere =>
          rw [← same, held] at nowhere
          rcases nowhere with nowhere | nowhere <;> cases nowhere
      | document heldSecond documentSecond membersSecond =>
          cases held.symm.trans (same.trans heldSecond)
          cases (readDocument_congr document other).symm.trans documentSecond
          exact members.trans membersSecond.symm

/--
A layer has the members that it had, or those of the new session in place of
those of the old one.
-/
theorem readLayer_overwritten
    {directory : Path}
    {content : ByteArray}
    {mode : Nat}
    {place : Place}
    {before after : FileSystem}
    {records : List Json}
    {session layer : Layer}
    {path : Option Path}
    (overwritten :
      Overwritten directory "session.json" content mode place before after)
    (written :
      ∀ path, readDocument path content = .ok (sessionDocument records))
    (old :
      readLayer before (some (directory.child "session.json")) = .ok session)
    (read : readLayer before path = .ok layer) :
    ∃ later, readLayer after path = .ok later ∧
      (later.members = layer.members ∨
        (layer.members = session.members ∧
          later.members = [(Text.ofString "notebooks", .array records)])) := by
  cases path with
  | none => exact ⟨layer, read, Or.inl rfl⟩
  | some path =>
      rcases overwritten.contentOf
        (fileOrNothing_of_readLayer read) with same | ⟨was, now⟩ | ⟨was, now⟩
      · refine ⟨layer, ?_, Or.inl rfl⟩
        rw [readLayer] at read ⊢
        rw [same]
        exact read
      · refine ⟨.document [(Text.ofString "notebooks", .array records)], ?_,
          Or.inr ⟨members_of_readLayer read old was, rfl⟩⟩
        rw [readLayer, now]
        dsimp only
        rw [written]
        rfl
      · refine ⟨.missing path, ?_, Or.inl ?_⟩
        · rw [readLayer, now]
        · cases layerRead read with
          | missing => rfl
          | document held =>
              rw [held] at was
              rcases was with was | was <;> cases was

theorem layersOf_eq_ok
    {files : FileSystem}
    {paths : ResolvedPaths}
    {layers : Layers} :
    layersOf files paths = .ok layers ↔
      readLayer files paths.defaultConfig = .ok layers.defaults ∧
        readLayer files paths.userConfig = .ok layers.user ∧
          readLayer files paths.session = .ok layers.session := by
  rw [layersOf]
  cases readLayer files paths.defaultConfig with
  | error =>
      refine ⟨fun same => ?_, fun same => ?_⟩
      · cases same
      · cases same.1
  | ok defaults =>
      cases readLayer files paths.userConfig with
      | error =>
          refine ⟨fun same => ?_, fun same => ?_⟩
          · cases same
          · cases same.2.1
      | ok user =>
          cases readLayer files paths.session with
          | error =>
              refine ⟨fun same => ?_, fun same => ?_⟩
              · cases same
              · cases same.2.2
          | ok session =>
              constructor
              · intro same
                cases same
                exact ⟨rfl, rfl, rfl⟩
              · rintro ⟨first, second, third⟩
                cases first
                cases second
                cases third
                rfl

/--
The usual codec decodes what is not nested too deeply, and the session has the
records of its document.
-/
theorem decode_verbatim_eq_ok_iff
    {layers : Layers}
    {session : Session} :
    (∃ config, layers.decode .verbatim = .ok (config, session)) ↔
      Json.mergeCost (.object layers.defaults.members) layers.user.members ≤
        Json.copyFrames ∧
        (∀ record ∈ layers.session.records, record.Copyable) ∧
          session = ⟨layers.session.records⟩ := by
  have records : layers.records = layers.session.records := rfl
  rw [Layers.decode, Json.mergePatch?, sessionOf_verbatim, records]
  by_cases within :
    Json.mergeCost (.object layers.defaults.members) layers.user.members ≤
    Json.copyFrames
  · by_cases copyable : ∀ record ∈ layers.session.records, record.Copyable
    · rw [if_pos within, if_pos copyable]
      constructor
      · rintro ⟨config, same⟩
        cases same
        exact ⟨within, copyable, rfl⟩
      · rintro ⟨-, -, rfl⟩
        exact ⟨_, rfl⟩
    · rw [if_pos within, if_neg copyable]
      refine ⟨?_, fun all => absurd all.2.1 copyable⟩
      rintro ⟨_, same⟩
      cases same
  · rw [if_neg within]
    refine ⟨?_, fun all => absurd all.1 within⟩
    rintro ⟨_, same⟩
    cases same

/--
After a save the layers are read and decoded again, with the records that were
saved.
-/
theorem decode_overwritten
    {directory : Path}
    {content : ByteArray}
    {mode : Nat}
    {place : Place}
    {before after : FileSystem}
    {paths : ResolvedPaths}
    {layers : Layers}
    {config : Config}
    {session : Session}
    (overwritten :
      Overwritten directory "session.json" content mode place before after)
    (known : paths.machineData = some directory)
    (read : layersOf before paths = .ok layers)
    (decoded : layers.decode .verbatim = .ok (config, session))
    (written :
      ∀ path, readDocument path content =
        .ok (sessionDocument layers.session.records))
    (held : after.contentOf (directory.child "session.json") = .ok content) :
    ∃ later, layersOf after paths = .ok later ∧
      ∃ config, later.decode .verbatim =
        .ok (config, ⟨layers.session.records⟩) := by
  have path : paths.session = some (directory.child "session.json") := by
    rw [ResolvedPaths.session, known]
    rfl
  obtain ⟨defaults, user, old⟩ := layersOf_eq_ok.mp read
  obtain ⟨within, copyable, -⟩ := decode_verbatim_eq_ok_iff.mp ⟨config, decoded⟩
  obtain ⟨within, laidOver⟩ := Json.mergeCost_object_le_iff.mp within
  rw [path] at old
  obtain ⟨laterDefaults, readDefaults, membersDefaults⟩ :=
    readLayer_overwritten overwritten written old defaults
  obtain ⟨laterUser, readUser, membersUser⟩ :=
    readLayer_overwritten overwritten written old user
  have readSession : readLayer after paths.session =
      .ok
        (.document [(Text.ofString "notebooks",
        .array layers.session.records)]) := by
    rw [path, readLayer, held]
    dsimp only
    rw [written]
    rfl
  have cost :
      Json.mergeCost (.object laterDefaults.members) laterUser.members ≤
        Json.copyFrames := by
    refine Json.mergeCost_object_le_iff.mpr ⟨?_, ?_⟩
    · rcases membersDefaults with same | ⟨was, now⟩
      · rw [same]
        exact within
      · rw [now]
        rw [was] at within
        exact Layer.copyable_records within
    · rcases membersUser with same | ⟨was, now⟩
      · rw [same]
        exact laidOver
      · rw [now]
        rw [was] at laidOver
        exact Layer.overlayCost_records_le laidOver
  refine ⟨⟨laterDefaults, laterUser,
    .document [(Text.ofString "notebooks", .array layers.session.records)]⟩,
    layersOf_eq_ok.mpr ⟨readDefaults, readUser, readSession⟩,
    decode_verbatim_eq_ok_iff.mpr ⟨cost, ?_, ?_⟩⟩
  · rw [Layer.records_sessionDocument]
    exact copyable
  · rw [Layer.records_sessionDocument]

/-! ## Saves in a directory that is there -/

namespace FileSystem

theorem speakable_of_contentOf
    {files : FileSystem}
    {path : Path}
    (read : FileOrNothing (files.contentOf path)) :
    Speakable path := by
  rcases speakable_or path with speakable | ⟨cause, unspeakable⟩
  · exact speakable
  · rw [contentOf_eq_name_iff.mpr unspeakable] at read
    exact read.elim

theorem FileOrNothing.noDirectory
    {files : FileSystem}
    {path : Path}
    (read : FileOrNothing (files.contentOf path))
    (mode : Nat) :
    files.status path ≠ .ok (.directory mode) := by
  intro held
  rw [contentOf, held] at read
  exact read

/-- The session that a save has put in its place is kept there. -/
theorem Overwritten.kept
    {directory : Path}
    {content : ByteArray}
    {mode : Nat}
    {place : Place}
    {before after : FileSystem}
    (overwritten :
      Overwritten directory "session.json" content mode place before after) :
    SessionKept directory content after ∧
      after.status (directory.child "session.json") =
        .ok (.file content mode) := by
  obtain ⟨_, leads⟩ := overwritten.leads
  obtain ⟨base, anchored⟩ := overwritten.anchored
  have still := overwritten.locate_directory leads
  have anchoredStill := anchored.of_workDirectory overwritten.same.workDirectory
  have there := overwritten.there
  have child :=
    locate_child still anchoredStill plain_session overwritten.askable
  rw [there] at child
  rw [Text.stored_ofString] at there
  exact ⟨⟨overwritten.askable, ⟨base, anchoredStill⟩, place, _, mode,
    still, there⟩, status_of_locate (locate_followed (by simp [NoLink]) child)⟩

/--
What has been replaced where a file or nothing was is overwritten, and a file
keeps its mode.
-/
theorem overwritten_of_replaceFile
    {directory : Path}
    {content : ByteArray}
    {files : FileSystem}
    {after : Trail}
    (there : files.isDirectory directory = true)
    (read : FileOrNothing (files.contentOf (directory.child "session.json")))
    (done :
      (replaceFile (directory.child "session.json") content).on ⟨files, []⟩ =
        (.ok (), after)) :
    ∃ mode place,
      Overwritten directory "session.json" content mode place files
      after.files ∧
      ∀ old oldMode, files.status (directory.child "session.json") =
        .ok (.file old oldMode) → mode = oldMode := by
  obtain ⟨directoryMode, held⟩ := isDirectory_iff.mp there
  obtain ⟨made, place, base, mode, made_, anchored, replaced, askable, _, _, _,
    during, -, holds, asked⟩ :=
    replaceFile_asked done
  cases (@makeDirectories_of_directory directory
      ⟨files, []⟩ directoryMode held).symm.trans made_
  have stored := Text.stored_ofString "session.json"
  refine ⟨mode, place, ⟨replaced.leads, ⟨base, anchored⟩, askable,
    plain_session, read, stored ▸ replaced.there, stored ▸ replaced.same⟩, ?_⟩
  intro old oldMode status
  obtain ⟨goal, located⟩ := locate_of_status status
  rw [targetMode, modeOf, status_of_locate
      (locate_extend holds.extends_ located)] at asked
  cases asked
  rfl

end FileSystem

namespace Manager

/--
A save that succeeds where its directory was there has overwritten the session.
-/
theorem overwritten_of_save
    {manager : Manager}
    {directory : Path}
    {files : FileSystem}
    (known : manager.paths.machineData = some directory)
    (there : files.isDirectory directory = true)
    (read : FileOrNothing (files.contentOf (directory.child "session.json")))
    (done : (manager.save files).result = .ok ()) :
    ∃ content mode place, sessionContent manager.codec manager.session =
      .ok content ∧
      Overwritten directory "session.json" content mode place files
        (manager.save files).files := by
  have outcomes := saved known files
  generalize manager.save files = outcome at outcomes done ⊢
  cases outcomes with
  | unwritable => cases done
  | refused => cases done
  | replaced written replaced =>
      obtain ⟨mode, place, overwritten, -⟩ :=
        overwritten_of_replaceFile there read replaced
      exact ⟨_, mode, place, written, overwritten⟩

/--
What a save comes to where its directory is there and a file or nothing stands
in its place.
-/
inductive SavedThere
    (directory : Path)
    (content : ByteArray)
    (files : FileSystem) :
    Except Fault Unit → FileSystem → Prop where
  | refused (detail : Text) :
    SavedThere directory content files (.error (.io detail)) files
  | replaced {mode : Nat} {place : Place} {after : FileSystem}
      (overwritten :
        Overwritten directory "session.json" content mode place files after)
      (modeKept :
        ∀ old oldMode, files.status (directory.child "session.json") =
          .ok (.file old oldMode) → mode = oldMode) :
      SavedThere directory content files (.ok ()) after

namespace SavedThere

variable {directory : Path} {content : ByteArray} {files after : FileSystem}
  {outcome : Except Fault Unit}
variable (saved : SavedThere directory content files outcome after)

include saved

theorem io
    {fault : Fault}
    (stopped : outcome = .error fault) :
    ∃ detail, fault = .io detail := by
  cases saved with
  | refused detail =>
      cases stopped
      exact ⟨detail, rfl⟩
  | replaced => cases stopped

theorem overwritten (done : outcome = .ok ()) :
    ∃ mode place,
      Overwritten directory "session.json" content mode place files after := by
  cases saved with
  | refused => cases done
  | replaced overwritten => exact ⟨_, _, overwritten⟩

/--
Where the session is saved already a save leaves it as it is, done or not.
-/
theorem status_kept
    {mode : Nat}
    (status :
      files.status (directory.child "session.json") =
        .ok (.file content mode)) :
    after.status (directory.child "session.json") =
      .ok (.file content mode) := by
  cases saved with
  | refused => exact status
  | replaced overwritten modeKept =>
      rw [← modeKept _ _ status]
      exact overwritten.kept.2

end SavedThere

theorem savedThere
    {manager : Manager}
    {directory : Path}
    {files : FileSystem}
    {content : ByteArray}
    (known : manager.paths.machineData = some directory)
    (written : sessionContent manager.codec manager.session = .ok content)
    (there : files.isDirectory directory = true)
    (read : FileOrNothing (files.contentOf (directory.child "session.json")))
    (named :
      ∀ place, files.workDirectory = .present place →
        ∀ name ∈ place, name.Nameable) :
    SavedThere directory content files (manager.save files).result
      (manager.save files).files := by
  obtain ⟨mode, held⟩ := isDirectory_iff.mp there
  have ready := @makeDirectories_of_directory directory ⟨files, []⟩ mode held
  have outcomes := saved known files
  generalize manager.save files = outcome at outcomes
  cases outcomes with
  | unwritable unwritten =>
      rw [written] at unwritten
      cases unwritten
  | @refused _ error detail after writtenToo failed =>
      cases written.symm.trans writtenToo
      have speakable := speakable_of_contentOf read
      have left := replaceFile_of_error failed
      rw [parent_child, ready] at left
      show SavedThere directory content files
        (.error (.ofFileError error detail)) after.files
      rw [left]
      cases error with
      | name cause =>
          exact absurd failed
            (@replaceFile_ne_name _
              ⟨files, []⟩ after cause speakable named content)
      | _ => exact .refused detail
  | replaced writtenToo done =>
      cases written.symm.trans writtenToo
      obtain ⟨mode, place, overwritten, modeKept⟩ :=
        overwritten_of_replaceFile there read done
      exact .replaced overwritten modeKept

/-! ## A load and a save -/

/--
A load after a save finds what the one before it found, but for the settings,
and leaves the files alone.
-/
theorem load_overwritten
    {manager : Manager}
    {directory : Path}
    {content : ByteArray}
    {mode : Nat}
    {place : Place}
    {before after : FileSystem}
    {layers : Layers}
    {config : Config}
    {session : Session}
    (usual : manager.codec = .verbatim)
    (known : manager.paths.machineData = some directory)
    (overwritten :
      Overwritten directory "session.json" content mode place before after)
    (ready : Ready manager.paths before)
    (read : layersOf before manager.paths = .ok layers)
    (decoded : layers.decode .verbatim = .ok (config, session))
    (written :
      ∀ path, readDocument path content =
        .ok (sessionDocument layers.session.records)) :
    (manager.load after).result = .ok () ∧ (manager.load after).files = after ∧
      ∃ config, (manager.load after).manager =
        { manager with
          state := .ready, config, session := ⟨layers.session.records⟩ } := by
  obtain ⟨later, readLater, configLater, decodedLater⟩ :=
    decode_overwritten overwritten known read decoded written
      overwritten.kept.1.contentOf
  have readyLater : Ready manager.paths after := fun data hasData =>
    overwritten.isDirectory (ready data hasData)
  rw [← usual] at decodedLater
  obtain ⟨result, later⟩ := load_of_found readyLater readLater decodedLater
  exact ⟨result, load_files_of_ready readyLater, configLater, later⟩

/--
Whatever was loaded is saved unless the system refuses it.  The document that is
saved has one member, the records of the document that was loaded.  Loaded and
saved again, by any manager of the same paths, it is left as it is, with its
mode.
-/
theorem save_normalises
    (manager : Manager)
    (files : FileSystem)
    (directory : Path)
    (usual : manager.codec = .verbatim)
    (known : manager.paths.machineData = some directory)
    (named :
      ∀ place, files.workDirectory = .present place →
        ∀ name ∈ place, name.Nameable)
    (done : (manager.load files).result = .ok ()) :
    let session := directory.child "session.json"
    let loaded := manager.load files
    let saved := loaded.manager.save loaded.files
    ∃ layer,
      readLayer loaded.files (some session) = .ok layer ∧
        loaded.manager.session.notebooks = layer.records ∧
          (∀ fault, saved.result = .error fault →
            ∃ detail, fault = .io detail) ∧
            (saved.result = .ok () →
              ∃ content mode,
                saved.files.status session = .ok (.file content mode) ∧
                  readDocument session content =
                    .ok (.object [("notebooks", .array layer.records)]) ∧
                    ∀ other : Manager, other.codec = .verbatim →
                      other.paths = manager.paths →
                      let again := other.load saved.files
                      let last := again.manager.save again.files
                      again.result = .ok () ∧
                        again.manager.session.notebooks = layer.records ∧
                          (∀ fault, last.result = .error fault →
                            ∃ detail, fault = .io detail) ∧
                            last.files.status session =
                              .ok (.file content mode)) := by
  intro session loaded saved
  obtain ⟨ready, layers, config, decodedSession, read, decoded, same⟩ :=
    found_of_load done
  obtain ⟨paths, codec⟩ := manager.load_paths files
  have path : manager.paths.session = some session := by
    rw [ResolvedPaths.session, known]
    rfl
  rw [usual] at decoded
  obtain ⟨-, -, old⟩ := layersOf_eq_ok.mp read
  rw [path] at old
  obtain ⟨-, copyable, rfl⟩ := decode_verbatim_eq_ok_iff.mp ⟨config, decoded⟩
  have each := Layer.faithful_records old
  obtain ⟨content, written⟩ :=
    sessionContent_of_copyable copyable fun record member =>
      (each record member).2.1
  have back :
      ∀ path, readDocument path content =
        .ok (sessionDocument layers.session.records) :=
    fun path =>
    (sessionContent_verbatim written
        (fun record member => ⟨(each record member).1,
        (each record member).2.2⟩) path).2
  have holdsRecords : loaded.manager.session = ⟨layers.session.records⟩ :=
    congrArg Manager.session same
  have workDirectory : loaded.files.workDirectory = files.workDirectory :=
    (manager.load_furnished files).workDirectory
  have first :
      SavedThere directory content loaded.files saved.result saved.files := by
    refine savedThere ?_ ?_ (ready directory (Or.inr known))
      (fileOrNothing_of_readLayer old) ?_
    · rw [paths]
      exact known
    · rw [codec, usual, holdsRecords]
      exact written
    · rw [workDirectory]
      exact named
  refine ⟨layers.session, old, congrArg Session.notebooks holdsRecords,
    fun _ => first.io, fun savedFirst => ?_⟩
  obtain ⟨mode, place, overwritten⟩ := first.overwritten savedFirst
  obtain ⟨kept, status⟩ := overwritten.kept
  refine ⟨content, mode, status, back session, ?_⟩
  intro other otherUsual otherPaths again last
  have otherKnown : other.paths.machineData = some directory :=
    otherPaths ▸ known
  obtain ⟨result, left, configLater, later⟩ :=
    load_overwritten otherUsual otherKnown overwritten
      (otherPaths ▸ ready) (otherPaths ▸ read) decoded back
  have second :
      SavedThere directory content again.files last.result last.files := by
    refine savedThere ?_ ?_ ?_ ?_ ?_
    · rw [later]
      exact otherKnown
    · rw [later, otherUsual]
      exact written
    · rw [left]
      exact isDirectory_iff.mpr kept.isDirectory
    · rw [left, kept.contentOf]
      trivial
    · rw [left, overwritten.same.workDirectory, workDirectory]
      exact named
  rw [left] at second
  exact ⟨result, congrArg (fun manager => manager.session.notebooks) later,
    fun _ => second.io, second.status_kept status⟩

/--
A session with a member that is none of its own, in a file for its owner alone.
-/
def crowded : FileSystem where
  entries :=
    [(["x"], .directory 0o755),
      ([Text.ofString "x", Text.ofString "session.json"],
        .file
          ⟨(Utf8.encode
            "\x7b\"notebooks\": [[], \"a\"], \"window\": 1\x7d".toList).toArray⟩
          0o600)]
  workDirectory := .present []
  umask := 0o022

/--
Of a session that holds more than its records the records are saved, once and
for all.
-/
theorem save_normalises_crowded :
    let loaded := (keeping (Path.ofText "/x")).load crowded
    let saved := loaded.manager.save loaded.files
    loaded.result = .ok () ∧ saved.result = .ok () ∧
      ∃ content mode,
        saved.files.status ((Path.ofText "/x").child "session.json") =
          .ok (.file content mode) ∧
          readDocument ((Path.ofText "/x").child "session.json") content =
            .ok
              (.object
                [("notebooks", .array loaded.manager.session.notebooks)]) := by
  have named :
      ∀ place, crowded.workDirectory = .present place →
        ∀ name ∈ place, name.Nameable := by
    rintro place present name member
    cases present
    exact absurd member List.not_mem_nil
  have done : ((keeping (Path.ofText "/x")).load crowded).result = .ok () := by
    decide +kernel
  have saved : (((keeping (Path.ofText "/x")).load crowded).manager.save
      ((keeping (Path.ofText "/x")).load crowded).files).result = .ok () := by
    decide +kernel
  refine ⟨done, saved, ?_⟩
  obtain ⟨layer, known⟩ :=
    (keeping (Path.ofText "/x")).save_normalises crowded
      (Path.ofText "/x") rfl rfl named done
  obtain ⟨content, mode, outcome⟩ := known.2.2.2 saved
  refine ⟨content, mode, outcome.1, ?_⟩
  rw [known.2.1]
  exact outcome.2.1

end Manager

end SettingsStore
