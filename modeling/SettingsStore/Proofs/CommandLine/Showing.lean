import SettingsStore.Proofs.CommandLine.Ending
import SettingsStore.Proofs.Config.RoundTrip

/-!
# What is shown of a load

What `config dump` shows agrees with what the load before it found, though it
asks the files anew: a load goes on only where a document was read or where
nothing was at its path, and who keeps no log file changes nothing in between.
The contents that are shown are those that were loaded, and reading them gives
the same documents again, since the strings of a configuration come from
documents that were read or are built in.
-/

namespace SettingsStore

/-! ## What a load found -/

/-- A layer was found, and is neither missing nor without a path. -/
def Layer.isFound : Layer → Bool
  | .unresolved | .missing _ => false
  | .foreign _ | .document _ => true

namespace Program

/-- What a load of the documents of some paths finds in them. -/
def layersFound
    (program : Program)
    (paths : ResolvedPaths) :
    Except Fault Layers :=
  match (ensureDataDirectories paths).runOn program.files with
  | (.error fault, _) => .error fault
  | (.ok (), trail) =>
      (readLayers listener (program.withFiles trail.files fun _ =>
          false) paths).1

/-- What the documents say is decoded from what is found in them. -/
theorem documents_eq
    (program : Program)
    (paths : ResolvedPaths)
    (codec : RecordCodec) :
    program.documents paths codec =
      match program.layersFound paths with
      | .error fault => .error fault
      | .ok layers => layers.decode codec := by
  rw [documents, layersFound]
  obtain ⟨made, trail⟩ := (ensureDataDirectories paths).runOn program.files
  cases made <;> rfl

/--
Where a layer was read, something is at its path exactly if the layer was found.
-/
theorem finds_of_readLayer
    {program : Program}
    {path : Option Path}
    {layer : Layer}
    (read : readLayer program.files path = .ok layer) :
    program.finds path = layer.isFound := by
  cases path with
  | none =>
      cases read
      rfl
  | some path =>
      rw [readLayer, FileSystem.contentOf] at read
      rw [finds, FileSystem.pathExists]
      cases status : program.files.status path with
      | error error =>
          rw [status] at read
          cases error with
          | noEntry | notDirectory =>
              cases read
              rfl
          | _ => cases read
      | ok entry =>
          rw [status] at read
          cases entry with
          | file content mode =>
              dsimp only at read
              split at read
              · cases read
              · cases read
                rfl
              · cases read
                rfl
          | directory | link => cases read

/--
A program that keeps no log file finds what is in the files once the data
directories are there.
-/
theorem layersFound_of_unfiled
    {program : Program}
    {paths : ResolvedPaths}
    {trail : Trail}
    (unfiled : program.journal.Unfiled)
    (made :
      (ensureDataDirectories paths).on ⟨program.files, []⟩ = (.ok (), trail)) :
    program.layersFound paths = layersOf trail.files paths := by
  have silent :
      (program.withFiles trail.files fun _ => false).Silent trail.files :=
    ⟨unfiled.afterRemoval _ _, rfl⟩
  obtain ⟨outcome, _, _, here, there, -⟩ :=
    @Log.Listener.Agree.readLayers _ _ _ _ _ _ []
      (listener_agree_quiet trail.files) silent paths
  rw [layersFound, Procedure.runOn_eq, made]
  dsimp only
  rw [here, ← readLayers_quiet trail.files [] paths, there]

/--
What such a program loads is what it finds, and it leaves the files in which it
found that.
-/
theorem found_of_load
    {program after : Program}
    {manager loaded : Manager}
    (unfiled : program.journal.Unfiled)
    (loads : program.load manager = (.ok (), loaded, after)) :
    ∃ layers,
      program.layersFound manager.paths = .ok layers ∧
        layersOf after.files manager.paths = .ok layers ∧
        layers.decode manager.codec = .ok (loaded.config, loaded.session) ∧
          loaded.paths = manager.paths := by
  obtain ⟨result, -, -, files⟩ := load_of_unfiled unfiled manager
  obtain ⟨trail, made⟩ :=
    Manager.made_of_load (result.symm.trans (by rw [loads]))
  rw [Manager.load_files, made, loads] at files
  dsimp only at files
  obtain ⟨outcome, taken⟩ := program.load_eq manager
  rw [loads, documents_eq] at outcome taken
  rw [files, ← layersFound_of_unfiled unfiled made]
  cases found : program.layersFound manager.paths with
  | error fault =>
      rw [found] at outcome
      cases outcome
  | ok layers =>
      rw [found] at outcome taken
      dsimp only at outcome taken
      cases decoded : layers.decode manager.codec with
      | error fault =>
          rw [decoded] at outcome
          cases outcome
      | ok documents =>
          rw [decoded] at taken
          rw [taken]
          exact ⟨layers, rfl, rfl, decoded, rfl⟩

end Program

/-! ## What is shown -/

/--
A section is that of a path where a layer was looked for, and its text is read
as a document.
-/
structure Section.Tells
    (shown : Section)
    (title : Text)
    (path : Option Path)
    (layer : Layer)
    (document : Json) :
    Prop where
  title : shown.title = title
  path : shown.path = path
  found : shown.found = layer.isFound
  document : Json.parse shown.document = .ok document

namespace Program

/-- Without a log file to keep the journal is always set up. -/
theorem setUpJournal_of_noFile
    {program : Program}
    {options : Log.JournalOptions}
    (noFile : options.filePath program.host.environment = none) :
    ∃ set, program.setUpJournal options = (.ok (), set) ∧
      set.journal.Unfiled ∧ set.console = program.console ∧
        set.output = program.output := by
  rw [setUpJournal, Log.Journal.setUp]
  dsimp only
  rw [noFile]
  dsimp only
  refine ⟨_, rfl, ?_, (told_tell _ _).console, (told_tell _ _).output⟩
  refine (@Silent.tell program.files _ ?_ _).1
  exact ⟨rfl, rfl⟩

/-- Making a manager keeps no log file either. -/
theorem unfiled_of_construct
    {program made : Program}
    {source : Option DirectorySource}
    {codec : RecordCodec}
    {testMode : Option Bool}
    {manager : Manager}
    (unfiled : program.journal.Unfiled)
    (constructed :
      program.construct source codec testMode = (.ok manager, made)) :
    made.journal.Unfiled := by
  obtain ⟨outcome, after, _, here, -, silent⟩ :=
    @Log.Listener.Agree.constructTelling _ _ _ _ _ program []
      (listener_agree_quiet program.files) ⟨unfiled, rfl⟩
      program.host program.testMode source codec testMode
  rw [construct, here] at constructed
  cases constructed
  exact silent.1

section

variable {program made after : Program} {manager loaded : Manager}
  (constructed : program.construct none .verbatim none = (.ok manager, made))
  (loads : made.load manager = (.ok (), loaded, after))

include constructed loads

/--
What is shown of a load tells what it found, and with the contents what it took
over.
-/
theorem dump_shows (unfiled : program.journal.Unfiled) :
    ∃ layers app session,
      made.layersFound manager.paths = .ok layers ∧
        Section.Tells app "App Config" manager.paths.userConfig layers.user
          loaded.config.toJson ∧
          Section.Tells session "Session Config" manager.paths.session
            layers.session
              (sessionDocument loaded.session.notebooks) ∧
            ∀ pathsOnly,
              let showing := program.console.showing app session pathsOnly
              (program.dump pathsOnly).1 = .ofLoading (.ok ()) showing.1 ∧
                (program.dump pathsOnly).2.output =
                  program.output ++ showing.2 := by
  have usual := construct_codec constructed
  obtain ⟨layers, found, read, decoded, paths⟩ :=
    found_of_load (unfiled_of_construct unfiled constructed) loads
  obtain ⟨defaults, user, session⟩ := layersOf_eq_ok.mp read
  -- the strings of the configuration and the records come from documents that
  -- were read
  have configBack : Json.Faithful Json.levelLimit loaded.config.toJson := by
    have userBack := Layer.faithful_members user
    obtain ⟨version, backends⟩ :=
      Layers.unpaired_of_decode (Layer.faithful_members defaults).spelled
        ⟨userBack.distinct, userBack.spelled⟩ decoded
    exact Config.faithful_toJson version backends
  have sessionBack :
      Json.Faithful Json.levelLimit
        (sessionDocument loaded.session.notebooks) := by
    rw [usual] at decoded
    obtain ⟨-, copyable, records⟩ := decode_verbatim_eq_ok_iff.mp ⟨_, decoded⟩
    have back := Layer.faithful_records session
    rw [records]
    refine faithful_sessionDocument copyable ?_ fun record member =>
      ⟨(back record member).1, (back record member).2.2⟩
    exact hasHugeInteger_sessionDocument.mpr fun record member =>
      (back record member).2.1
  have told := told_of_loaded constructed loads
  refine ⟨layers, after.configSection loaded, after.sessionSection loaded,
    found, ?_, ?_, fun pathsOnly => ?_⟩
  · refine ⟨rfl, by rw [← paths]; rfl, ?_, Json.parse_toIndented configBack⟩
    rw [← paths] at user
    exact finds_of_readLayer user
  · refine ⟨rfl, by rw [← paths]; rfl, ?_, Json.parse_toIndented sessionBack⟩
    rw [← paths] at session
    exact finds_of_readLayer session
  · rw [dump_of_loaded constructed loads, told.console, ← told.output]
    exact ⟨rfl, rfl⟩

end

/--
A program on a machine with settings of the user, which are an empty object, but
without a session, and with an output in UTF-8.
-/
def settledProgram (home : Text) : Program :=
  let name : Text := home.drop 1
  let directory : Entry := .directory 0o755
  { Program.start
      { bareProgram.host with
        environment := [("HOME", home)]
        files :=
          ⟨[([name], directory), ([name, ".local"], directory),
              ([name, ".local", "share"], directory),
              ([name, ".local", "share", "VNote"], directory),
              ([name, ".local", "share", "VNote", "vxcore.json"],
                .file ⟨#[0x7B, 0x7D]⟩ 0o644)],
            .present [], 0o022⟩ } with
    console := .utf8 }

/-- In UTF-8 a home directory whose name is no text is not shown. -/
example :
    let octet : Text := [CodePoint.ofOctet 0xFF]
    let shown :=
      (settledProgram ("/" ++ octet)).run commandLogger ["config", "dump"]
    shown.1 =
        .unwritten
          ⟨"'utf-8' codec can't encode character '\\udcff' in position 20: " ++
            "surrogates not allowed"⟩ ∧
      shown.2.output = heading := by
  decide +kernel

end Program

end SettingsStore
