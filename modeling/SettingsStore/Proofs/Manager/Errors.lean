import SettingsStore.Proofs.Json.Reading
import SettingsStore.Proofs.Manager.FirstFailure

/-!
# What a load does not translate

A load that is stopped tells so with an error of the store for reading or for
parsing, except in two ways that are told here exactly: one of its paths is none
that the system could be asked about, or a document holds a whole number with
more digits than are read.  These two pass through, and then the manager is not
marked as failed.
-/

namespace SettingsStore

open FileSystem

/-- An error of the store for reading or for parsing. -/
def Told (fault : Fault) : Prop :=
  ∃ error, fault = .store error ∧ (error.kind = .io ∨ error.kind = .jsonParse)

theorem told_io (detail : Text) : Told (.io detail) :=
  ⟨_, rfl, Or.inl rfl⟩

theorem told_jsonParse (detail : Text) : Told (.jsonParse detail) :=
  ⟨_, rfl, Or.inr rfl⟩

/-- The directory that was made has a path that the system takes. -/
theorem speakable_of_ensureDataDirectory
    {path : Path}
    {trail after : Trail}
    (made : (ensureDataDirectory (some path)).on trail = (.ok (), after)) :
    Speakable path := by
  rcases speakable_or path with speakable | ⟨cause, unspeakable⟩
  · exact speakable
  · rw [ensureDataDirectory_unspeakable unspeakable] at made
    cases made

/-! ## Loads -/

/-- What stops a load without being told as an error of the store. -/
inductive Untranslated
    (files : FileSystem)
    (paths : ResolvedPaths) :
    Fault → Prop where
  | userData {directory : Path} {cause : NameError}
      (known : paths.userData = some directory)
      (unspeakable : Unspeakable directory cause) :
      Untranslated files paths (.path (.name cause))
  | machineData {directory : Path} {cause : NameError} {after : Trail}
      (made :
        (ensureDataDirectory paths.userData).on ⟨files, []⟩ = (.ok (), after))
      (known : paths.machineData = some directory)
      (unspeakable : Unspeakable directory cause) :
      Untranslated files paths (.path (.name cause))
  | defaults {path : Path} {cause : NameError} {after : Trail}
      (made : (ensureDataDirectories paths).on ⟨files, []⟩ = (.ok (), after))
      (known : paths.defaultConfig = some path)
      (unspeakable : Unspeakable path cause) :
      Untranslated files paths (.path (.name cause))
  | document {before later : List (Option Path)} {path : Path} {digits : Nat}
    {after : Trail}
      (made : (ensureDataDirectories paths).on ⟨files, []⟩ = (.ok (), after))
      (order : paths.documents = before ++ some path :: later)
      (read :
        ∀ earlier ∈ before, ∃ layer, readLayer after.files earlier = .ok layer)
      (huge : HoldsHugeInteger after.files path digits) :
      Untranslated files paths (.hugeInteger digits)

/-- What is not translated does stop the load. -/
theorem documentsOf_of_untranslated
    {files : FileSystem}
    {paths : ResolvedPaths}
    {fault : Fault}
    (untranslated : Untranslated files paths fault)
    (codec : RecordCodec) :
    documentsOf files paths codec = .error fault := by
  cases untranslated with
  | userData known unspeakable =>
      have stopped := ensureDataDirectories_on paths ⟨files, []⟩
      rw [known, ensureDataDirectory_unspeakable unspeakable] at stopped
      exact documentsOf_of_unmade stopped codec
  | machineData made known unspeakable =>
      have stopped := ensureDataDirectories_on paths ⟨files, []⟩
      rw [made, known] at stopped
      dsimp only at stopped
      rw [ensureDataDirectory_unspeakable unspeakable] at stopped
      exact documentsOf_of_unmade stopped codec
  | @defaults _ _ after made known unspeakable =>
      have refused := layersOf_eq_error_iff.mpr
        ⟨[], _, _,
          rfl, by simp, known ▸ readLayer_unspeakable unspeakable after.files⟩
      rw [documentsOf_of_made made codec, refused]
  | document made order read huge =>
      have refused :=
        layersOf_eq_error_iff.mpr
          ⟨_, _, _, order, read, readLayer_hugeInteger huge⟩
      rw [documentsOf_of_made made codec, refused]

theorem encode_vxcore : 0 ∉ Utf8.encode "vxcore.json".toList := by
  decide

theorem encode_session : 0 ∉ Utf8.encode "session.json".toList := by
  decide

/--
The documents of the settings and of the session are in directories that were
made.
-/
theorem speakable_of_made
    {files : FileSystem}
    {paths : ResolvedPaths}
    {path : Path}
    {after : Trail}
    (made : (ensureDataDirectories paths).on ⟨files, []⟩ = (.ok (), after))
    (known : paths.userConfig = some path ∨ paths.session = some path) :
    Speakable path := by
  rw [ensureDataDirectories_on] at made
  cases user : (ensureDataDirectory paths.userData).on ⟨files, []⟩ with
  | mk outcome first =>
      rw [user] at made
      cases outcome with
      | error failed => cases made
      | ok =>
          rcases known with config | session
          · obtain ⟨directory, held, rfl⟩ := Option.map_eq_some_iff.mp config
            rw [held] at user
            exact (speakable_of_ensureDataDirectory user).child encode_vxcore
          · obtain ⟨directory, held, rfl⟩ := Option.map_eq_some_iff.mp session
            dsimp only at made
            rw [held] at made
            exact (speakable_of_ensureDataDirectory made).child encode_session

theorem DirectoryFailure.told_or_unspeakable
    {path : Path}
    {trail : Trail}
    {fault : Fault}
    (failed : DirectoryFailure path trail fault) :
    Told fault ∨ ∃ cause, Unspeakable path cause ∧
      fault = .path (.name cause) := by
  cases failed with
  | refused => exact Or.inl (told_io _)
  | unspeakable none => exact Or.inr ⟨_, none, rfl⟩

/-- The first failure of a load is told or not translated. -/
theorem FirstFailure.told_or_untranslated
    {files : FileSystem}
    {paths : ResolvedPaths}
    {fault : Fault}
    (failure : FirstFailure files paths fault) :
    Told fault ∨ Untranslated files paths fault := by
  cases failure with
  | userData known failed =>
      rcases failed.told_or_unspeakable with told | ⟨cause, unspeakable, rfl⟩
      · exact Or.inl told
      · exact Or.inr (.userData known unspeakable)
  | machineData made known failed =>
      rcases failed.told_or_unspeakable with told | ⟨cause, unspeakable, rfl⟩
      · exact Or.inl told
      · exact Or.inr (.machineData made known unspeakable)
  | nesting => exact Or.inl (told_jsonParse _)
  | @document before later path _ after made order sound failed =>
      cases failed with
      | unreadable => exact Or.inl (told_io _)
      | malformed => exact Or.inl (told_jsonParse _)
      | unparsed => exact Or.inl (told_jsonParse _)
      | hugeInteger huge =>
          refine Or.inr (.document made order ?_ huge)
          intro earlier member
          exact readLayer_ok_iff.mpr fun known same =>
            sound known (same ▸ member)
      | unspeakable none =>
          have member : some path ∈ paths.documents := by simp [order]
          simp only [ResolvedPaths.documents, List.mem_cons, List.not_mem_nil,
            or_false] at member
          rcases member with defaults | known
          · exact Or.inr (.defaults made defaults.symm none)
          · have speakable := speakable_of_made made (known.imp Eq.symm Eq.symm)
            exact absurd speakable none.not_speakable

theorem Untranslated.not_told
    {files : FileSystem}
    {paths : ResolvedPaths}
    {fault : Fault}
    (untranslated : Untranslated files paths fault) :
    ¬ Told fault := by
  rintro ⟨error, same, _⟩
  cases untranslated <;> cases same

/--
A whole number that is too long to be read is a run of so many digits in the
text of its document.
-/
theorem HoldsHugeInteger.holdsDigits
    {files : FileSystem}
    {path : Path}
    {digits : Nat}
    (huge : HoldsHugeInteger files path digits) :
    ∃ content characters,
      files.contentOf path = .ok content ∧
        Utf8.decode content.data.toList = .ok characters ∧
        Json.digitLimit < digits ∧
          Json.HoldsDigits (Text.ofChars (unifyLines characters)) digits := by
  obtain ⟨content, characters, held, decoded, long⟩ := huge
  exact ⟨content, characters, held, decoded, Json.holdsDigits_of_parse long⟩

namespace Manager

/--
A load that makes the manager ready, or that fails with an error of the store
for reading or parsing and marks the manager as failed.
-/
def Outcome.KeepsContract (outcome : Outcome) : Prop :=
  (outcome.result = .ok () ∧ outcome.manager.state = .ready) ∨
    ∃ fault, Told fault ∧ outcome.result = .error fault ∧
      outcome.manager.state = .failed

/--
A load keeps its contract exactly if nothing stops it that is not translated;
what does passes through and leaves the manager as it was.  If that is a whole
number, a document holds a run of so many digits, which are too many.
-/
theorem load_keepsContract_iff
    (manager : Manager)
    (files : FileSystem)
    (usual : manager.codec = .verbatim) :
    ((manager.load files).KeepsContract ↔
        ∀ fault, ¬ Untranslated files manager.paths fault) ∧
      (∀ fault, Untranslated files manager.paths fault →
        (manager.load files).result = .error fault ∧
          (manager.load files).manager = manager) ∧
      ∀ digits, Untranslated files manager.paths (.hugeInteger digits) →
        ∃ path after content characters,
          (ensureDataDirectories manager.paths).on ⟨files, []⟩ =
              (.ok (), after) ∧
            some path ∈ manager.paths.documents ∧
              after.files.contentOf path = .ok content ∧
                Utf8.decode content.data.toList = .ok characters ∧
                  Json.digitLimit < digits ∧
                    Json.HoldsDigits (Text.ofChars (unifyLines characters))
                      digits := by
  obtain ⟨result, after, _⟩ := manager.load_eq files
  have stops : ∀ fault, Untranslated files manager.paths fault →
      (manager.load files).result = .error fault ∧
        (manager.load files).manager = manager := by
    intro fault untranslated
    have stopped := documentsOf_of_untranslated untranslated manager.codec
    rw [stopped] at result after
    refine ⟨result, after.trans ?_⟩
    cases untranslated <;> rfl
  refine ⟨⟨?_, ?_⟩, stops, fun digits untranslated => ?_⟩
  · intro keeps fault untranslated
    obtain ⟨failed, _⟩ := stops fault untranslated
    rcases keeps with ⟨done, _⟩ | ⟨other, told, same, _⟩
    · rw [done] at failed
      cases failed
    · rw [failed] at same
      cases same
      exact untranslated.not_told told
  · intro translated
    rw [usual] at result after
    cases read : documentsOf files manager.paths .verbatim with
    | ok decoded =>
        rw [read] at result after
        exact Or.inl ⟨result, by rw [after]; rfl⟩
    | error fault =>
        rw [read] at result after
        rcases (documentsOf_error_iff.mp read).told_or_untranslated with
          told | untranslated
        · refine Or.inr ⟨fault, told, result, ?_⟩
          obtain ⟨error, rfl, _⟩ := told
          rw [after]
          rfl
        · exact absurd untranslated (translated fault)
  · cases untranslated with
    | @document _ _ path _ made_ made order read huge =>
        obtain ⟨content, characters, held⟩ := huge.holdsDigits
        have among : some path ∈ manager.paths.documents := by simp [order]
        exact ⟨path, _, content, characters, made, among, held⟩

/--
A directory in which the document of the session is a whole number of one digit
too many.
-/
def longNumber : FileSystem where
  entries :=
    [(["x"], .directory 0o755),
      (sessionPlace ["x"], .file ⟨(List.replicate 4301 0x31).toArray⟩ 0o644)]
  workDirectory := .present []
  umask := 0o022

/-- The whole number passes through, and the manager is not marked as failed. -/
theorem load_longNumber :
    let outcome := (keeping (Path.ofText "/x")).load longNumber
    outcome.result = .error (.hugeInteger 4301) ∧
      outcome.manager.state = .pathsResolved ∧
      ¬ outcome.KeepsContract := by
  have passed :
      ((keeping (Path.ofText "/x")).load longNumber).result =
        .error (.hugeInteger 4301) := by
    decide +kernel
  refine ⟨passed, by decide +kernel, ?_⟩
  rintro (⟨done, _⟩ | ⟨fault, ⟨error, rfl, _⟩, failed, _⟩)
  · rw [passed] at done
    cases done
  · rw [passed] at failed
    cases failed

theorem load_keepsContract_iff_selfHolding :
    ((keeping (Path.ofText "/x")).load selfHolding).KeepsContract ↔
      ∀ fault,
        ¬ Untranslated selfHolding (keeping (Path.ofText "/x")).paths fault :=
  (load_keepsContract_iff (keeping (Path.ofText "/x")) selfHolding rfl).1

end Manager

end SettingsStore
