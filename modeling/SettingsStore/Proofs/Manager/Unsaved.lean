import SettingsStore.Proofs.Files.Refusal
import SettingsStore.Proofs.Files.Resolving
import SettingsStore.Proofs.Manager.Restoring

/-!
# What stops a save

A save is stopped before it touches the files if it does not know its directory
or cannot put its records into words, and after that by the first operation that
the system refuses.  It tells so with an error of the store, except in two ways:
a record is nested too deeply to be copied, or the directory has a path that the
system could not be asked about.  The first is found while the records are
copied, one level after the other.  The second is found when the directory is
made, and by no later operation, since the names that a save adds are ordinary
ones.
-/

namespace SettingsStore

open FileSystem

/-! ## Procedures that are refused for no name -/

/--
No operation of a procedure is refused for a path that the system could not be
asked about.
-/
def Unnamed {Result : Type} (procedure : Procedure FileError Result) : Prop :=
  ∀ trail cause after, procedure.on trail ≠ (.error (.name cause), after)

theorem Unnamed.bind
    {Result Next : Type}
    {procedure : Procedure FileError Result}
    {next : Result → Procedure FileError Next}
    (first : Unnamed procedure)
    (second : ∀ result, Unnamed (next result)) :
    Unnamed (procedure >>= next) := by
  intro trail cause after failed
  rw [Procedure.on_bind] at failed
  split at failed
  · rename_i result reached ran
    exact second result reached cause after failed
  · rename_i error reached ran
    cases failed
    exact first trail cause after ran

theorem unnamed_perform
    {operation : FileSystem → Except FileError FileSystem}
    (taken : ∀ files cause, operation files ≠ .error (.name cause)) :
    Unnamed (Procedure.perform operation) := by
  intro trail cause after failed
  cases ran : operation trail.files with
  | ok files =>
      rw [Procedure.on_perform_of_ok ran] at failed
      cases failed
  | error error =>
      rw [Procedure.on_perform_of_error ran] at failed
      cases failed
      exact taken trail.files cause ran

theorem unnamed_ask
    {Result : Type}
    {question : FileSystem → Except FileError Result}
    (taken : ∀ files cause, question files ≠ .error (.name cause)) :
    Unnamed (Procedure.ask question) := by
  intro trail cause after failed
  rw [Procedure.on_ask] at failed
  exact taken trail.files cause (congrArg Prod.fst failed)

namespace FileSystem

section

variable {path temporary : Path} {cause : NameError}

theorem locate_ne_name
    (speakable : Speakable path)
    (files : FileSystem)
    (followLast : Bool) :
    files.locate path followLast ≠ .error (.name cause) :=
  fun refused => (locate_eq_name_iff.mp refused).not_speakable speakable

theorem createFile_ne_name
    (speakable : Speakable path)
    (files : FileSystem)
    (mode : Nat) :
    files.createFile path mode ≠ .error (.name cause) := by
  intro refused
  rw [createFile] at refused
  split at refused
  · rename_i located
    cases refused
    exact locate_ne_name speakable files false located
  · cases refused
  · cases refused

theorem writeContent_ne_name
    (speakable : Speakable path)
    (files : FileSystem)
    (content : ByteArray) :
    files.writeContent path content ≠ .error (.name cause) := by
  intro refused
  rw [writeContent] at refused
  split at refused
  · rename_i located
    split at refused
    · cases refused
    · cases refused
      exact locate_ne_name speakable files true located
  · rw [storeAt] at refused
    split at refused <;> cases refused

theorem targetMode_ne_name
    (speakable : Speakable path)
    (files : FileSystem) :
    targetMode files path ≠ .error (.name cause) := by
  intro refused
  rw [targetMode, modeOf] at refused
  split at refused
  · cases refused
  · cases refused
  · rename_i asked
    cases refused
    split at asked
    · rename_i status
      cases asked
      exact (status_eq_name_iff.mp status).not_speakable speakable
    · cases asked
    · cases asked
    · cases asked

theorem changeMode_ne_name
    (speakable : Speakable path)
    (files : FileSystem)
    (mode : Nat) :
    files.changeMode path mode ≠ .error (.name cause) := by
  intro refused
  rw [changeMode] at refused
  split at refused
  · rename_i located
    cases refused
    exact locate_ne_name speakable files true located
  · cases refused
  · cases refused
  · cases refused
  · cases refused

theorem rename_ne_name
    (source : Speakable temporary)
    (target : Speakable path)
    (files : FileSystem) :
    files.rename temporary path ≠ .error (.name cause) := by
  intro refused
  rw [rename] at refused
  split at refused
  · rename_i located
    cases refused
    exact locate_ne_name source files false located
  · cases refused
  · split at refused
    · rename_i located
      cases refused
      exact locate_ne_name target files false located
    · split at refused
      · cases refused
      · cases refused
      · cases refused
      · split at refused <;> cases refused

theorem unnamed_fillAndReplace
    (target : Speakable path)
    (source : Speakable temporary)
    (content : ByteArray) :
    Unnamed (fillAndReplace path temporary content) := by
  refine .bind (unnamed_perform fun files cause =>
      writeContent_ne_name source files content) fun _ => ?_
  refine .bind (unnamed_perform fun _ _ => nofun) fun _ => ?_
  refine .bind (unnamed_ask fun files cause => targetMode_ne_name target files)
    fun mode => ?_
  refine .bind (unnamed_perform fun files cause =>
      changeMode_ne_name source files mode) fun _ => ?_
  exact unnamed_perform fun files cause => rename_ne_name source target files

theorem nameable_temporarySession
    (number : Nat) :
    (temporarySession number).Nameable := by
  have ordinary :
      '\x00' ∉ List.replicate (8 - (Nat.toDigits 10 number).length) '0' ++
        Nat.toDigits 10 number := by
    intro null
    rcases List.mem_append.mp null with zero | digit
    · exact absurd (List.eq_of_mem_replicate zero) (by decide)
    · exact absurd (Nat.isDigit_of_mem_toDigits (by decide) (by decide) digit)
        (by decide)
  rw [temporarySession, temporaryName, Text.nameable_append,
    Text.nameable_append]
  exact ⟨⟨by decide, Text.nameable_ofChars ordinary⟩, by decide⟩

/--
Beside a path that the system takes, it takes the names of temporary files.
-/
theorem unnamed_createTemporaryFrom
    {directory : Path}
    (speakable : Speakable directory)
    (tries number : Nat) :
    Unnamed
      (createTemporaryFrom directory ".session." ".tmp" tries number) := by
  induction tries generalizing number with
  | zero =>
      intro trail cause after failed
      cases failed
  | succ tries induction =>
      intro trail cause after failed
      have child : Speakable (directory.child (temporarySession number)) :=
        speakable_child_iff.mpr ⟨speakable, nameable_temporarySession number⟩
      rw [createTemporaryFrom, Procedure.on_bind, Procedure.on_attempt]
        at failed
      cases made :
        trail.files.createFile
        (directory.child (temporarySession number)) 0o600 with
      | ok files =>
          rw [Procedure.on_perform_of_ok made] at failed
          cases failed
      | error error =>
          rw [Procedure.on_perform_of_error made] at failed
          cases error with
          | alreadyExists =>
              exact induction (number + 1) trail cause after failed
          | name => exact createFile_ne_name child trail.files 0o600 made
          | _ => cases failed

end

/-! ## Replacements that are refused for a name -/

/--
A replacement at a path that the system takes is refused for no name, wherever
the process works.
-/
theorem replaceFile_ne_name
    {path : Path}
    {trail after : Trail}
    {cause : NameError}
    (speakable : Speakable path)
    (named :
      ∀ place, trail.files.workDirectory = .present place →
        ∀ name ∈ place, name.Nameable)
    (content : ByteArray) :
    (replaceFile path content).on trail ≠ (.error (.name cause), after) := by
  intro failed
  have continues := (makeDirectories_continues path.parent trail).files
  rw [replaceFile_on] at failed
  cases ran : (makeDirectories path.parent).on trail with
  | mk outcome made =>
      rw [ran] at continues failed
      cases outcome with
      | error failure =>
          obtain ⟨error, refused⟩ := failure
          cases failed
          have unspeakable := makeDirectories_eq_name_iff.mp ⟨_, _, ran⟩
          exact unspeakable.not_speakable speakable.parent
      | ok =>
          dsimp only at failed
          cases fromRoot : made.files.fromRoot? path.parent with
          | none =>
              rw [fromRoot] at failed
              cases failed
          | some directory =>
              rw [← continues.workDirectory] at named
              have whole :=
                (speakable_of_fromRoot? named speakable.parent
                    fromRoot).normalize
              rw [fromRoot] at failed
              dsimp only at failed
              have known :=
                created directory.normalize ".session." ".tmp"
                  temporaryTries 0 made
              rw [← createTemporary] at known
              generalize temporary :
                (createTemporary directory.normalize ".session." ".tmp").on
                made = result
                at known failed
              cases known with
              | refused error =>
                  cases failed
                  exact unnamed_createTemporaryFrom whole temporaryTries 0 _
                    cause _ temporary
              | @created number origin free =>
                  have source : Speakable (temporaryPath directory number) :=
                    speakable_child_iff.mpr
                      ⟨whole, nameable_temporarySession number⟩
                  dsimp only at failed
                  split at failed
                  · cases failed
                  · rename_i error reached tried
                    cases failed
                    exact unnamed_fillAndReplace speakable source content _
                      cause reached tried

theorem replaceFile_unspeakable
    {directory : Path}
    {cause : NameError}
    (unspeakable : Unspeakable directory cause)
    (content : ByteArray)
    (trail : Trail) :
    (replaceFile (directory.child "session.json") content).on trail =
      (.error (.name cause), trail) := by
  rw [replaceFile_on, parent_child, makeDirectories_unspeakable unspeakable]

/--
A session is refused for the path of its directory if that is none that the
system could be asked about.
-/
theorem replaceFile_eq_name_iff
    {directory : Path}
    {trail : Trail}
    {cause : NameError}
    (named :
      ∀ place, trail.files.workDirectory = .present place →
        ∀ name ∈ place, name.Nameable)
    (content : ByteArray) :
    (∃ after, (replaceFile (directory.child "session.json") content).on trail =
        (.error (.name cause), after)) ↔
      Unspeakable directory cause := by
  constructor
  · rintro ⟨after, failed⟩
    rcases speakable_or directory with speakable | ⟨other, unspeakable⟩
    · have session : Speakable (directory.child "session.json") :=
        speakable_child_iff.mpr ⟨speakable, by decide⟩
      exact absurd failed (replaceFile_ne_name session named content)
    · rw [replaceFile_unspeakable unspeakable] at failed
      cases failed
      exact unspeakable
  · intro unspeakable
    exact ⟨trail, replaceFile_unspeakable unspeakable content trail⟩

end FileSystem

/-! ## Sessions that are not put into words -/

section

variable {records : List Json}

/-- What is told of a whole number with too many digits. -/
def overlongDetail : Text :=
  "Exceeds the limit (" ++ toString Json.digitLimit ++
    " digits) for integer string conversion; " ++
    "use sys.set_int_max_str_digits() to increase the limit"

/-- Records are copied before any of them is put into words. -/
theorem sessionContent_of_deep
    {record : Json}
    (among : record ∈ records)
    (deep : ¬ record.Copyable) :
    sessionContent .verbatim ⟨records⟩ = .error (.record .tooDeep) := by
  have copied : records.mapM RecordCodec.verbatim.encode = _ :=
    mapM_copy records
  rw [sessionContent, Session.toJson]
  dsimp only
  rw [copied, if_neg fun copyable => deep (copyable record among)]
  rfl

theorem hasHugeInteger_sessionDocument :
    (sessionDocument records).hasHugeInteger = false ↔
      ∀ record ∈ records, record.hasHugeInteger = false := by
  rw [sessionDocument, Json.hasHugeInteger,
    Json.hasHugeIntegerInMembers_eq_false_iff, List.forall_mem_singleton]
  exact Json.hasHugeIntegerInItems_eq_false_iff

theorem sessionContent_of_overlong
    {record : Json}
    (copyable : ∀ record ∈ records, record.Copyable)
    (among : record ∈ records)
    (overlong : record.hasHugeInteger = true) :
    sessionContent .verbatim ⟨records⟩ =
      .error (.store ⟨.jsonSerialize, some overlongDetail⟩) := by
  have huge : (sessionDocument records).hasHugeInteger = true := by
    rw [← Bool.not_eq_false, hasHugeInteger_sessionDocument]
    exact fun small => Bool.false_ne_true
      ((small record among).symm.trans overlong)
  rw [sessionContent, toJson_of_copyable copyable]
  exact if_pos huge

/--
The records of the usual codec that can be copied are written, unless a whole
number among them is too long.
-/
theorem sessionContent_of_copyable
    (copyable : ∀ record ∈ records, record.Copyable)
    (small : ∀ record ∈ records, record.hasHugeInteger = false) :
    ∃ content, sessionContent .verbatim ⟨records⟩ = .ok content := by
  rw [sessionContent, toJson_of_copyable copyable]
  dsimp only
  rw [hasHugeInteger_sessionDocument.mpr small]
  exact ⟨_, rfl⟩

end

/-! ## Saves -/

namespace Manager

/-- What stops a save of a manager, with the fault that it is stopped by. -/
inductive Stopped (manager : Manager) (files : FileSystem) : Fault → Prop where
  | unresolved
      (unknown : manager.paths.machineData = none) :
      Stopped manager files
        (.store ⟨.notInitialized, some "local data path is not resolved"⟩)
  | nested {directory : Path} {record : Json}
      (known : manager.paths.machineData = some directory)
      (among : record ∈ manager.session.notebooks)
      (deep : ¬ record.Copyable) :
      Stopped manager files (.record .tooDeep)
  | overlong {directory : Path} {record : Json}
      (known : manager.paths.machineData = some directory)
      (copyable : ∀ record ∈ manager.session.notebooks, record.Copyable)
      (among : record ∈ manager.session.notebooks)
      (overlong : record.hasHugeInteger = true) :
      Stopped manager files (.store ⟨.jsonSerialize, some overlongDetail⟩)
  | unspeakable {directory : Path} {cause : NameError}
      (known : manager.paths.machineData = some directory)
      (copyable : ∀ record ∈ manager.session.notebooks, record.Copyable)
      (small :
        ∀ record ∈ manager.session.notebooks, record.hasHugeInteger = false)
      (unspeakable : Unspeakable directory cause) :
      Stopped manager files (.path (.name cause))
  /--
  The session is put into words, and an operation on the files is refused.
  -/
  | refused {directory : Path} {content : ByteArray} {error : FileError}
    {after : Trail}
      (known : manager.paths.machineData = some directory)
      (worded : sessionContent .verbatim manager.session = .ok content)
      (speakable : Speakable directory)
      (refused :
        (replaceFile (directory.child "session.json") content).on ⟨files, []⟩ =
          (.error error, after)) :
      Stopped manager files
        (.io ("cannot write " ++ (directory.child "session.json").toText))

section

variable {manager : Manager} {files : FileSystem} {fault : Fault}

/--
What stops a save is the fault that it ends with, and only a refused operation
may leave other files than before.
-/
theorem Stopped.save
    (stopped : Stopped manager files fault)
    (usual : manager.codec = .verbatim)
    (named :
      ∀ place, files.workDirectory = .present place →
        ∀ name ∈ place, name.Nameable) :
    (manager.save files).result = .error fault ∧
      ((∀ detail, fault ≠ .io detail) →
        (manager.save files).files = files) := by
  cases stopped with
  | unresolved unknown =>
      rw [Manager.save, ResolvedPaths.session, unknown]
      exact ⟨rfl, fun _ => rfl⟩
  | nested known among deep =>
      have ends := save_eq known files
      rw [usual, sessionContent_of_deep among deep] at ends
      exact ⟨congrArg Outcome.result ends, fun _ => congrArg Outcome.files ends⟩
  | overlong known copyable among overlong =>
      have ends := save_eq known files
      rw [usual, sessionContent_of_overlong copyable among overlong] at ends
      exact ⟨congrArg Outcome.result ends, fun _ => congrArg Outcome.files ends⟩
  | unspeakable known copyable small unspeakable =>
      obtain ⟨content, worded⟩ := sessionContent_of_copyable copyable small
      have ends := save_eq known files
      rw [usual, worded] at ends
      dsimp only at ends
      rw [replaceFile_unspeakable unspeakable] at ends
      exact ⟨congrArg Outcome.result ends, fun _ => congrArg Outcome.files ends⟩
  | @refused directory content error after known worded speakable refused =>
      have ends := save_eq known files
      rw [usual, worded] at ends
      dsimp only at ends
      rw [refused] at ends
      refine ⟨(congrArg Outcome.result ends).trans ?_,
        fun unrefused => absurd rfl (unrefused _)⟩
      cases error with
      | name cause =>
          have unspeakable :=
            (@replaceFile_eq_name_iff _ ⟨files, []⟩ _ named content).mp
              ⟨after, refused⟩
          exact absurd speakable unspeakable.not_speakable
      | _ => rfl

/-- The fault that a save ends with is one that stops it. -/
theorem stopped_of_save
    (usual : manager.codec = .verbatim)
    (named :
      ∀ place, files.workDirectory = .present place →
        ∀ name ∈ place, name.Nameable)
    (failed : (manager.save files).result = .error fault) :
    Stopped manager files fault := by
  -- one reason is as good as another, as each ends the save with its own fault
  have only :
      ∀ {other : Fault}, Stopped manager files other →
        Stopped manager files fault := by
    intro other stopped
    cases (stopped.save usual named).1.symm.trans failed
    exact stopped
  cases known : manager.paths.machineData with
  | none => exact only (.unresolved known)
  | some directory =>
      by_cases deep : ∃ record ∈ manager.session.notebooks, ¬ record.Copyable
      · obtain ⟨record, among, deep⟩ := deep
        exact only (.nested known among deep)
      have copyable :
          ∀ record ∈ manager.session.notebooks, record.Copyable := by
        simpa using deep
      by_cases overlong : ∃ record ∈ manager.session.notebooks,
        record.hasHugeInteger = true
      · obtain ⟨record, among, overlong⟩ := overlong
        exact only (.overlong known copyable among overlong)
      have small :
          ∀ record ∈ manager.session.notebooks,
            record.hasHugeInteger = false := by
        simpa using overlong
      rcases speakable_or directory with speakable | ⟨cause, unspeakable⟩
      · obtain ⟨content, worded⟩ := sessionContent_of_copyable copyable small
        cases ran :
          (replaceFile (directory.child "session.json") content).on
          ⟨files, []⟩ with
        | mk outcome after =>
            cases outcome with
            | error error => exact only (.refused known worded speakable ran)
            | ok =>
                have ends := save_eq known files
                rw [usual, worded] at ends
                dsimp only at ends
                rw [ran] at ends
                cases failed.symm.trans (congrArg Outcome.result ends)
      · exact only (.unspeakable known copyable small unspeakable)

/--
Records that can be copied, and a directory whose path the system takes unless
it is not asked.
-/
def Tellable (manager : Manager) : Prop :=
  ∀ directory, manager.paths.machineData = some directory →
    (∀ record ∈ manager.session.notebooks, record.Copyable) ∧
      ((∃ record ∈ manager.session.notebooks, record.hasHugeInteger = true) ∨
        Speakable directory)

theorem Stopped.store
    (stopped : Stopped manager files fault)
    (tellable : manager.Tellable) :
    ∃ error, fault = .store error := by
  cases stopped with
  | unresolved | overlong | refused => exact ⟨_, rfl⟩
  | nested known among deep => exact absurd ((tellable _ known).1 _ among) deep
  | unspeakable known _ small unspeakable =>
      rcases (tellable _ known).2 with ⟨record, among, overlong⟩ | speakable
      · cases (small record among).symm.trans overlong
      · exact absurd speakable unspeakable.not_speakable

theorem tellable_of_stopped
    (told :
      ∀ fault, Stopped manager files fault → ∃ error, fault = .store error) :
    manager.Tellable := by
  intro directory known
  have copyable : ∀ record ∈ manager.session.notebooks, record.Copyable := by
    intro record among
    by_contra deep
    obtain ⟨error, same⟩ := told _ (.nested known among deep)
    cases same
  refine ⟨copyable, ?_⟩
  by_contra neither
  obtain ⟨short, notSpeakable⟩ := not_or.mp neither
  obtain ⟨cause, unspeakable⟩ :=
    (speakable_or directory).resolve_left notSpeakable
  have small :
      ∀ record ∈ manager.session.notebooks, record.hasHugeInteger = false := by
    simpa using short
  obtain ⟨error, same⟩ := told _ (.unspeakable known copyable small unspeakable)
  cases same

end

/-- A save that is done, or that fails with an error of the store. -/
def Outcome.Translated (outcome : Outcome) : Prop :=
  outcome.result = .ok () ∨ ∃ error, outcome.result = .error (.store error)

/--
A save of the usual codec fails for the listed reasons and no others, each with
its fault, and only a refused operation may have changed the files.  It is not
initialized exactly if its directory is not known.  It tells of every failure
with an error of the store exactly if its records can all be copied, and the
system takes the path of its directory or is not asked, because a whole number
is too long to be put into words.
-/
theorem save_stopped_iff
    (manager : Manager)
    (files : FileSystem)
    (usual : manager.codec = .verbatim)
    (named :
      ∀ place, files.workDirectory = .present place →
        ∀ name ∈ place, name.Nameable) :
    (∀ fault, (manager.save files).result = .error fault ↔
      Stopped manager files fault) ∧
      (∀ fault, Stopped manager files fault → (∀ detail, fault ≠ .io detail) →
        (manager.save files).files = files) ∧
        ((∃ detail, (manager.save files).result =
            .error (.store ⟨.notInitialized, detail⟩)) ↔
            manager.paths.machineData = none) ∧
          ((manager.save files).Translated ↔ manager.Tellable) := by
  have stops :
      ∀ fault, (manager.save files).result = .error fault ↔
        Stopped manager files fault :=
    fun fault =>
    ⟨stopped_of_save usual named, fun stopped => (stopped.save usual named).1⟩
  refine ⟨stops, fun fault stopped => (stopped.save usual named).2,
    ⟨?_, fun unknown => ?_⟩, ⟨?_, fun tellable => ?_⟩⟩
  · rintro ⟨detail, failed⟩
    generalize same : Fault.store ⟨.notInitialized, detail⟩ = fault at failed
    cases (stops fault).mp failed with
    | unresolved unknown => exact unknown
    | nested | overlong | unspeakable | refused => cases same
  · exact ⟨_, (stops _).mpr (.unresolved unknown)⟩
  · intro translated
    refine @tellable_of_stopped manager files fun fault stopped => ?_
    have failed := (stops fault).mpr stopped
    rcases translated with done | ⟨error, told⟩
    · cases done.symm.trans failed
    · exact ⟨error, (Except.error.inj (told.symm.trans failed)).symm⟩
  · cases result : (manager.save files).result with
    | ok => exact Or.inl result
    | error fault =>
        obtain ⟨error, rfl⟩ := ((stops fault).mp result).store tellable
        exact Or.inr ⟨error, result⟩

/--
A whole number of one digit too many is not written, and the directory is not
made.
-/
theorem save_stopped_iff_longNumber :
    let manager : Manager :=
      { keeping (Path.ofText "/y") with
          session := ⟨[.array [.integer (Int.pow 10 4300)]]⟩ }
    (manager.save selfHolding).result =
      .error (.store ⟨.jsonSerialize, some overlongDetail⟩) ∧
      (manager.save selfHolding).files = selfHolding := by
  intro manager
  have named :
      ∀ place, selfHolding.workDirectory = .present place →
        ∀ name ∈ place, name.Nameable := by
    rintro place present name among
    cases present
    cases among
  obtain ⟨stops, unchanged, -⟩ := save_stopped_iff manager selfHolding rfl named
  have copyable : ∀ record ∈ manager.session.notebooks, record.Copyable := by
    rintro record among
    cases List.mem_singleton.mp among
    decide
  have stopped :
      Stopped manager selfHolding
        (.store ⟨.jsonSerialize, some overlongDetail⟩) :=
    .overlong rfl copyable List.mem_cons_self (by decide +kernel)
  exact ⟨(stops _).mpr stopped, unchanged _ stopped nofun⟩

/-- An array in an array, and so on for a number of levels. -/
def nest : Nat → Json
  | 0 => .null
  | levels + 1 => .array [nest levels]

theorem save_of_deep
    {record : Json}
    (deep : ¬ record.Copyable)
    (directory : Path)
    (files : FileSystem) :
    ({ keeping directory with session := ⟨[record]⟩ }.save files).result =
      .error (.record .tooDeep) := by
  have ends :=
    @save_eq { keeping directory with session := ⟨[record]⟩ }
      directory rfl files
  dsimp only [keeping] at ends
  rw [sessionContent_of_deep List.mem_cons_self deep] at ends
  exact congrArg Outcome.result ends

/--
A record of seven hundred levels is too deep to be copied, and this passes
through.
-/
theorem save_nest :
    let manager : Manager :=
      { keeping (Path.ofText "/y") with session := ⟨[nest 700]⟩ }
    (manager.save selfHolding).result = .error (.record .tooDeep) ∧
      ¬ (manager.save selfHolding).Translated := by
  have deep : ¬ (nest 700).Copyable := by decide +kernel
  generalize nest 700 = record at deep
  intro manager
  have passed : (manager.save selfHolding).result = .error (.record .tooDeep) :=
    save_of_deep deep _ _
  refine ⟨passed, ?_⟩
  rintro (done | ⟨error, told⟩)
  · cases passed.symm.trans done
  · cases passed.symm.trans told

end Manager

end SettingsStore
