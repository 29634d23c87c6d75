import SettingsStore.Proofs.Files.Refusal
import SettingsStore.Proofs.Manager.Loading
import SettingsStore.Proofs.Manager.Saving

/-!
# The first failure decides

A load goes through its steps in one order: the directories, the three
documents, the merge and the decoding.  Each step has its own ways to fail,
which are listed here with the fault that each of them is told as.  A load fails
exactly if one of its steps does, and with the fault of the first.  A layer that
is not there, in whatever way, or that is no object does in all this what the
empty object does.
-/

namespace SettingsStore

open FileSystem

/-! ## The steps and their failures -/

/-- The ways in which the directory at a path is not made. -/
inductive DirectoryFailure (path : Path) (trail : Trail) : Fault → Prop where
  | refused {failure : PathFailure} {after : Trail}
      (speakable : Speakable path)
      (stopped : (makeDirectories path).on trail = (.error failure, after)) :
      DirectoryFailure path trail
        (.io ("cannot create directory " ++ path.toText))
  | unspeakable {cause : NameError}
      (none : Unspeakable path cause) :
      DirectoryFailure path trail (.path (.name cause))

/-- A document holds a whole number that is too long to be read. -/
def HoldsHugeInteger (files : FileSystem) (path : Path) (digits : Nat) : Prop :=
  ∃ content characters,
    files.contentOf path = .ok content ∧
      Utf8.decode content.data.toList = .ok characters ∧
      Json.parse (Text.ofChars (unifyLines characters)) =
        .error (.hugeInteger digits)

/-- The ways in which the document at a path is not read. -/
inductive DocumentFailure
    (files : FileSystem)
    (path : Path) :
    Fault → Prop where
  | unreadable {error : FileError}
      (refused : files.contentOf path = .error error)
      (there : error ∈ [FileError.isDirectory, .linkLoop, .nameTooLong]) :
      DocumentFailure files path (.io ("cannot read " ++ path.toText))
  | malformed {content : ByteArray} {malformed : Utf8.Malformed}
      (held : files.contentOf path = .ok content)
      (undecoded : Utf8.decode content.data.toList = .error malformed) :
      DocumentFailure files path
        (.jsonParse (path.toText ++ ": " ++ malformed.message))
  | unparsed {content : ByteArray} {characters : List Char}
    {error : Json.ParseError}
      (held : files.contentOf path = .ok content)
      (decoded : Utf8.decode content.data.toList = .ok characters)
      (refused :
        Json.parse (Text.ofChars (unifyLines characters)) = .error error)
      (short : ∀ digits, error ≠ .hugeInteger digits) :
      DocumentFailure files path
        (.jsonParse (path.toText ++ ": " ++ error.message))
  | hugeInteger {digits : Nat}
      (huge : HoldsHugeInteger files path digits) :
      DocumentFailure files path (.hugeInteger digits)
  | unspeakable {cause : NameError}
      (none : Unspeakable path cause) :
      DocumentFailure files path (.path (.name cause))

/-- The records in the document of the session. -/
def Layers.records (layers : Layers) : List Json :=
  (((Json.object layers.session.members).field? "notebooks").bind
      Json.items?).getD []

/--
The packaged defaults, the settings or a record are nested too deeply to be
merged or copied.
-/
def Layers.TooDeep (layers : Layers) : Prop :=
  Json.copyFrames < Json.mergeCost
    (.object layers.defaults.members) layers.user.members ∨
    ∃ record ∈ layers.records, ¬ record.Copyable

/-- The paths of the three documents in the order in which they are read. -/
def ResolvedPaths.documents (paths : ResolvedPaths) : List (Option Path) :=
  [paths.defaultConfig, paths.userConfig, paths.session]

/-- The first step of a load that fails, and its fault. -/
inductive FirstFailure
    (files : FileSystem)
    (paths : ResolvedPaths) :
    Fault → Prop where
  | userData {directory : Path} {fault : Fault}
      (known : paths.userData = some directory)
      (failed : DirectoryFailure directory ⟨files, []⟩ fault) :
      FirstFailure files paths fault
  | machineData {directory : Path} {fault : Fault} {after : Trail}
      (made :
        (ensureDataDirectory paths.userData).on ⟨files, []⟩ = (.ok (), after))
      (known : paths.machineData = some directory)
      (failed : DirectoryFailure directory after fault) :
      FirstFailure files paths fault
  | document {before later : List (Option Path)} {path : Path} {fault : Fault}
    {after : Trail}
      (made : (ensureDataDirectories paths).on ⟨files, []⟩ = (.ok (), after))
      (order : paths.documents = before ++ some path :: later)
      (sound :
        ∀ earlier, some earlier ∈ before →
          ∀ other, ¬ DocumentFailure after.files earlier other)
      (failed : DocumentFailure after.files path fault) :
      FirstFailure files paths fault
  | nesting {layers : Layers} {after : Trail}
      (made : (ensureDataDirectories paths).on ⟨files, []⟩ = (.ok (), after))
      (read : layersOf after.files paths = .ok layers)
      (deep : layers.TooDeep) :
      FirstFailure files paths .nestedTooDeeply

/-! ## Each step fails in one of its ways -/

theorem ensureDataDirectory_unspeakable
    {path : Path}
    {cause : NameError}
    (unspeakable : Unspeakable path cause)
    (trail : Trail) :
    (ensureDataDirectory (some path)).on trail =
      (.error (.path (.name cause)), trail) := by
  rw [ensureDataDirectory_some, makeDirectories_unspeakable unspeakable]
  rfl

theorem ensureDataDirectory_error_iff
    {path : Path}
    {trail : Trail}
    {fault : Fault} :
    (∃ after, (ensureDataDirectory (some path)).on trail =
        (.error fault, after)) ↔
      DirectoryFailure path trail fault := by
  rcases speakable_or path with speakable | ⟨cause, unspeakable⟩
  · rw [ensureDataDirectory_some]
    cases ran : (makeDirectories path).on trail with
    | mk outcome reached =>
        cases outcome with
        | ok =>
            constructor
            · rintro ⟨after, impossible⟩
              cases impossible
            · intro failure
              cases failure with
              | refused _ stopped =>
                  rw [ran] at stopped
                  cases stopped
              | unspeakable none => exact absurd speakable none.not_speakable
        | error failure =>
            obtain ⟨error, refused⟩ := failure
            have told :
                Fault.ofFileError error
                  ("cannot create directory " ++ path.toText) =
                .io ("cannot create directory " ++ path.toText) := by
              cases error with
              | name cause =>
                  exact absurd speakable
                    (makeDirectories_eq_name_iff.mp ⟨_, _, ran⟩).not_speakable
              | _ => rfl
            dsimp only
            rw [told]
            constructor
            · rintro ⟨after, same⟩
              cases same
              exact .refused speakable ran
            · intro failure
              cases failure with
              | refused => exact ⟨reached, rfl⟩
              | unspeakable none => exact absurd speakable none.not_speakable
  · rw [ensureDataDirectory_unspeakable unspeakable]
    constructor
    · rintro ⟨after, same⟩
      cases same
      exact .unspeakable unspeakable
    · intro failure
      cases failure with
      | refused speakable => exact absurd speakable unspeakable.not_speakable
      | unspeakable none =>
          cases unspeakable.symm.trans none
          exact ⟨trail, rfl⟩

theorem readLayer_unspeakable
    {path : Path}
    {cause : NameError}
    (unspeakable : Unspeakable path cause)
    (files : FileSystem) :
    readLayer files (some path) = .error (.path (.name cause)) := by
  rw [readLayer, contentOf_eq_name_iff.mpr unspeakable]
  rfl

theorem readLayer_hugeInteger
    {files : FileSystem}
    {path : Path}
    {digits : Nat}
    (huge : HoldsHugeInteger files path digits) :
    readLayer files (some path) = .error (.hugeInteger digits) := by
  obtain ⟨content, characters, held, decoded, long⟩ := huge
  rw [readLayer, held]
  dsimp only
  rw [readDocument, decoded]
  dsimp only
  rw [long]

theorem readLayer_error_iff
    {files : FileSystem}
    {path : Path}
    {fault : Fault} :
    readLayer files (some path) = .error fault ↔
      DocumentFailure files path fault := by
  constructor
  · intro failed
    rw [readLayer] at failed
    split at failed
    · cases failed
    · cases failed
    · rename_i error notMissing notBlocked refused
      cases failed
      rcases contentOf_refusal refused with known | ⟨cause, unspeakable, rfl⟩
      · have there :
            error ∈ [FileError.isDirectory, .linkLoop, .nameTooLong] := by
          simp only [List.mem_cons, List.not_mem_nil, or_false] at known ⊢
          rcases known with rfl | rfl | rfl | rfl | rfl
          · exact absurd rfl notMissing
          · exact absurd rfl notBlocked
          · exact Or.inr (Or.inr rfl)
          · exact Or.inr (Or.inl rfl)
          · exact Or.inl rfl
        have told : Fault.ofFileError error ("cannot read " ++ path.toText) =
            .io ("cannot read " ++ path.toText) := by
          cases error with
          | name cause => simp at there
          | _ => rfl
        rw [told]
        exact .unreadable refused there
      · exact .unspeakable unspeakable
    · rename_i content held
      split at failed
      · rename_i fault unread
        cases failed
        rw [readDocument] at unread
        split at unread
        · rename_i undecoded
          cases unread
          exact .malformed held undecoded
        · rename_i decoded
          split at unread
          · cases unread
          · rename_i long
            cases unread
            exact .hugeInteger ⟨content, _, held, decoded, long⟩
          · rename_i error short refused
            cases unread
            exact .unparsed held decoded refused short
      · cases failed
      · cases failed
  · intro failure
    cases failure with
    | @unreadable error refused there =>
        rw [readLayer, refused]
        simp only [List.mem_cons, List.not_mem_nil, or_false] at there
        rcases there with rfl | rfl | rfl <;> rfl
    | malformed held undecoded =>
        rw [readLayer, held]
        dsimp only
        rw [readDocument, undecoded]
    | @unparsed _ _ error held decoded refused short =>
        rw [readLayer, held]
        dsimp only
        rw [readDocument, decoded]
        dsimp only
        rw [refused]
        cases error with
        | hugeInteger digits => exact absurd rfl (short digits)
        | _ => rfl
    | hugeInteger huge => exact readLayer_hugeInteger huge
    | unspeakable none => exact readLayer_unspeakable none files

/-- A layer is read unless its document fails. -/
theorem readLayer_ok_iff
    {files : FileSystem}
    {path : Option Path} :
    (∃ layer, readLayer files path = .ok layer) ↔
      ∀ known, path = some known →
        ∀ fault, ¬ DocumentFailure files known fault := by
  constructor
  · rintro ⟨layer, read⟩ known rfl fault failure
    rw [readLayer_error_iff.mpr failure] at read
    cases read
  · intro sound
    cases read : readLayer files path with
    | ok layer => exact ⟨layer, rfl⟩
    | error fault =>
        cases path with
        | none => cases read
        | some known =>
            exact absurd (readLayer_error_iff.mp read) (sound known rfl fault)

/-- The first document that cannot be read decides. -/
theorem layersOf_eq_error_iff
    {files : FileSystem}
    {paths : ResolvedPaths}
    {fault : Fault} :
    layersOf files paths = .error fault ↔
      ∃ before path later, paths.documents = before ++ path :: later ∧
        (∀ earlier ∈ before, ∃ layer, readLayer files earlier = .ok layer) ∧
          readLayer files path = .error fault := by
  rw [layersOf]
  constructor
  · intro failed
    cases defaults : readLayer files paths.defaultConfig with
    | error first =>
        rw [defaults] at failed
        cases failed
        exact ⟨[], _, _, rfl, by simp, defaults⟩
    | ok layer =>
        rw [defaults] at failed
        cases user : readLayer files paths.userConfig with
        | error second =>
            rw [user] at failed
            cases failed
            exact ⟨[_], _, _, rfl, by simp [defaults], user⟩
        | ok other =>
            rw [user] at failed
            cases session : readLayer files paths.session with
            | error third =>
                rw [session] at failed
                cases failed
                exact ⟨[_, _], _, _, rfl, by simp [defaults, user], session⟩
            | ok last =>
                rw [session] at failed
                cases failed
  · rintro ⟨before, path, later, order, read, failed⟩
    rw [ResolvedPaths.documents] at order
    rcases before with _ | ⟨first, _ | ⟨second, _ | ⟨third, before⟩⟩⟩
    · cases order
      rw [failed]
      rfl
    · cases order
      obtain ⟨defaults, first⟩ := read _ (List.mem_cons_self ..)
      rw [first, failed]
      rfl
    · cases order
      obtain ⟨defaults, first⟩ := read _ (List.mem_cons_self ..)
      obtain ⟨user, second⟩ :=
        read _ (List.mem_cons_of_mem _ (List.mem_cons_self ..))
      rw [first, second, failed]
      rfl
    · have lengths := congrArg List.length order
      simp only [List.length_append, List.length_cons, List.length_nil]
        at lengths
      omega

theorem layersOf_error_iff
    {files : FileSystem}
    {paths : ResolvedPaths}
    {fault : Fault} :
    layersOf files paths = .error fault ↔
      ∃ before path later, paths.documents = before ++ some path :: later ∧
        (∀ earlier, some earlier ∈ before →
          ∀ other, ¬ DocumentFailure files earlier other) ∧
          DocumentFailure files path fault := by
  rw [layersOf_eq_error_iff]
  constructor
  · rintro ⟨before, path, later, order, read, failed⟩
    cases path with
    | none => cases failed
    | some path =>
        refine ⟨before, path, later, order, ?_, readLayer_error_iff.mp failed⟩
        intro earlier member
        exact readLayer_ok_iff.mp (read _ member) earlier rfl
  · rintro ⟨before, path, later, order, sound, failure⟩
    refine ⟨before, some path, later, order, ?_,
      readLayer_error_iff.mpr failure⟩
    intro earlier member
    exact readLayer_ok_iff.mpr fun known same => sound known (same ▸ member)

theorem sessionOf_verbatim (layers : Layers) :
    Session.ofJson .verbatim (.object layers.session.members) =
      if ∀ record ∈ layers.records, record.Copyable then
        .ok ⟨layers.records⟩
      else .error .tooDeep := by
  rw [Session.ofJson, Layers.records]
  cases ((Json.object layers.session.members).field? "notebooks").bind
    Json.items? with
  | none => rfl
  | some items =>
      have copied : items.mapM RecordCodec.verbatim.decode = _ :=
        mapM_copy items
      dsimp only
      rw [copied, Option.getD_some]
      by_cases copyable : ∀ item ∈ items, item.Copyable
      · rw [if_pos copyable, if_pos copyable]
        rfl
      · rw [if_neg copyable, if_neg copyable]
        rfl

/-- What cannot be decoded is nested too deeply. -/
theorem decode_verbatim_error
    {layers : Layers}
    {fault : Fault}
    (failed : layers.decode .verbatim = .error fault) :
    fault = .nestedTooDeeply := by
  rw [Layers.decode] at failed
  split at failed
  · cases failed
    rfl
  · split at failed
    · rename_i error undecoded
      cases failed
      rw [Session.ofJson] at undecoded
      split at undecoded
      · cases undecoded
      · rename_i items _
        have copied : items.mapM RecordCodec.verbatim.decode = _ :=
          mapM_copy items
        rw [copied] at undecoded
        split at undecoded
        · cases undecoded
        · cases undecoded
          rfl
    · cases failed

theorem decode_verbatim_error_iff
    {layers : Layers}
    {fault : Fault} :
    layers.decode .verbatim = .error fault ↔
      fault = .nestedTooDeeply ∧ layers.TooDeep := by
  constructor
  · intro failed
    refine ⟨decode_verbatim_error failed, ?_⟩
    by_contra shallow
    rw [Layers.TooDeep, not_or, Nat.not_lt] at shallow
    obtain ⟨within, copyable⟩ := shallow
    have copied : ∀ record ∈ layers.records, record.Copyable := by
      intro record member
      by_contra deep
      exact copyable ⟨record, member, deep⟩
    rw [Layers.decode, Json.mergePatch?, if_pos within, sessionOf_verbatim,
      if_pos copied] at failed
    cases failed
  · rintro ⟨rfl, deep | ⟨record, member, deep⟩⟩
    · rw [Layers.decode, Json.mergePatch?, if_neg (Nat.not_le_of_lt deep)]
    · rw [Layers.decode, sessionOf_verbatim,
        if_neg fun copyable => deep (copyable record member)]
      split <;> rfl

/-- What stops the documents is the first failure. -/
theorem documentsOf_error_iff
    {files : FileSystem}
    {paths : ResolvedPaths}
    {fault : Fault} :
    documentsOf files paths .verbatim = .error fault ↔
      FirstFailure files paths fault := by
  have order := ensureDataDirectories_on paths ⟨files, []⟩
  constructor
  · intro stopped
    cases user : (ensureDataDirectory paths.userData).on ⟨files, []⟩ with
    | mk outcome first =>
        rw [user] at order
        cases outcome with
        | error failed =>
            rw [documentsOf_of_unmade order] at stopped
            cases stopped
            cases known : paths.userData with
            | none =>
                rw [known] at user
                cases user
            | some directory =>
                rw [known] at user
                exact .userData known
                  (ensureDataDirectory_error_iff.mp ⟨first, user⟩)
        | ok =>
            dsimp only at order
            cases machine :
              (ensureDataDirectory paths.machineData).on first with
            | mk outcome after =>
                rw [machine] at order
                cases outcome with
                | error failed =>
                    rw [documentsOf_of_unmade order] at stopped
                    cases stopped
                    cases known : paths.machineData with
                    | none =>
                        rw [known] at machine
                        cases machine
                    | some directory =>
                        rw [known] at machine
                        exact .machineData user known
                          (ensureDataDirectory_error_iff.mp ⟨after, machine⟩)
                | ok =>
                    rw [documentsOf_of_made order] at stopped
                    cases read : layersOf after.files paths with
                    | error other =>
                        rw [read] at stopped
                        cases stopped
                        obtain ⟨before, path, later, listed, sound, failed⟩ :=
                          layersOf_error_iff.mp read
                        exact .document order listed sound failed
                    | ok layers =>
                        rw [read] at stopped
                        obtain ⟨rfl, deep⟩ :=
                          decode_verbatim_error_iff.mp stopped
                        exact .nesting order read deep
  · intro failure
    cases failure with
    | userData known failed =>
        obtain ⟨after, stopped⟩ := ensureDataDirectory_error_iff.mpr failed
        rw [known, stopped] at order
        exact documentsOf_of_unmade order _
    | machineData made known failed =>
        obtain ⟨after, stopped⟩ := ensureDataDirectory_error_iff.mpr failed
        rw [made, known] at order
        exact documentsOf_of_unmade (order.trans stopped) _
    | document made listed sound failed =>
        rw [documentsOf_of_made made,
          layersOf_error_iff.mpr ⟨_, _, _, listed, sound, failed⟩]
    | nesting made read deep =>
        rw [documentsOf_of_made made, read]
        exact decode_verbatim_error_iff.mpr ⟨rfl, deep⟩

/-! ## Layers that count as the empty object -/

/-- A layer that is not there, that is no object or that is the empty object. -/
inductive CountsAsEmpty (files : FileSystem) : Option Path → Prop where
  | unresolved : CountsAsEmpty files none
  | missing {path : Path}
      (nothing : files.contentOf path = .error .noEntry) :
      CountsAsEmpty files (some path)
  | belowFile {path : Path}
      (blocked : files.contentOf path = .error .notDirectory) :
      CountsAsEmpty files (some path)
  | foreign {path : Path} {content : ByteArray} {document : Json}
      (held : files.contentOf path = .ok content)
      (read : readDocument path content = .ok document)
      (noObject : document.members? = none) :
      CountsAsEmpty files (some path)
  | empty {path : Path} {content : ByteArray}
      (held : files.contentOf path = .ok content)
      (read : readDocument path content = .ok (.object [])) :
      CountsAsEmpty files (some path)

/-- Two layers are found in the same file, or both count as the empty object. -/
inductive AlikeLayers
    (files other : FileSystem) :
    Option Path → Option Path → Prop where
  | same {path : Path}
      (content : other.contentOf path = files.contentOf path) :
      AlikeLayers files other (some path) (some path)
  | empty {path otherPath : Option Path}
      (first : CountsAsEmpty files path)
      (second : CountsAsEmpty other otherPath) :
      AlikeLayers files other path otherPath

theorem CountsAsEmpty.read
    {files : FileSystem}
    {path : Option Path}
    (empty : CountsAsEmpty files path) :
    (readLayer files path).map Layer.members = .ok [] := by
  cases empty with
  | unresolved => rfl
  | missing nothing =>
      rw [readLayer, nothing]
      rfl
  | belowFile blocked =>
      rw [readLayer, blocked]
      rfl
  | @foreign _ _ document held read noObject =>
      rw [readLayer, held]
      dsimp only
      rw [read]
      cases document with
      | object members => cases noObject
      | _ => rfl
  | empty held read =>
      rw [readLayer, held]
      dsimp only
      rw [read]
      rfl

/-- Layers that are alike contribute the same members or fail alike. -/
theorem AlikeLayers.read
    {files other : FileSystem}
    {path otherPath : Option Path}
    (alike : AlikeLayers files other path otherPath) :
    (readLayer other otherPath).map Layer.members =
      (readLayer files path).map Layer.members := by
  cases alike with
  | same content => rw [readLayer, readLayer, content]
  | empty first second => rw [first.read, second.read]

/-- The members decide what the documents say. -/
def Layers.contents (layers : Layers) : Members × Members × Members :=
  ⟨layers.defaults.members, layers.user.members, layers.session.members⟩

theorem Layers.decode_congr
    {first second : Layers}
    (same : second.contents = first.contents)
    (codec : RecordCodec) :
    second.decode codec = first.decode codec := by
  obtain ⟨defaults, rest⟩ := Prod.ext_iff.mp same
  obtain ⟨user, session⟩ := Prod.ext_iff.mp rest
  dsimp only [contents] at defaults user session
  rw [decode, decode, defaults, user, session]

theorem layersOf_contents
    {files other : FileSystem}
    {paths otherPaths : ResolvedPaths}
    (alike :
      List.Forall₂ (AlikeLayers files other) paths.documents
        otherPaths.documents) :
    (layersOf other otherPaths).map Layers.contents =
      (layersOf files paths).map Layers.contents := by
  obtain _ | ⟨defaults, rest⟩ := alike
  obtain _ | ⟨user, rest⟩ := rest
  obtain _ | ⟨session, _⟩ := rest
  have contents : ∀ (files : FileSystem) (paths : ResolvedPaths),
      (layersOf files paths).map Layers.contents = (do
        let defaults ← (readLayer files paths.defaultConfig).map Layer.members
        let user ← (readLayer files paths.userConfig).map Layer.members
        let session ← (readLayer files paths.session).map Layer.members
        return (defaults, user, session)) := by
    intro files paths
    rw [layersOf]
    cases readLayer files paths.defaultConfig with
    | error fault => rfl
    | ok =>
        cases readLayer files paths.userConfig with
        | error fault => rfl
        | ok => cases readLayer files paths.session <;> rfl
  rw [contents, contents, defaults.read, user.read, session.read]

/-- Documents that are alike say the same. -/
theorem documentsOf_alike
    {files other : FileSystem}
    {paths otherPaths : ResolvedPaths}
    {after otherAfter : Trail}
    (made : (ensureDataDirectories paths).on ⟨files, []⟩ = (.ok (), after))
    (otherMade :
      (ensureDataDirectories otherPaths).on ⟨other, []⟩ = (.ok (), otherAfter))
    (alike :
      List.Forall₂ (AlikeLayers after.files otherAfter.files) paths.documents
        otherPaths.documents)
    (codec : RecordCodec) :
    documentsOf other otherPaths codec = documentsOf files paths codec := by
  have same := layersOf_contents alike
  rw [documentsOf_of_made made, documentsOf_of_made otherMade]
  cases read : layersOf after.files paths with
  | error fault =>
      cases otherRead : layersOf otherAfter.files otherPaths with
      | error other =>
          rw [read, otherRead] at same
          cases same
          rfl
      | ok layers =>
          rw [read, otherRead] at same
          cases same
  | ok layers =>
      cases otherRead : layersOf otherAfter.files otherPaths with
      | error other =>
          rw [read, otherRead] at same
          cases same
      | ok others =>
          rw [read, otherRead] at same
          exact Layers.decode_congr (Except.ok.inj same) codec

namespace Manager

/-- The manager with other paths. -/
def withPaths (manager : Manager) (paths : ResolvedPaths) : Manager :=
  { manager with paths }

theorem concluded_withPaths
    (manager : Manager)
    (paths : ResolvedPaths)
    (decoded : Except Fault (Config × Session)) :
    (manager.withPaths paths).concluded decoded =
      (manager.concluded decoded).withPaths paths := by
  cases decoded with
  | error fault => cases fault <;> rfl
  | ok => rfl

/--
A load fails exactly if one of its steps does, with the fault of the first, and
loads come to the same where the directories can be made and each layer is found
in the same file or counts as the empty object.
-/
theorem load_firstFailure
    (manager : Manager)
    (files : FileSystem)
    (usual : manager.codec = .verbatim) :
    (∀ fault, (manager.load files).result = .error fault ↔
      FirstFailure files manager.paths fault) ∧
      ∀ (other : FileSystem) (otherPaths : ResolvedPaths)
          (after otherAfter : Trail),
        (ensureDataDirectories manager.paths).on ⟨files, []⟩ = (.ok (), after) →
          (ensureDataDirectories otherPaths).on ⟨other, []⟩ =
            (.ok (), otherAfter) →
            List.Forall₂ (AlikeLayers after.files otherAfter.files)
              manager.paths.documents
              otherPaths.documents →
              ((manager.withPaths otherPaths).load other).result =
                (manager.load files).result ∧
                ((manager.withPaths otherPaths).load other).manager =
                  (manager.load files).manager.withPaths otherPaths := by
  obtain ⟨result, concluded, _⟩ := manager.load_eq files
  constructor
  · intro fault
    rw [← documentsOf_error_iff, result, usual]
    cases documentsOf files manager.paths .verbatim with
    | error stopped => simp [Except.map]
    | ok decoded => simp [Except.map]
  · intro other otherPaths after otherAfter made otherMade alike
    obtain ⟨otherResult, otherConcluded, _⟩ :=
      (manager.withPaths otherPaths).load_eq other
    have same := documentsOf_alike made otherMade alike manager.codec
    constructor
    · rw [otherResult, result]
      exact congrArg (Except.map fun _ => ()) same
    · rw [otherConcluded, concluded, ← concluded_withPaths]
      exact congrArg (manager.withPaths otherPaths).concluded same

/-- A directory that keeps a session in a file with a content. -/
def sessionHeld (content : ByteArray) : FileSystem where
  entries :=
    [(["x"], .directory 0o755), (sessionPlace ["x"], .file content 0o644)]
  workDirectory := .present []
  umask := 0o022

/--
A list of no records is loaded as if there were no session, and a directory in
its place is not read.
-/
theorem load_firstFailure_keeping :
    let manager := keeping (Path.ofText "/x")
    let vacant : FileSystem := ⟨[(["x"], .directory 0o755)], .present [], 0o022⟩
    ((manager.withPaths manager.paths).load
        (sessionHeld ⟨#[0x5B, 0x5D]⟩)).result =
        (manager.load vacant).result ∧
      FirstFailure selfHolding manager.paths
        (.io "cannot read /x/session.json") := by
  intro manager vacant
  have alike :
      List.Forall₂ (AlikeLayers vacant (sessionHeld ⟨#[0x5B, 0x5D]⟩))
        manager.paths.documents
        manager.paths.documents := by
    refine .cons (.empty .unresolved .unresolved)
      (.cons (.empty .unresolved .unresolved) (.cons ?_ .nil))
    have read :
        (sessionHeld ⟨#[0x5B, 0x5D]⟩).contentOf
          (Path.ofText "/x/session.json") =
        .ok ⟨#[0x5B, 0x5D]⟩ := by
      rfl
    exact .empty (.missing (by rfl))
      (@CountsAsEmpty.foreign _ _ _ (.array []) read (by rfl) rfl)
  constructor
  · exact ((load_firstFailure manager vacant rfl).2 _ _ ⟨vacant, []⟩
        ⟨sessionHeld ⟨#[0x5B, 0x5D]⟩, []⟩
        (by rfl) (by rfl) alike).1
  · exact ((load_firstFailure manager selfHolding rfl).1 _).mp
      (by decide +kernel)

/-- A directory whose name is a surrogate that stands for no octet. -/
def loneSurrogate : Path :=
  ⟨.relative, [[CodePoint.ofNat 0xD800]]⟩

/--
A path without null characters that the system does not take stops the load
without being told.
-/
theorem load_loneSurrogate :
    CodePoint.ofNat 0 ∉ loneSurrogate.toText ∧
      ((keeping loneSurrogate).load ⟨[], .present [], 0o022⟩).result =
        .error (.path (.name (.unencodable ⟨CodePoint.ofNat 0xD800, 0, 1⟩))) ∧
        ((keeping loneSurrogate).load ⟨[], .present [], 0o022⟩).result ≠
          .error
            (.io ("cannot create directory " ++ loneSurrogate.toText)) := by
  decide +kernel

end Manager

end SettingsStore
