import SettingsStore.Proofs.Files.Directories
import SettingsStore.Proofs.Files.Names

/-!
# Paths that are none

The system takes the text of a path or it does not, and what it does not take is
refused as a path before anything is looked up.  This is the only way in which a
path comes to be refused so: no walk does it, and the paths on the way to a
directory are taken if that of the directory is.
-/

namespace SettingsStore

namespace FileSystem

/-- The text of a path cannot be handed to the system. -/
def Unspeakable (path : Path) (cause : NameError) : Prop :=
  path.toText.systemOctets? = .error cause

/-- The text of a path can be handed to the system. -/
def Speakable (path : Path) : Prop :=
  ∃ octets, path.toText.systemOctets? = .ok octets

theorem Unspeakable.not_speakable
    {path : Path}
    {cause : NameError}
    (unspeakable : Unspeakable path cause) :
    ¬ Speakable path := by
  rintro ⟨octets, taken⟩
  rw [Unspeakable, taken] at unspeakable
  cases unspeakable

theorem speakable_or
    (path : Path) :
    Speakable path ∨ ∃ cause, Unspeakable path cause := by
  rw [Speakable]
  cases taken : path.toText.systemOctets? with
  | error cause => exact Or.inr ⟨cause, taken⟩
  | ok octets => exact Or.inl ⟨octets, rfl⟩

/-! ## Looking paths up -/

/--
Following names is refused for what stands on the way, for a name that is too
long or for a loop.
-/
theorem Walks.refusal
    {files : FileSystem}
    {followLast : Bool}
    {links : Nat}
    {place : Place}
    {names : List Text}
    {result : Except FileError Spot}
    (walks : Walks files followLast links place names result)
    {error : FileError}
    (refused : result = .error error) :
    error ∈ [FileError.noEntry, .notDirectory, .nameTooLong, .linkLoop] := by
  induction walks with
  | stay _ _ induction => exact induction refused
  | back _ _ induction => exact induction refused
  | through _ _ _ _ _ induction => exact induction refused
  | enter _ _ _ _ _ induction => exact induction refused
  | arrived | absent | linkItself => cases refused
  | missing | blocked | long | lost | loop =>
      cases refused
      decide

/-- A path is refused for the way, or it is none. -/
theorem locate_refusal
    {files : FileSystem}
    {path : Path}
    {followLast : Bool}
    {error : FileError}
    (refused : files.locate path followLast = .error error) :
    error ∈ [FileError.noEntry, .notDirectory, .nameTooLong, .linkLoop] ∨
      ∃ cause, Unspeakable path cause ∧ error = .name cause := by
  by_cases askable : Askable path
  · rw [askable.locate_eq] at refused
    rcases lead_cases files path.start (storedNames path) with
      ⟨place, rest, walked⟩ | ⟨result, ends, constant⟩
    · rw [walked files followLast rfl] at refused
      exact Or.inl
        ((walks_walk files followLast linkLimit place rest).refusal refused)
    · rw [constant files followLast rfl] at refused
      subst refused
      rcases ends with ends | ⟨_, _, ends⟩ <;> cases ends
      exact Or.inl (by decide)
  · obtain ⟨other, why, everywhere⟩ := locate_of_not_askable askable
    rw [everywhere] at refused
    cases refused
    rcases why with rfl | ⟨cause, unspeakable, rfl⟩
    · exact Or.inl (by decide)
    · exact Or.inr ⟨cause, unspeakable, rfl⟩

/-- What a path names is not read for one of these, or the path is none. -/
theorem contentOf_refusal
    {files : FileSystem}
    {path : Path}
    {error : FileError}
    (refused : files.contentOf path = .error error) :
    error ∈ [FileError.noEntry, .notDirectory, .nameTooLong, .linkLoop,
      .isDirectory] ∨
      ∃ cause, Unspeakable path cause ∧ error = .name cause := by
  rw [contentOf, status] at refused
  cases found : files.locate path true with
  | error other =>
      rw [found] at refused
      cases refused
      rcases locate_refusal found with known | unspeakable
      · exact Or.inl (List.mem_append_left [FileError.isDirectory] known)
      · exact Or.inr unspeakable
  | ok spot =>
      obtain ⟨place, entry⟩ := spot
      rw [found] at refused
      rcases entry with _ | _ | _ | _ <;> cases refused <;>
        exact Or.inl (by decide)

theorem locate_eq_name_iff
    {files : FileSystem}
    {path : Path}
    {followLast : Bool}
    {cause : NameError} :
    files.locate path followLast = .error (.name cause) ↔
      Unspeakable path cause := by
  constructor
  · intro refused
    rcases locate_refusal refused with known | ⟨other, unspeakable, same⟩
    · simp at known
    · cases same
      exact unspeakable
  · intro unspeakable
    rw [locate_eq, unspeakable]

theorem status_eq_name_iff
    {files : FileSystem}
    {path : Path}
    {cause : NameError} :
    files.status path = .error (.name cause) ↔ Unspeakable path cause := by
  rw [← @locate_eq_name_iff files path true cause, status]
  cases files.locate path true with
  | error error => simp
  | ok spot =>
      obtain ⟨place, entry⟩ := spot
      cases entry <;> simp

theorem contentOf_eq_name_iff
    {files : FileSystem}
    {path : Path}
    {cause : NameError} :
    files.contentOf path = .error (.name cause) ↔ Unspeakable path cause := by
  rw [← @status_eq_name_iff files path cause, contentOf]
  cases files.status path with
  | error error => simp
  | ok entry => cases entry <;> simp

/-! ## The text of a child -/

theorem toText_child
    {path : Path}
    (more : path.names ≠ [])
    (name : Text) :
    (path.child name).toText = path.toText ++ ("/" ++ name) := by
  obtain ⟨start, names⟩ := path
  have joined : ∀ names : List Text, names ≠ [] →
      Text.intercalate "/" (names ++ [name]) = Text.intercalate "/" names ++
        ("/" ++ name) := by
    intro names more
    induction names with
    | nil => exact absurd rfl more
    | cons first rest induction =>
        cases rest with
        | nil => simp [Text.intercalate, List.intercalate_cons_cons]
        | cons second rest =>
            have later := induction (by simp)
            simp only [Text.intercalate, List.cons_append,
              List.intercalate_cons_cons] at later ⊢
            rw [later]
            simp
  dsimp only at more
  simp only [Path.child, Path.toText, joined names more, more, and_false,
    false_and, if_false, List.append_eq_nil_iff, List.append_assoc]

theorem speakable_of_no_names (start : PathStart) : Speakable ⟨start, []⟩ := by
  cases start <;> exact ⟨_, rfl⟩

/-- A path is taken if one with a name more is. -/
theorem Speakable.of_child
    {path : Path}
    {name : Text}
    (speakable : Speakable (path.child name)) :
    Speakable path := by
  by_cases none : path.names = []
  · obtain ⟨start, names⟩ := path
    dsimp only at none
    rw [none]
    exact speakable_of_no_names start
  · obtain ⟨octets, taken⟩ := speakable
    rw [toText_child none] at taken
    obtain ⟨found, beginning, _⟩ := Text.systemOctets?_append taken
    exact ⟨found, beginning⟩

/-- An ordinary name can be added to a path that is taken. -/
theorem Speakable.child
    {path : Path}
    {name : String}
    (speakable : Speakable path)
    (ordinary : 0 ∉ Utf8.encode name.toList) :
    Speakable (path.child name) := by
  by_cases none : path.names = []
  · obtain ⟨start, names⟩ := path
    dsimp only at none
    subst none
    have text :
        (Path.child ⟨start, []⟩ name).toText =
          start.mark ++ Text.ofChars name.toList := by
      simp [Path.child, Path.toText, Text.intercalate,
        List.intercalate_singleton, Text.ofString, Text.ofChars]
    have marked : ∃ octets, start.mark.systemOctets? = .ok octets := by
      cases start <;> exact ⟨_, rfl⟩
    obtain ⟨octets, taken⟩ := marked
    refine ⟨octets ++ Utf8.encode name.toList, ?_⟩
    rw [text, Text.systemOctets?_append_ofChars taken ordinary]
  · obtain ⟨octets, taken⟩ := speakable
    have text :
        Text.ofString "/" ++ Text.ofString name =
          Text.ofChars ('/' :: name.toList) := by
      simp [Text.ofString, Text.ofChars]
    refine ⟨octets ++ Utf8.encode ('/' :: name.toList), ?_⟩
    rw [toText_child none, text, Text.systemOctets?_append_ofChars taken]
    have slash :
        Utf8.encode ('/' :: name.toList) = 0x2F :: Utf8.encode name.toList :=
      rfl
    rw [slash, List.mem_cons, not_or]
    exact ⟨by decide, ordinary⟩

/-! ## Making directories -/

theorem ensureDirectory_unspeakable
    {path : Path}
    {cause : NameError}
    (unspeakable : Unspeakable path cause)
    (trail : Trail) :
    (ensureDirectory path).on trail = (.error (.name cause, path), trail) := by
  have located :=
    (@locate_eq_name_iff trail.files path false cause).mpr unspeakable
  have refused : trail.files.makeDirectory path = .error (.name cause) := by
    rw [makeDirectory, located]
  rw [ensureDirectory_of_refused (by simp) refused,
    status_eq_name_iff.mpr unspeakable]

/-- No directory is made under a path that is none. -/
theorem makeDirectories_unspeakable
    {path : Path}
    {cause : NameError}
    (unspeakable : Unspeakable path cause)
    (trail : Trail) :
    (makeDirectories path).on trail = (.error (.name cause, path), trail) := by
  have refused := ensureDirectory_unspeakable unspeakable trail
  obtain ⟨start, names⟩ := path
  rw [makeDirectories]
  cases reversed : names.reverse with
  | nil =>
      rw [List.reverse_eq_nil_iff.mp reversed] at refused ⊢
      exact refused
  | cons name before =>
      rw [ensureDirectories_cons, ← reversed, List.reverse_reverse, refused]

theorem ensureDirectory_ne_name
    {path refused : Path}
    {cause : NameError}
    {trail after : Trail}
    (speakable : Speakable path) :
    (ensureDirectory path).on trail ≠
      (.error (.name cause, refused), after) := by
  intro failed
  have known := ensured path trail
  rw [failed] at known
  cases known with
  | refused _ _ why =>
      rcases why with located | same | same
      · exact (locate_eq_name_iff.mp located).not_speakable speakable
      · cases same
      · cases same

theorem ensureDirectories_ne_name
    {start : PathStart}
    {names : List Text}
    {refused : Path}
    {cause : NameError}
    {trail after : Trail}
    (speakable : Speakable ⟨start, names.reverse⟩) :
    (ensureDirectories start names).on trail ≠
      (.error (.name cause, refused), after) := by
  induction names generalizing trail after with
  | nil => exact ensureDirectory_ne_name speakable
  | cons name before induction =>
      have parent : Speakable ⟨start, before.reverse⟩ := by
        rw [List.reverse_cons] at speakable
        exact @Speakable.of_child ⟨start, before.reverse⟩ name speakable
      rw [ensureDirectories_cons]
      cases first :
        (ensureDirectory ⟨start, (name :: before).reverse⟩).on trail with
      | mk outcome reached =>
          cases outcome with
          | ok => simp
          | error failure =>
              obtain ⟨error, path⟩ := failure
              cases error with
              | noEntry =>
                  dsimp only
                  cases parents :
                    (ensureDirectories start before).on reached with
                  | mk outcome reached =>
                      cases outcome with
                      | ok => exact ensureDirectory_ne_name speakable
                      | error failure =>
                          exact fun failed =>
                            induction parent (parents.trans failed)
              | name other =>
                  exact absurd first (ensureDirectory_ne_name speakable)
              | _ => simp

/-- Making a directory fails for its path only if that is none. -/
theorem makeDirectories_eq_name_iff
    {path : Path}
    {cause : NameError}
    {trail : Trail} :
    (∃ refused after, (makeDirectories path).on trail =
        (.error (.name cause, refused), after)) ↔
      Unspeakable path cause := by
  constructor
  · rintro ⟨refused, after, failed⟩
    rcases speakable_or path with speakable | ⟨other, unspeakable⟩
    · have reversed : Speakable ⟨path.start, path.names.reverse.reverse⟩ := by
        rw [List.reverse_reverse]
        exact speakable
      exact absurd failed (ensureDirectories_ne_name reversed)
    · rw [makeDirectories_unspeakable unspeakable] at failed
      cases failed
      exact unspeakable
  · intro unspeakable
    exact ⟨path, trail, makeDirectories_unspeakable unspeakable trail⟩

end FileSystem

end SettingsStore
