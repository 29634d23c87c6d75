import SettingsStore.Proofs.Files.Canonical
import SettingsStore.Proofs.Host.Answers

/-!
# What an answer depends on

Of the files an answer asks one thing at most: the absolute path of one path,
which variables, the home directory or the binary name.  So what is known of
canonical paths is known of answers.  New directories change one only where they
complete a loop of links at its end, and a file that takes the place of another
one, or of nothing, changes none.
-/

namespace SettingsStore

open FileSystem

namespace Host

/-! ## What an answer depends on -/

/--
An answer does not depend on the files, or it depends on the absolute path of
one path.
-/
inductive Depends
    (host : Host)
    (source : DirectorySource)
    (query : Query) :
    Prop where
  | fixed {answer : Except PathError (Option Path)}
      (always : ∀ files, (host.withFiles files).answer source query = answer)
  | led {path : Path} {make : Except PathError Path →
    Except PathError (Option Path)}
      (always :
        ∀ files, (host.withFiles files).answer source query =
          make (files.absolutePath path))
      (made : ∀ found, make (.ok found) = .ok (some found))
  /--
  The answer is what stands around the binary of a bundled program, and not the
  binary itself.
  -/
  | beside {make : Except PathError Path → Except PathError (Option Path)}
      (bundled : host.bundled = true)
      (always :
        ∀ files, (host.withFiles files).answer source query =
          make (files.absolutePath (Path.ofText host.executable)))

section

variable {host : Host} {source : DirectorySource} {query : Query}

theorem absolute?_eq
    (host : Host)
    (path : Path) :
    host.absolute? (some path) = (host.files.absolutePath path).map some := by
  rw [absolute?]
  cases host.files.absolutePath path <;> rfl

/--
The directory of the executable is named by a variable, or it is that of the
binary or of the program.
-/
theorem executable_depends
    (asked :
      ∀ files, (host.withFiles files).answer source .executable =
        (host.withFiles files).executableDirectory) :
    host.Depends source .executable := by
  have named :
      ∀ files,
        (host.withFiles files).variableDirectory "VXCORE_EXECUTABLE_DIR" =
      host.variableDirectory "VXCORE_EXECUTABLE_DIR" := fun _ => rfl
  have answers :
      ∀ files, (host.withFiles files).answer source .executable = _ :=
    fun files => by
    rw [asked, executableDirectory, named]
  cases set : host.variableDirectory "VXCORE_EXECUTABLE_DIR" with
  | error error =>
      rw [set] at answers
      exact .fixed answers
  | ok found =>
      rw [set] at answers
      cases found with
      | some path =>
          exact .led (fun files => (answers files).trans (absolute?_eq _ path))
            fun _ => rfl
      | none =>
          cases bundled : host.bundled with
          | false =>
              refine @Depends.fixed _ _ _ (.ok (some host.packageDirectory))
                fun files => (answers files).trans ?_
              simp [withFiles, bundled]
          | true =>
              by_cases unknown : host.executable = ""
              · refine @Depends.fixed _ _ _ (.ok none) fun files =>
                  (answers files).trans ?_
                simp [withFiles, bundled, unknown]
              · refine @Depends.beside _ _ _
                  (Except.map fun path => some path.parent) bundled
                  fun files => (answers files).trans ?_
                simp only [withFiles, bundled, Bool.not_true,
                  Bool.false_eq_true, if_false, if_neg unknown]
                cases files.absolutePath (Path.ofText host.executable) <;> rfl

theorem library_depends
    {convention : Convention}
    (asked :
      ∀ files, (host.withFiles files).answer source query =
        (host.withFiles files).libraryDirectory convention.belowHome
          source.application) :
    host.Depends source query := by
  have home :
      ∀ files, (host.withFiles files).homeDirectory = host.homeDirectory :=
    fun _ => rfl
  have answers : ∀ files, (host.withFiles files).answer source query = _ :=
    fun files => by
    rw [asked, libraryDirectory, home]
  cases homeDirectory : host.homeDirectory with
  | error error =>
      rw [homeDirectory] at answers
      exact .fixed answers
  | ok found =>
      rw [homeDirectory] at answers
      cases found with
      | none => exact .fixed answers
      | some home =>
          exact .led (fun files => (answers files).trans (absolute?_eq _ _))
            fun _ => rfl

/-- A convention asks a variable first, and then the home directory. -/
theorem convention_depends
    {convention : Convention}
    (follows : source.convention? query = some convention) :
    host.Depends source query := by
  have asked : ∀ files, (host.withFiles files).answer source query =
      (host.withFiles files).directoryBy convention source.application :=
    fun files => answer_of_convention follows
  by_cases unset : ∀ name, convention.asks = some name →
    host.variableDirectory name = .ok none
  · refine @library_depends _ _ _ convention fun files => (asked files).trans ?_
    exact @directoryBy_of_unset
      (host.withFiles files) convention unset source.application
  · obtain ⟨asks, belowHome⟩ := convention
    cases asks with
    | none => exact absurd nofun unset
    | some name =>
        cases set : host.variableDirectory name with
        | error error =>
            refine @Depends.fixed _ _ _ (.error error) fun files =>
              (asked files).trans ?_
            have same :
                (host.withFiles files).variableDirectory name = .error error :=
              set
            rw [directoryBy]
            dsimp only
            rw [baseDirectory, same]
        | ok found =>
            cases found with
            | none =>
                refine absurd (fun other same => ?_) unset
                cases same
                exact set
            | some base =>
                have sought :=
                  fun files => @directoryBy_of_named
                    (host.withFiles files) name belowHome base set
                    source.application
                exact @Depends.led _ _ _
                  (base.join (Path.ofText source.application)) (Except.map some)
                  (fun files => (asked files).trans
                      ((sought files).trans (absolute?_eq _ _))) fun _ => rfl

/-- A known folder is one path, whatever the files are. -/
theorem folder_depends
    (roaming : Bool)
    (application : Text)
    (asked :
      ∀ files, (host.withFiles files).answer source query =
        .ok
          ((host.withFiles files).knownDirectory roaming
            application).toOption) :
    host.Depends source query := by
  simp only [knownDirectory, withFiles] at asked
  cases known : host.knownFolders.lookUp roaming application with
  | error reason =>
      rw [known] at asked
      exact @Depends.fixed _ _ _ (.ok none) asked
  | ok folder =>
      rw [known] at asked
      refine @Depends.led _ _ _ (Path.ofText folder)
        (fun result => .ok result.toOption)
        (fun files => (asked files).trans ?_) fun _ => rfl
      dsimp only
      cases files.absolutePath (Path.ofText folder) <;> rfl

theorem depends
    (host : Host)
    (source : DirectorySource)
    (query : Query) :
    host.Depends source query := by
  cases source with
  | fixed => cases query <;> exact .fixed fun _ => rfl
  | bare =>
      cases query with
      | executable => exact executable_depends fun _ => rfl
      | userData | machineData => exact .fixed fun _ => rfl
  | unix | mac =>
      cases query with
      | executable => exact executable_depends fun _ => rfl
      | userData | machineData => exact convention_depends rfl
  | windows application =>
      cases query with
      | executable => exact executable_depends fun _ => rfl
      | userData => exact folder_depends true application fun _ => rfl
      | machineData => exact folder_depends false application fun _ => rfl

/-! ## Answers after a change -/

/--
Among new directories an answer stays the same unless they complete a loop at
its end.
-/
theorem answer_onlyDirectories
    {after : FileSystem}
    (wellFormed : host.files.WellFormed)
    (leftAbove : host.files.LeftAbove)
    (only : OnlyDirectories host.files after)
    (binary :
      host.bundled = true →
        ∀ path, host.files.resolve (Path.ofText host.executable) = .ok path →
        after.status path ≠ .error .linkLoop)
    (noLoop :
      ∀ path, path.isAbsolute = true →
        host.answer source query = .ok (some path) →
        after.status path ≠ .error .linkLoop) :
    (host.withFiles after).answer source query = host.answer source query := by
  have here :
      (host.withFiles host.files).answer source query =
        host.answer source query := rfl
  have absolute : ∀ {path : Path},
      (∀ found, host.files.resolve path = .ok found →
        after.status found ≠ .error .linkLoop) →
        after.absolutePath path = host.files.absolutePath path := fun noLoop =>
    absolutePath_congr only.workDirectory
      (resolve_onlyDirectories wellFormed only (fun _ => leftAbove) noLoop)
  cases host.depends source query with
  | fixed always => rw [← here, always, always]
  | led always made =>
      rw [← here, always, always]
      refine congrArg _ (absolute fun found resolved =>
          noLoop found (isAbsolute_resolve resolved) ?_)
      rw [← here, always, absolutePath, resolved]
      exact made found
  | beside bundled always =>
      rw [← here, always, always]
      exact congrArg _ (absolute (binary bundled))

/--
An answer does not depend on which file stands at a place, or whether one does.
-/
theorem answer_differs
    {before after : FileSystem}
    {directory : Place}
    {name : Text}
    (same : SameExcept [directory ++ [name]] before after)
    (free : FreeOfLinks before (directory ++ [name]))
    (freeAfter : FreeOfLinks after (directory ++ [name])) :
    (host.withFiles after).answer source query =
      (host.withFiles before).answer source query := by
  have absolute : ∀ path, after.absolutePath path = before.absolutePath path :=
    fun path =>
    absolutePath_congr same.workDirectory
      (resolve_differs same free freeAfter path)
  cases host.depends source query with
  | fixed always => rw [always, always]
  | led always | beside _ always => rw [always, always, absolute]

end

end Host

end SettingsStore
