import SettingsStore.Host.Directories
import SettingsStore.Proofs.Files.Resolving

/-!
# What a source of directories answers

A source is asked for the directory of the executable, for that of the user's
data and for that of the machine's data.  It answers with a path from the root,
or leaves the directory open.  There are three ways in which it does neither,
and they are told here exactly: the variable that decides begins with `~` and
stands for no home directory, the path is relative and the directory from which
it starts was taken away, or the system could not be asked about the path, which
comes from the name of the application.
-/

namespace SettingsStore

open FileSystem

/-- What a source of directories is asked for. -/
inductive Query where
  | executable
  | userData
  | machineData
  deriving DecidableEq

/--
Where a data directory is looked for: below what a variable says, if one is
asked, or else below home.
-/
structure Convention where
  asks : Option Text
  belowHome : List Text

namespace DirectorySource

/-- The convention by which a data directory is looked for. -/
def convention? : DirectorySource → Query → Option Convention
  | .unix _, .userData => some ⟨some "XDG_DATA_HOME", [".local", "share"]⟩
  | .unix _, .machineData => some ⟨some "XDG_CACHE_HOME", [".cache"]⟩
  | .mac _, .userData => some ⟨none, ["Library", "Application Support"]⟩
  | .mac _, .machineData => some ⟨none, ["Library", "Caches"]⟩
  | _, _ => none

/-- The sources that go by the conventions of a platform. -/
inductive Conventional : DirectorySource → Prop where
  | unix (application : Text) : Conventional (.unix application)
  | mac (application : Text) : Conventional (.mac application)
  | windows (application : Text) : Conventional (.windows application)

end DirectorySource

namespace Host

/-- The answer of a source. -/
def answer
    (host : Host)
    (source : DirectorySource) :
    Query → Except PathError (Option Path)
  | .executable => host.executableDirectoryOf source
  | .userData => host.userDataDirectory source
  | .machineData => host.machineDataDirectory source

/-! ## Home directories -/

/--
A path begins with `~`, and what that stands for is not known or begins with `~`
again.
-/
inductive Homeless (host : Host) : Path → Prop where
  | intro {first : Text} {rest : List Text}
      (tilde : first.startsWith "~" = true)
      (unknown : ∀ home, host.accountHome? (first.drop 1) = some home →
        (trimSlashes home).startsWith "~" = true) :
      Homeless host ⟨.relative, first :: rest⟩

/--
The value of a variable is no blank and names a path whose home directory is not
known.
-/
def Stranded (host : Host) (name : Text) : Prop :=
  ∃ value, host.environment.get? name = some value ∧ value.strip ≠ "" ∧
    host.Homeless (Path.ofText value.strip)

variable {host : Host} {path : Path} {error : PathError}

theorem homeless_of_expandHome
    (refused : host.expandHome path = .error error) :
    error = .undeterminedHome ∧ host.Homeless path := by
  rw [expandHome] at refused
  split at refused
  · rename_i first rest relative names
    obtain ⟨start, all⟩ := path
    cases relative
    cases names
    split at refused
    · rename_i tilde
      split at refused
      · rename_i unknown
        cases refused
        refine ⟨rfl, .intro tilde ?_⟩
        intro home known
        rw [unknown] at known
        cases known
      · rename_i found known
        dsimp only at refused
        split at refused
        · rename_i again
          cases refused
          refine ⟨rfl, .intro tilde ?_⟩
          intro home same
          rw [known] at same
          cases same
          exact again
        · cases refused
    · cases refused
  · cases refused

theorem Homeless.expandHome
    (homeless : host.Homeless path) :
    host.expandHome path = .error .undeterminedHome := by
  cases homeless with
  | @intro first rest tilde unknown =>
      rw [Host.expandHome]
      dsimp only
      rw [if_pos tilde]
      cases known : host.accountHome? (first.drop 1) with
      | none => rfl
      | some home => exact if_pos (unknown home known)

theorem variableDirectory_eq_error_iff
    {name : Text} :
    host.variableDirectory name = .error error ↔
      error = .undeterminedHome ∧ host.Stranded name := by
  rw [variableDirectory]
  constructor
  · intro refused
    split at refused
    · cases refused
    · rename_i value set
      dsimp only at refused
      split at refused
      · cases refused
      · rename_i visible
        split at refused
        · rename_i other expanded
          cases refused
          obtain ⟨same, homeless⟩ := homeless_of_expandHome expanded
          exact ⟨same, value, set, visible, homeless⟩
        · cases refused
  · rintro ⟨rfl, value, set, visible, homeless⟩
    rw [set]
    dsimp only
    rw [if_neg visible, homeless.expandHome]

theorem homeDirectory_eq_error_iff :
    host.homeDirectory = .error error ↔
      error = .undeterminedHome ∧ host.Stranded "HOME" := by
  rw [← variableDirectory_eq_error_iff, homeDirectory]
  cases host.variableDirectory "HOME" with
  | error other => rfl
  | ok found => cases found <;> simp

/-! ## Making paths absolute -/

/--
A path is relative, the directory from which it starts was taken away, and no
link leads out of there.
-/
structure Adrift (files : FileSystem) (path : Path) : Prop where
  relative : path.isAbsolute = false
  removed : ∃ place, files.workDirectory = .removed place
  lost : ∃ error, files.resolve path = .error error ∧
    ∀ cause, error ≠ .name cause

theorem absolutePath_eq_error_iff
    {files : FileSystem} :
    files.absolutePath path = .error error ↔
      (error = .workDirectoryGone ∧ Adrift files path) ∨
        ∃ cause, error = .name cause ∧
          files.resolve path = .error (.name cause) := by
  rw [absolutePath]
  constructor
  · intro refused
    split at refused
    · cases refused
    · rename_i cause resolved
      cases refused
      exact Or.inr ⟨cause, rfl, resolved⟩
    · rename_i other notName resolved
      split at refused
      · rename_i lost
        cases refused
        obtain ⟨relative, removed⟩ := fromRoot?_eq_none lost
        exact Or.inl ⟨rfl, relative, removed, other, resolved, notName⟩
      · cases refused
  · rintro
      (⟨rfl, relative, ⟨place, removed⟩, other, lost, notName⟩ |
        ⟨cause, rfl, refused⟩)
    · have nowhere : files.fromRoot? path = none := by
        rw [fromRoot?, relative, removed]
        rfl
      rw [lost]
      split
      · rename_i same
        cases same
      · rename_i cause same
        cases same
        exact absurd rfl (notName cause)
      · rw [nowhere]
    · rw [refused]

/-! ## Paths that are sought -/

/-- The variables that decide on an answer. -/
inductive Consults
    (host : Host)
    (source : DirectorySource) :
    Query → Text → Prop where
  | executable : Consults host source .executable "VXCORE_EXECUTABLE_DIR"
  | named {query : Query} {name : Text} {belowHome : List Text}
      (convention : source.convention? query = some ⟨some name, belowHome⟩) :
      Consults host source query name
  | home {query : Query} {convention : Convention}
      (by_ : source.convention? query = some convention)
      (unset :
        ∀ name, convention.asks = some name →
          host.variableDirectory name = .ok none) :
      Consults host source query "HOME"

/-- The path that is made absolute for an answer. -/
inductive Seeks
    (host : Host)
    (source : DirectorySource) :
    Query → Path → Prop where
  | override {path : Path}
      (named :
        host.variableDirectory "VXCORE_EXECUTABLE_DIR" = .ok (some path)) :
      Seeks host source .executable path
  | binary
      (unnamed : host.variableDirectory "VXCORE_EXECUTABLE_DIR" = .ok none)
      (bundled : host.bundled = true)
      (known : host.executable ≠ "") :
      Seeks host source .executable (Path.ofText host.executable)
  | named {query : Query} {name : Text} {belowHome : List Text} {base : Path}
      (convention : source.convention? query = some ⟨some name, belowHome⟩)
      (set : host.variableDirectory name = .ok (some base)) :
      Seeks host source query (base.join (Path.ofText source.application))
  | home {query : Query} {convention : Convention} {home : Path}
      (by_ : source.convention? query = some convention)
      (unset :
        ∀ name, convention.asks = some name →
          host.variableDirectory name = .ok none)
      (found : host.homeDirectory = .ok (some home)) :
      Seeks host source query
        ((home.join ⟨.relative, convention.belowHome⟩).join
            (Path.ofText source.application))

/-- Why a source gives no answer. -/
inductive Unanswered
    (host : Host)
    (source : DirectorySource)
    (query : Query) :
    PathError → Prop where
  | stranded {name : Text}
      (consulted : host.Consults source query name)
      (stranded : host.Stranded name) :
      Unanswered host source query .undeterminedHome
  | adrift {path : Path}
      (sought : host.Seeks source query path)
      (adrift : Adrift host.files path) :
      Unanswered host source query .workDirectoryGone
  | unspeakable {path : Path} {cause : NameError}
      (sought : host.Seeks source query path)
      (refused : host.files.resolve path = .error (.name cause)) :
      Unanswered host source query (.name cause)

/-! ## Data directories by a convention -/

/-- The directory that a convention says. -/
def directoryBy (host : Host) (convention : Convention) (application : Text) :
    Except PathError (Option Path) :=
  match convention.asks with
  | some name => host.baseDirectory name convention.belowHome application
  | none => host.libraryDirectory convention.belowHome application

section

variable {source : DirectorySource} {query : Query} {convention : Convention}

theorem answer_of_convention
    (by_ : source.convention? query = some convention) :
    host.answer source query =
      host.directoryBy convention source.application := by
  cases source <;> cases query <;> cases by_ <;> rfl

/--
Without a convention a data directory is one of the known folders, and nothing
goes wrong.
-/
theorem answer_of_no_convention
    (conventional : source.Conventional)
    (none : source.convention? query = none)
    (data : query ≠ .executable) :
    ∃ roaming application,
      host.answer source query =
        .ok (host.knownDirectory roaming application).toOption := by
  cases conventional with
  | unix => cases query <;> first | exact absurd rfl data | cases none
  | mac => cases query <;> first | exact absurd rfl data | cases none
  | windows application =>
      cases query with
      | executable => exact absurd rfl data
      | userData => exact ⟨true, application, rfl⟩
      | machineData => exact ⟨false, application, rfl⟩

/-- What a variable does not decide is decided by the home directory. -/
theorem directoryBy_of_unset
    (unset :
      ∀ name, convention.asks = some name →
        host.variableDirectory name = .ok none)
    (application : Text) :
    host.directoryBy convention application =
      host.libraryDirectory convention.belowHome application := by
  obtain ⟨asks, belowHome⟩ := convention
  cases asks with
  | none => rfl
  | some name =>
      rw [directoryBy]
      dsimp only
      rw [baseDirectory, unset name rfl]
      rfl

theorem directoryBy_of_named
    {name : Text}
    {belowHome : List Text}
    {base : Path}
    (set : host.variableDirectory name = .ok (some base))
    (application : Text) :
    host.directoryBy ⟨some name, belowHome⟩ application =
      host.absolute? (some (base.join (Path.ofText application))) := by
  rw [directoryBy]
  dsimp only
  rw [baseDirectory, set]

theorem absolute?_eq_error_iff :
    host.absolute? (some path) = .error error ↔
      host.files.absolutePath path = .error error := by
  rw [absolute?]
  cases host.files.absolutePath path <;> simp

theorem isAbsolute_absolute?
    {found : Path}
    (made : host.absolute? (some path) = .ok (some found)) :
    found.isAbsolute = true := by
  rw [absolute?] at made
  split at made
  · cases made
  · rename_i same
    cases made
    exact isAbsolute_absolutePath same

/-! ## What the answers come from -/

/-- A variable that decides and is stranded leaves no answer. -/
theorem Consults.answer
    {name : Text}
    (consulted : host.Consults source query name)
    (conventional : source.Conventional)
    (stranded : host.Stranded name) :
    host.answer source query = .error .undeterminedHome := by
  have refused : host.variableDirectory name = .error .undeterminedHome :=
    variableDirectory_eq_error_iff.mpr ⟨rfl, stranded⟩
  cases consulted with
  | executable =>
      have asked :
          host.answer source .executable = host.executableDirectory := by
        cases conventional <;> rfl
      rw [asked, executableDirectory, refused]
  | named convention =>
      rw [answer_of_convention convention, directoryBy]
      dsimp only
      rw [baseDirectory, refused]
  | home by_ unset =>
      have nowhere : host.homeDirectory = .error .undeterminedHome :=
        homeDirectory_eq_error_iff.mpr ⟨rfl, stranded⟩
      rw [answer_of_convention by_, directoryBy_of_unset unset,
        libraryDirectory, nowhere]

/--
What keeps the path that is sought from being made absolute is the answer.
-/
theorem Seeks.answer
    (sought : host.Seeks source query path)
    (conventional : source.Conventional)
    (refused : host.files.absolutePath path = .error error) :
    host.answer source query = .error error := by
  have asked : host.answer source .executable = host.executableDirectory := by
    cases conventional <;> rfl
  cases sought with
  | override named =>
      rw [asked, executableDirectory, named]
      exact absolute?_eq_error_iff.mpr refused
  | binary unnamed bundled known =>
      rw [asked, executableDirectory, unnamed]
      dsimp only
      rw [bundled, if_neg (by decide), if_neg known, refused]
  | named convention set =>
      rw [answer_of_convention convention, directoryBy_of_named set]
      exact absolute?_eq_error_iff.mpr refused
  | home by_ unset found =>
      rw [answer_of_convention by_, directoryBy_of_unset unset,
        libraryDirectory, found]
      exact absolute?_eq_error_iff.mpr refused

/-- An error that a source answers with. -/
def Fails
    (host : Host)
    (source : DirectorySource)
    (query : Query)
    (error : PathError) :
    Prop :=
  (∃ name, host.Consults source query name ∧ host.Stranded name ∧
    error = .undeterminedHome) ∨
    ∃ path, host.Seeks source query path ∧
      host.files.absolutePath path = .error error

/--
An answer from the executable is absolute, or it fails for its variable or its
path.
-/
theorem executable_answered
    (conventional : source.Conventional)
    (installed : host.packageDirectory.isAbsolute = true) :
    match host.answer source .executable with
    | .error error => host.Fails source .executable error
    | .ok found => ∀ path, found = some path → path.isAbsolute = true := by
  have asked : host.answer source .executable = host.executableDirectory := by
    cases conventional <;> rfl
  rw [asked, executableDirectory]
  cases named : host.variableDirectory "VXCORE_EXECUTABLE_DIR" with
  | error error =>
      obtain ⟨same, stranded⟩ := variableDirectory_eq_error_iff.mp named
      exact Or.inl ⟨_, .executable, stranded, same⟩
  | ok found =>
      cases found with
      | some path =>
          dsimp only
          cases made : host.absolute? (some path) with
          | error error =>
              exact Or.inr ⟨path, .override named,
                absolute?_eq_error_iff.mp made⟩
          | ok answer =>
              rintro absolute rfl
              exact isAbsolute_absolute? made
      | none =>
          dsimp only
          cases bundled : host.bundled with
          | false =>
              rintro path same
              cases same
              exact installed
          | true =>
              rw [if_neg (by decide)]
              by_cases known : host.executable = ""
              · rw [if_pos known]
                exact nofun
              · rw [if_neg known]
                cases made :
                  host.files.absolutePath (Path.ofText host.executable) with
                | error error =>
                    exact Or.inr ⟨_, .binary named bundled known, made⟩
                | ok binary =>
                    rintro path same
                    cases same
                    have absolute : binary.isAbsolute = true :=
                      isAbsolute_absolutePath made
                    exact absolute

theorem home_answered
    (by_ : source.convention? query = some convention)
    (unset :
      ∀ name, convention.asks = some name →
        host.variableDirectory name = .ok none) :
    match host.libraryDirectory convention.belowHome source.application with
    | .error error => host.Fails source query error
    | .ok found => ∀ path, found = some path → path.isAbsolute = true := by
  rw [libraryDirectory]
  cases found : host.homeDirectory with
  | error error =>
      obtain ⟨same, stranded⟩ := homeDirectory_eq_error_iff.mp found
      exact Or.inl ⟨_, .home by_ unset, stranded, same⟩
  | ok home =>
      cases home with
      | none => exact nofun
      | some home =>
          dsimp only
          split
          · rename_i error refused
            exact Or.inr ⟨_, .home by_ unset found,
              absolute?_eq_error_iff.mp refused⟩
          · rename_i answer made
            rintro path rfl
            exact isAbsolute_absolute? made

/--
An answer with a data directory is absolute, or it fails for its variable or its
path.
-/
theorem data_answered
    (by_ : source.convention? query = some convention) :
    match host.answer source query with
    | .error error => host.Fails source query error
    | .ok found => ∀ path, found = some path → path.isAbsolute = true := by
  rw [answer_of_convention by_]
  obtain ⟨asks, belowHome⟩ := convention
  cases asks with
  | none => exact home_answered by_ nofun
  | some name =>
      cases set : host.variableDirectory name with
      | error error =>
          obtain ⟨same, stranded⟩ := variableDirectory_eq_error_iff.mp set
          rw [directoryBy]
          dsimp only
          rw [baseDirectory, set]
          exact Or.inl ⟨name, .named by_, stranded, same⟩
      | ok base =>
          cases base with
          | none =>
              have unset :
                  ∀ other, (Convention.mk (some name) belowHome).asks =
                    some other →
                  host.variableDirectory other = .ok none := by
                rintro other same
                cases same
                exact set
              rw [directoryBy_of_unset unset]
              exact home_answered by_ unset
          | some base =>
              rw [directoryBy_of_named set]
              split
              · rename_i error refused
                exact Or.inr ⟨_, .named by_ set,
                  absolute?_eq_error_iff.mp refused⟩
              · rename_i answer made
                rintro path rfl
                exact isAbsolute_absolute? made

/--
Every answer is absolute or open, or it fails for its variable or its path.
-/
theorem answered
    (conventional : source.Conventional)
    (installed : host.packageDirectory.isAbsolute = true)
    (query : Query) :
    match host.answer source query with
    | .error error => host.Fails source query error
    | .ok found => ∀ path, found = some path → path.isAbsolute = true := by
  by_cases data : query = .executable
  · rw [data]
    exact executable_answered conventional installed
  · cases by_ : source.convention? query with
    | some convention => exact data_answered by_
    | none =>
        obtain ⟨roaming, application, caught⟩ :=
          answer_of_no_convention conventional by_ data
        rw [caught]
        rintro path same
        rw [knownDirectory.eq_def] at same
        split at same
        · cases same
        · split at same
          · cases same
          · rename_i found made
            cases same
            exact isAbsolute_absolutePath made

end

/-! ## Texts that the system has -/

/--
The texts of a host are such as the system has: its variables, its accounts, its
files.
-/
structure Regular (host : Host) : Prop where
  environment : ∀ name value, (name, value) ∈ host.environment → value.Nameable
  current : ∀ home, host.accounts.current = some home → home.Nameable
  users : ∀ user home, (user, home) ∈ host.accounts.users → home.Nameable
  executable : host.executable.Nameable
  files : host.files.Nameable

theorem nameable_strip
    {text : Text}
    (nameable : text.Nameable) :
    text.strip.Nameable := by
  intro point member
  rw [Text.strip, List.mem_reverse] at member
  have inner := List.mem_reverse.mp ((List.dropWhile_sublist _).mem member)
  exact nameable point ((List.dropWhile_sublist _).mem inner)

theorem nameable_trimSlashes
    {text : Text}
    (nameable : text.Nameable) :
    (trimSlashes text).Nameable := by
  rw [trimSlashes]
  split
  · decide
  · intro point member
    have inner := (List.dropWhile_sublist _).mem (List.mem_reverse.mp member)
    exact nameable point (List.mem_reverse.mp inner)

theorem Regular.accountHome?
    (regular : host.Regular)
    {user home : Text}
    (found : host.accountHome? user = some home) :
    home.Nameable := by
  rw [Host.accountHome?] at found
  split at found
  · split at found
    · rename_i value set
      cases found
      exact regular.environment _ _ (mem_of_lookup set)
    · split at found
      · exact regular.current home found
      · cases found
  · split at found
    · exact regular.users _ _ (mem_of_lookup found)
    · cases found

theorem Regular.expandHome
    (regular : host.Regular)
    {found : Path}
    (speakable : Speakable path)
    (expanded : host.expandHome path = .ok found) :
    Speakable found := by
  rw [Host.expandHome] at expanded
  split at expanded
  · rename_i first rest relative names
    have later : Speakable ⟨.relative, rest⟩ :=
      speakable_iff.mpr fun name member =>
        speakable_iff.mp speakable name (names ▸ List.mem_cons_of_mem _ member)
    split at expanded
    · split at expanded
      · cases expanded
      · rename_i home known
        dsimp only at expanded
        split at expanded
        · cases expanded
        · cases expanded
          exact (speakable_ofText
              (nameable_trimSlashes (regular.accountHome? known))).join later
    · cases expanded
      exact speakable
  · cases expanded
    exact speakable

theorem Regular.variableDirectory
    (regular : host.Regular)
    {name : Text}
    {found : Path}
    (set : host.variableDirectory name = .ok (some found)) :
    Speakable found := by
  rw [Host.variableDirectory] at set
  split at set
  · cases set
  · rename_i value held
    dsimp only at set
    split at set
    · cases set
    · split at set
      · cases set
      · rename_i expanded same
        cases set
        have nameable := regular.environment _ _ (mem_of_lookup held)
        exact regular.expandHome
          (speakable_ofText (nameable_strip nameable)) same

theorem Regular.homeDirectory
    (regular : host.Regular)
    {found : Path}
    (known : host.homeDirectory = .ok (some found)) :
    Speakable found := by
  rw [Host.homeDirectory] at known
  split at known
  · cases known
  · rename_i home set
    cases known
    exact regular.variableDirectory set
  · split at known
    · cases current : host.accounts.current with
      | none =>
          rw [current] at known
          cases known
      | some home =>
          rw [current] at known
          cases known
          exact speakable_ofText (regular.current home current)
    · cases known

/--
What is sought is a path that the system takes, if the name of the application
is.
-/
theorem Seeks.speakable
    {source : DirectorySource}
    {query : Query}
    (sought : host.Seeks source query path)
    (regular : host.Regular)
    (nameable : source.application.Nameable) :
    Speakable path := by
  have application := speakable_ofText nameable
  cases sought with
  | override named => exact regular.variableDirectory named
  | binary => exact speakable_ofText regular.executable
  | named convention set =>
      exact (regular.variableDirectory set).join application
  | @home query convention home by_ unset found =>
      have below : Speakable ⟨.relative, convention.belowHome⟩ := by
        cases source <;> cases query <;> cases by_ <;>
          exact speakable_iff.mpr (by decide)
      exact ((regular.homeDirectory found).join below).join application

end Host

/--
A source that goes by the conventions of a platform answers with an absolute
path or leaves the directory open, and it fails in the listed ways and in no
others: for a variable whose home directory is not known, for a relative path
whose start was taken away, and for a path that the system does not take.  Where
the texts of the host are such as the system has, the last happens for the name
of the application alone.
-/
theorem Host.answer_absolute_or_unanswered
    (host : Host)
    (source : DirectorySource)
    (query : Query)
    (conventional : source.Conventional)
    (installed : host.packageDirectory.isAbsolute = true) :
    (∀ path, host.answer source query = .ok (some path) →
      path.isAbsolute = true) ∧
      (∀ error, host.answer source query = .error error ↔
        host.Unanswered source query error) ∧
        (host.Regular → source.application.Nameable →
          ∀ cause, host.answer source query ≠ .error (.name cause)) := by
  have known := answered conventional installed query
  have told :
      ∀ error, host.answer source query = .error error →
        host.Unanswered source query error := by
    intro error answer
    rw [answer] at known
    rcases known with ⟨name, consulted, stranded, rfl⟩ | ⟨path, sought, refused⟩
    · exact .stranded consulted stranded
    · rcases absolutePath_eq_error_iff.mp refused with
        ⟨rfl, adrift⟩ | ⟨cause, rfl, resolved⟩
      · exact .adrift sought adrift
      · exact .unspeakable sought resolved
  refine ⟨?_, fun error => ⟨told error, ?_⟩, ?_⟩
  · intro path answer
    rw [answer] at known
    exact known path rfl
  · intro unanswered
    cases unanswered with
    | stranded consulted stranded =>
        exact consulted.answer conventional stranded
    | adrift sought adrift =>
        exact sought.answer conventional
          (absolutePath_eq_error_iff.mpr (Or.inl ⟨rfl, adrift⟩))
    | unspeakable sought refused =>
        exact sought.answer conventional
          (absolutePath_eq_error_iff.mpr (Or.inr ⟨_, rfl, refused⟩))
  · intro regular nameable cause answer
    cases told _ answer with
    | unspeakable sought refused =>
        exact regular.files.resolve_ne_name
          (sought.speakable regular nameable) cause refused

/--
A machine without files on which one variable names the home directory of
nobody.
-/
def ghostHost : Host where
  environment :=
    [("XDG_DATA_HOME", "~ghost/data"), ("XDG_CACHE_HOME", "/cache")]
  accounts := {}
  knownFolders := {}
  platform := "linux"
  bundled := false
  executable := ""
  packageDirectory := ⟨.root, []⟩
  temporaryDirectory := ⟨.root, []⟩
  files := ⟨[], .present [], 0o022⟩

theorem ghostHost_regular : ghostHost.Regular where
  environment := by
    intro name value member
    have each : ∀ pair ∈ ghostHost.environment, pair.2.Nameable := by decide
    exact each _ member
  current := nofun
  users := nofun
  executable := by decide
  files :=
    { links := by
        intro place target found
        rw [get?] at found
        split at found <;> cases found
      workDirectory := by
        intro place present name member
        cases present
        cases member }

/-- There the directory for caches is answered, by an absolute path. -/
theorem answer_absolute_or_unanswered_ghostHost :
    ∃ path,
      ghostHost.answer (.unix "VNote") .machineData = .ok (some path) ∧
        path.isAbsolute = true ∧
          ∀ cause, ghostHost.answer (.unix "VNote") .machineData ≠
            .error (.name cause) := by
  have answers :=
    ghostHost.answer_absolute_or_unanswered (.unix "VNote") .machineData
      (.unix _) rfl
  have found :
      ghostHost.answer (.unix "VNote") .machineData =
        .ok (some ⟨.root, ["cache", "VNote"]⟩) := by
    decide +kernel
  exact ⟨_, found, answers.1 _ found, answers.2.2 ghostHost_regular (by decide)⟩

/--
The three ways to fail do happen: the directory for data begins with the home
directory of nobody, the home directory is relative and the directory where the
program runs is gone, and the name of the application is a lone surrogate.
-/
theorem answer_unanswered_ghostHost :
    ghostHost.answer (.unix "VNote") .userData = .error .undeterminedHome ∧
      { ghostHost with
          environment := [("HOME", "home")]
          files :=
          ⟨[], .removed [], 0o022⟩ }.answer (.mac "VNote") .userData =
            .error .workDirectoryGone ∧
        ghostHost.answer (.unix [0xD800]) .machineData =
          .error (.name (.unencodable ⟨0xD800, 7, 1⟩)) := by
  decide +kernel

end SettingsStore
