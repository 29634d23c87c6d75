import SettingsStore.Proofs.Host.Blank

/-!
# Which source of a directory counts

A data directory is looked for below what a variable names, else below what
`HOME` names, else below the home directory on record for the current user.  The
first of these that is not blank counts, and what comes after it is not even
read: where the variable names a path from the root, not so much as a home
directory matters.  Of the rest of the machine an answer sees the files alone.
-/

namespace SettingsStore

/--
The home directory on record for the current user, if there is a database that
has one.
-/
def Accounts.record? (accounts : Accounts) : Option Text :=
  if accounts.available then accounts.current else none

namespace Host

/-! ## What variables say -/

/-- A variable is not set or holds nothing but blanks. -/
def Blank (host : Host) (name : Text) : Prop :=
  ∀ value, host.environment.get? name = some value → value.strip = ""

/--
A variable names a path: without the blanks around it, and with a home directory
in place of a `~`.
-/
def Names (host : Host) (name : Text) (path : Path) : Prop :=
  ∃ value, host.environment.get? name = some value ∧ value.strip ≠ "" ∧
    host.expandHome (Path.ofText value.strip) = .ok path

section

variable {host : Host} {name value : Text} {path : Path}

theorem variableDirectory_eq_none_iff :
    host.variableDirectory name = .ok none ↔ host.Blank name := by
  rw [variableDirectory, Blank]
  cases held : host.environment.get? name with
  | none => simp
  | some value =>
      dsimp only
      by_cases blank : value.strip = ""
      · simp [blank]
      · rw [if_neg blank]
        cases host.expandHome (Path.ofText value.strip) <;> simp [blank]

theorem variableDirectory_eq_some_iff :
    host.variableDirectory name = .ok (some path) ↔ host.Names name path := by
  rw [variableDirectory, Names]
  cases held : host.environment.get? name with
  | none => simp
  | some value =>
      dsimp only
      by_cases blank : value.strip = ""
      · simp [blank]
      · rw [if_neg blank]
        cases expanded :
          host.expandHome (Path.ofText value.strip) <;> simp [blank, expanded]

/-- A path from the root begins with no `~`. -/
theorem expandHome_of_isAbsolute
    (absolute : path.isAbsolute = true) :
    host.expandHome path = .ok path := by
  obtain ⟨start, names⟩ := path
  cases start with
  | relative => cases absolute
  | root | doubleRoot => cases names <;> rfl

/--
What a variable names from the root has nothing to do with home directories.
-/
theorem names_of_isAbsolute
    (held : host.environment.get? name = some value)
    (absolute : (Path.ofText value.strip).isAbsolute = true) :
    host.Names name (Path.ofText value.strip) := by
  refine ⟨value, held, ?_, expandHome_of_isAbsolute absolute⟩
  intro blank
  rw [blank] at absolute
  cases absolute

end

/-! ## The base of a data directory -/

/--
The directory from which a data directory leads on: the first source that is not
blank says which.
-/
inductive Base
    (host : Host)
    (convention : Convention) :
    Option Path → Prop where
  | named {name : Text} {base : Path}
      (asks : convention.asks = some name)
      (names : host.Names name base) :
      Base host convention (some base)
  | home {home : Path}
      (blank : ∀ name, convention.asks = some name → host.Blank name)
      (names : host.Names "HOME" home) :
      Base host convention (some (home.join ⟨.relative, convention.belowHome⟩))
  | account {record : Text}
      (blank : ∀ name, convention.asks = some name → host.Blank name)
      (homeless : host.Blank "HOME")
      (known : host.accounts.record? = some record) :
      Base host convention
        (some ((Path.ofText record).join ⟨.relative, convention.belowHome⟩))
  | unknown
      (blank : ∀ name, convention.asks = some name → host.Blank name)
      (homeless : host.Blank "HOME")
      (unknown : host.accounts.record? = none) :
      Base host convention none

section

variable {host : Host} {convention : Convention}

theorem homeDirectory_of_names
    {home : Path}
    (names : host.Names "HOME" home) :
    host.homeDirectory = .ok (some home) := by
  rw [homeDirectory, variableDirectory_eq_some_iff.mpr names]

theorem homeDirectory_of_blank
    (blank : host.Blank "HOME") :
    host.homeDirectory = .ok (host.accounts.record?.map Path.ofText) := by
  rw [homeDirectory, variableDirectory_eq_none_iff.mpr blank, Accounts.record?]
  cases host.accounts.available <;> rfl

/-- Where no variable says otherwise the home directory is looked for. -/
theorem directoryBy_of_blank
    (blank : ∀ name, convention.asks = some name → host.Blank name)
    (application : Text) :
    host.directoryBy convention application =
      host.libraryDirectory convention.belowHome application :=
  directoryBy_of_unset (fun name asks =>
      variableDirectory_eq_none_iff.mpr (blank name asks)) application

/--
The directory of an application below the base is what the convention says.
-/
theorem Base.directoryBy
    {base : Option Path}
    (isBase : host.Base convention base)
    (application : Text) :
    host.directoryBy convention application =
      host.absolute? (base.map fun base =>
          base.join (Path.ofText application)) := by
  cases isBase with
  | @named name base asks names =>
      obtain ⟨asked, belowHome⟩ := convention
      cases asks
      exact directoryBy_of_named
        (variableDirectory_eq_some_iff.mpr names) application
  | home blank names =>
      rw [directoryBy_of_blank blank, libraryDirectory,
        homeDirectory_of_names names]
      rfl
  | account blank homeless known =>
      rw [directoryBy_of_blank blank, libraryDirectory,
        homeDirectory_of_blank homeless, known]
      rfl
  | unknown blank homeless unknown =>
      rw [directoryBy_of_blank blank, libraryDirectory,
        homeDirectory_of_blank homeless, unknown]
      rfl

/--
There is a base if the variables that are read on the way to it name a directory
or are blank.
-/
theorem exists_base
    (told :
      ∀ name, convention.asks = some name →
        ∃ found, host.variableDirectory name = .ok found)
    (homeTold :
      (∀ name, convention.asks = some name → host.Blank name) →
        ∃ found, host.variableDirectory "HOME" = .ok found) :
    ∃ base, host.Base convention base := by
  by_cases blank : ∀ name, convention.asks = some name → host.Blank name
  · obtain ⟨home, found⟩ := homeTold blank
    cases home with
    | some home =>
        exact ⟨_, .home blank (variableDirectory_eq_some_iff.mp found)⟩
    | none =>
        have homeless := variableDirectory_eq_none_iff.mp found
        cases record : host.accounts.record? with
        | some record => exact ⟨_, .account blank homeless record⟩
        | none => exact ⟨_, .unknown blank homeless record⟩
  · simp only [not_forall] at blank
    obtain ⟨name, asks, visible⟩ := blank
    obtain ⟨base, found⟩ := told name asks
    cases base with
    | some base =>
        exact ⟨_, .named asks (variableDirectory_eq_some_iff.mp found)⟩
    | none => exact absurd (variableDirectory_eq_none_iff.mp found) visible

/-- Where the convention says a directory there is a base. -/
theorem exists_base_of_directoryBy
    {application : Text}
    {found : Option Path}
    (answered : host.directoryBy convention application = .ok found) :
    ∃ base, host.Base convention base := by
  refine exists_base ?_ ?_
  · intro name asks
    cases variable_ : host.variableDirectory name with
    | ok found => exact ⟨found, rfl⟩
    | error error =>
        rw [Host.directoryBy, asks] at answered
        dsimp only at answered
        rw [baseDirectory, variable_] at answered
        cases answered
  · intro blank
    cases home : host.variableDirectory "HOME" with
    | ok found => exact ⟨found, rfl⟩
    | error error =>
        rw [directoryBy_of_blank blank, libraryDirectory, homeDirectory, home]
          at answered
        cases answered

end

/-! ## What else of the machine an answer sees -/

section

variable {host other : Host} {source : DirectorySource} {query : Query}
  {convention : Convention}

/--
Of the machine a convention sees the environment, the accounts and the files.
-/
theorem directoryBy_eq_inhabited
    (files : other.files = host.files)
    (application : Text) :
    other.directoryBy convention application =
      (host.inhabited other.environment other.accounts).directoryBy convention
        application := by
  obtain ⟨_, _, _, _, _, _, _, _, _⟩ := host
  obtain ⟨_, _, _, _, _, _, _, _, _⟩ := other
  cases files
  rfl

/-- Of the environment it sees `HOME` and the variable that is asked. -/
theorem answer_eq_of_agree
    (by_ : source.convention? query = some convention)
    (files : other.files = host.files)
    (accounts : other.accounts = host.accounts)
    (home : other.environment.get? "HOME" = host.environment.get? "HOME")
    (asked :
      ∀ name, convention.asks = some name →
        other.environment.get? name = host.environment.get? name) :
    other.answer source query = host.answer source query := by
  have sameHome : ∀ user,
      (host.inhabited other.environment other.accounts).accountHome? user =
        host.accountHome? user := by
    intro user
    rw [accountHome?, accountHome?]
    dsimp only [inhabited]
    rw [home, accounts]
    rfl
  have sameHomeVariable :
      (host.inhabited other.environment other.accounts).variableDirectory
        "HOME" =
      host.variableDirectory "HOME" :=
    variableDirectory_congr home fun _ user _ _ _ => sameHome user
  rw [answer_of_convention by_, directoryBy_eq_inhabited files,
    ← answer_of_convention by_]
  refine answer_congr ?_ ?_
  · intro name consulted
    cases consulted with
    | executable => cases source <;> cases by_
    | named same =>
        cases by_.symm.trans same
        exact variableDirectory_congr (asked name rfl)
          fun _ user _ _ _ => sameHome user
    | home => exact sameHomeVariable
  · intro _
    rw [homeDirectory, homeDirectory, sameHomeVariable]
    dsimp only [inhabited]
    rw [accounts]
    rfl

/-- Of a variable that names a path from the root nothing else is asked. -/
theorem answer_eq_of_isAbsolute
    {name value : Text}
    (by_ : source.convention? query = some convention)
    (asks : convention.asks = some name)
    (held : host.environment.get? name = some value)
    (absolute : (Path.ofText value.strip).isAbsolute = true)
    (files : other.files = host.files)
    (same : other.environment.get? name = some value) :
    other.answer source query = host.answer source query := by
  have base : host.Base convention (some (Path.ofText value.strip)) :=
    .named asks (names_of_isAbsolute held absolute)
  have baseThere : other.Base convention (some (Path.ofText value.strip)) :=
    .named asks (names_of_isAbsolute same absolute)
  rw [answer_of_convention by_, answer_of_convention by_, base.directoryBy,
    baseThere.directoryBy]
  rw [Option.map_some, absolute?, absolute?, files]

end

theorem absolute?_eq_ok_iff
    {host : Host}
    {path : Path}
    {found : Option Path} :
    host.absolute? (some path) = .ok found ↔
      ∃ whole, host.files.absolutePath path = .ok whole ∧
        found = some whole := by
  rw [absolute?]
  cases host.files.absolutePath path <;> simp [eq_comm]

/--
A data directory that a convention says is the application's below the base,
from the root, and it is left open exactly where there is no base.  Nothing else
of the machine than its files, its accounts, `HOME` and the variable that the
convention asks, if it asks one, has to do with it; and where that variable
names a path from the root, the files and the variable alone.
-/
theorem answer_by_precedence
    (host : Host)
    {source : DirectorySource}
    {query : Query}
    {convention : Convention}
    (by_ : source.convention? query = some convention) :
    (∀ path,
        host.answer source query = .ok (some path) ↔
          ∃ base, host.Base convention (some base) ∧
            host.files.absolutePath
              (base.join (Path.ofText source.application)) = .ok path) ∧
      (host.answer source query = .ok none ↔ host.Base convention none) ∧
        (∀ path, host.answer source query = .ok (some path) →
          path.isAbsolute = true) ∧
          (∀ other : Host,
            other.files = host.files →
              other.accounts = host.accounts →
                other.environment.get? "HOME" = host.environment.get? "HOME" →
                  (∀ name, convention.asks = some name →
                    other.environment.get? name = host.environment.get? name) →
                    other.answer source query = host.answer source query) ∧
            ∀ (name value : Text) (other : Host),
              convention.asks = some name →
                host.environment.get? name = some value →
                  (Path.ofText value.strip).isAbsolute = true →
                    other.files = host.files →
                      other.environment.get? name = some value →
                        other.answer source query =
                          host.answer source query := by
  have below : ∀ {base}, host.Base convention base →
      host.answer source query =
        host.absolute? (base.map fun base =>
            base.join (Path.ofText source.application)) :=
    fun isBase => (answer_of_convention by_).trans
      (isBase.directoryBy source.application)
  have based :
      ∀ {found}, host.answer source query = .ok found →
        ∃ base, host.Base convention base :=
    fun answered => exists_base_of_directoryBy
      ((answer_of_convention by_).symm.trans answered)
  refine ⟨fun path => ⟨?_, ?_⟩, ⟨?_, below⟩, ?_,
    fun _ => answer_eq_of_agree by_, fun _ _ _ => answer_eq_of_isAbsolute by_⟩
  · intro answered
    obtain ⟨base, isBase⟩ := based answered
    rw [below isBase] at answered
    cases base with
    | none => cases answered
    | some base =>
        obtain ⟨whole, made, same⟩ := absolute?_eq_ok_iff.mp answered
        cases same
        exact ⟨base, isBase, made⟩
  · rintro ⟨base, isBase, made⟩
    exact (below isBase).trans (absolute?_eq_ok_iff.mpr ⟨path, made, rfl⟩)
  · intro unanswered
    obtain ⟨base, isBase⟩ := based unanswered
    rw [below isBase] at unanswered
    cases base with
    | none => exact isBase
    | some base =>
        obtain ⟨whole, -, same⟩ := absolute?_eq_ok_iff.mp unanswered
        cases same
  · intro path answered
    obtain ⟨base, isBase⟩ := based answered
    rw [below isBase] at answered
    cases base with
    | none => cases answered
    | some base => exact isAbsolute_absolute? answered

/--
Where the variable for caches and `HOME` are blank the home directory on record
counts, wherever the executable is said to be; and where the variable names a
path from the root, home directories do not count.
-/
theorem answer_by_precedence_blankHost :
    let moved : Host :=
      { blankHost with
          environment :=
            ("VXCORE_EXECUTABLE_DIR", "/opt") :: blankHost.environment
          bundled := true }
    let cached :=
      blankHost.inhabited [("XDG_CACHE_HOME", " /cache ")] blankHost.accounts
    let homeless :=
      blankHost.inhabited [("XDG_CACHE_HOME", " /cache "), ("HOME", "~ghost")]
        {}
    (∃ path, blankHost.answer (.unix "VNote") .machineData = .ok (some path) ∧
      path.isAbsolute = true) ∧
      moved.answer (.unix "VNote") .machineData =
        blankHost.answer (.unix "VNote") .machineData ∧
        homeless.answer (.unix "VNote") .machineData =
          cached.answer (.unix "VNote") .machineData := by
  intro moved cached homeless
  have unix : (DirectorySource.unix "VNote").convention? .machineData =
    some ⟨some "XDG_CACHE_HOME", [".cache"]⟩ := rfl
  obtain ⟨answers, -, absolute, agree, -⟩ := answer_by_precedence blankHost unix
  obtain ⟨-, -, -, -, alone⟩ := answer_by_precedence cached unix
  have base : blankHost.Base ⟨some "XDG_CACHE_HOME", [".cache"]⟩
      (some ((Path.ofText "/home/user").join ⟨.relative, [".cache"]⟩)) := by
    refine .account ?_ (variableDirectory_eq_none_iff.mp (by decide))
      (by decide)
    rintro _ ⟨⟩
    exact variableDirectory_eq_none_iff.mp (by decide)
  have answered :=
    (answers ⟨.root, ["home", "user", ".cache", "VNote"]⟩).mpr
      ⟨_, base, by decide +kernel⟩
  refine ⟨⟨_, answered, absolute _ answered⟩,
    agree moved rfl rfl (by decide) ?_, ?_⟩
  · rintro _ ⟨⟩
    decide
  · exact alone "XDG_CACHE_HOME" " /cache " homeless rfl (by decide)
      (by decide) rfl (by decide)

end Host

end SettingsStore
