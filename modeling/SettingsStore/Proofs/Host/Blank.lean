import SettingsStore.Proofs.Host.Answers

/-!
# Blank variables

A variable that holds nothing but blanks is passed over where it would name a
directory, so that it might as well not be set.  There is one place where it is
not: a `~` at the beginning of another variable stands for what `HOME` holds,
blanks included, and for the home directory that the account has only where
`HOME` is not set.  An answer reads the variables that decide on it and nothing
else of the environment, so that removing a blank variable changes no answer
that comes about without such a `~`.
-/

namespace SettingsStore

theorem Environment.get?_unset
    (environment : Environment)
    (name other : Text) :
    (environment.unset name).get? other = if other =
      name then none else environment.get? other :=
  lookup_filter_ne environment name other

namespace Host

/-- The host with another environment and other accounts. -/
def inhabited
    (host : Host)
    (environment : Environment)
    (accounts : Accounts) :
    Host :=
  { host with environment, accounts }

/-- The host without a variable. -/
def without (host : Host) (name : Text) : Host :=
  host.inhabited (host.environment.unset name) host.accounts

/--
The host without `HOME`, with a home directory for the current user among the
accounts.
-/
def housed (host : Host) (home : Text) : Host :=
  host.inhabited (host.environment.unset "HOME")
    { available := true
      current := some home
      users := if host.accounts.available then host.accounts.users else [] }

/--
A variable names a path that begins with the home directory of the current user.
-/
def BeginsAtHome (host : Host) (name : Text) : Prop :=
  ∃ value rest, host.environment.get? name = some value ∧
    Path.ofText value.strip = ⟨.relative, Text.ofString "~" :: rest⟩

variable {host : Host} {environment : Environment} {accounts : Accounts}
  {source : DirectorySource} {query : Query}
  {name value : Text}

/-! ## What an answer reads of the environment -/

/-- A path is expanded by the home directory that its first name asks for. -/
theorem expandHome_congr
    {path : Path}
    (same : ∀ user rest,
      path = ⟨.relative, (Text.ofString "~" ++ user) :: rest⟩ →
      (host.inhabited environment accounts).accountHome? user =
        host.accountHome? user) :
    (host.inhabited environment accounts).expandHome path =
      host.expandHome path := by
  obtain ⟨start, names⟩ := path
  cases start with
  | relative =>
      cases names with
      | nil => rfl
      | cons first rest =>
          rw [expandHome, expandHome]
          dsimp only
          by_cases tilde : first.startsWith "~" = true
          · obtain ⟨user, rfl⟩ := List.isPrefixOf_iff_prefix.mp tilde
            have named : List.drop 1 (Text.ofString "~" ++ user) = user := rfl
            rw [named, same user rest rfl]
          · rw [if_neg tilde, if_neg tilde]
  | root | doubleRoot => cases names <;> rfl

/--
A variable that is held as before names the directory as before if the home
directory that it asks for is the same.
-/
theorem variableDirectory_congr
    (held : environment.get? name = host.environment.get? name)
    (same : ∀ value user rest, host.environment.get? name = some value →
      Path.ofText value.strip =
          ⟨.relative, (Text.ofString "~" ++ user) :: rest⟩ →
        (host.inhabited environment accounts).accountHome? user =
          host.accountHome? user) :
    (host.inhabited environment accounts).variableDirectory name =
      host.variableDirectory name := by
  have there :
      (host.inhabited environment accounts).environment.get? name =
        host.environment.get? name := held
  rw [variableDirectory, variableDirectory, there]
  cases set : host.environment.get? name with
  | none => rfl
  | some value =>
      dsimp only
      rw [expandHome_congr fun user rest names =>
          same value user rest set names]

theorem variableDirectory_of_unset
    (unset : host.environment.get? name = none) :
    host.variableDirectory name = .ok none := by
  rw [variableDirectory, unset]

theorem variableDirectory_of_blank
    (set : host.environment.get? name = some value)
    (blank : value.strip = "") :
    host.variableDirectory name = .ok none := by
  rw [variableDirectory, set]
  exact if_pos blank

/--
An answer reads the variables that decide on it, and the home directory where
`HOME` is one of them.
-/
theorem answer_congr
    (same : ∀ name, host.Consults source query name →
      (host.inhabited environment accounts).variableDirectory name =
        host.variableDirectory name)
    (home : host.Consults source query "HOME" →
      (host.inhabited environment accounts).homeDirectory =
        host.homeDirectory) :
    (host.inhabited environment accounts).answer source query =
      host.answer source query := by
  cases by_ : source.convention? query with
  | some convention =>
      rw [answer_of_convention by_, answer_of_convention by_]
      by_cases unset : ∀ name, convention.asks = some name →
        host.variableDirectory name = .ok none
      · have unsetThere : ∀ name, convention.asks = some name →
            (host.inhabited environment accounts).variableDirectory name =
              .ok none := by
          intro name asked
          rw [← unset name asked]
          exact same name (.named (by_.trans (by rw [← asked])))
        rw [directoryBy_of_unset unset, directoryBy_of_unset unsetThere,
          libraryDirectory, libraryDirectory, home (.home by_ unset)]
        rfl
      · obtain ⟨asks, belowHome⟩ := convention
        cases asks with
        | none =>
            refine absurd (fun name asked => ?_) unset
            cases asked
        | some name =>
            rw [directoryBy, directoryBy]
            dsimp only
            rw [baseDirectory, baseDirectory, same name (.named by_)]
            cases found : host.variableDirectory name with
            | error error => rfl
            | ok named =>
                cases named with
                | some base => rfl
                | none =>
                    refine absurd (fun other asked => ?_) unset
                    cases asked
                    exact found
  | none =>
      cases query with
      | executable =>
          have named := same "VXCORE_EXECUTABLE_DIR" .executable
          cases source with
          | fixed => rfl
          | bare | unix | mac | windows =>
              change executableDirectory _ = executableDirectory _
              rw [executableDirectory, executableDirectory, named]
              rfl
      | userData | machineData => cases source <;> first | rfl | cases by_

/-! ## Removing a blank variable -/

/--
Removing a variable takes no home directory away, unless it is `HOME` and that
of the current user is asked for.
-/
theorem accountHome?_without
    {user : Text}
    (apart : user ≠ "" ∨ name ≠ "HOME") :
    (host.without name).accountHome? user = host.accountHome? user := by
  rw [accountHome?, accountHome?]
  by_cases own : user = ""
  · have other : Text.ofString "HOME" ≠ name :=
      (apart.resolve_left (not_not_intro own)).symm
    have held :
        (host.without name).environment.get? "HOME" =
          host.environment.get? "HOME" :=
      (Environment.get?_unset _ _ _).trans (if_neg other)
    rw [if_pos own, if_pos own, held]
    rfl
  · rw [if_neg own, if_neg own]
    rfl

theorem variableDirectory_without
    (set : host.environment.get? name = some value)
    (blank : value.strip = "")
    {asked : Text}
    (elsewhere : name = "HOME" → ¬ host.BeginsAtHome asked) :
    (host.without name).variableDirectory asked =
      host.variableDirectory asked := by
  by_cases here : asked = name
  · subst here
    rw [variableDirectory_of_blank set blank]
    exact variableDirectory_of_unset
      ((Environment.get?_unset _ _ _).trans (if_pos rfl))
  · refine variableDirectory_congr
      ((Environment.get?_unset _ _ _).trans (if_neg here)) ?_
    intro text user rest held names
    refine accountHome?_without ?_
    by_cases home : name = "HOME"
    · refine Or.inl fun own => elsewhere home ⟨text, rest, held, ?_⟩
      rw [names, own]
      rfl
    · exact Or.inr home

/-- Blanks begin at no home directory. -/
theorem not_beginsAtHome_of_blank
    (set : host.environment.get? name = some value)
    (blank : value.strip = "") :
    ¬ host.BeginsAtHome name := by
  rintro ⟨same, rest, held, names⟩
  rw [set] at held
  cases held
  rw [blank] at names
  cases names

theorem homeDirectory_without
    (set : host.environment.get? name = some value)
    (blank : value.strip = "") :
    (host.without name).homeDirectory = host.homeDirectory := by
  have same :
      (host.without name).variableDirectory "HOME" =
        host.variableDirectory "HOME" := by
    refine variableDirectory_without set blank ?_
    rintro rfl
    exact not_beginsAtHome_of_blank set blank
  rw [homeDirectory, homeDirectory, same]
  rfl

/-! ## Where a blank `HOME` counts -/

theorem accountHome?_housed
    (set : host.environment.get? "HOME" = some value)
    (user : Text) :
    (host.housed value).accountHome? user = host.accountHome? user := by
  have unset : (host.housed value).environment.get? "HOME" = none :=
    (Environment.get?_unset _ _ _).trans (if_pos rfl)
  rw [accountHome?, accountHome?, set, unset]
  by_cases own : user = ""
  · rw [if_pos own, if_pos own]
    rfl
  · rw [if_neg own, if_neg own, housed, inhabited]
    cases host.accounts.available <;> rfl

theorem variableDirectory_housed
    (set : host.environment.get? "HOME" = some value)
    (blank : value.strip = "")
    (asked : Text) :
    (host.housed value).variableDirectory asked =
      host.variableDirectory asked := by
  by_cases home : asked = "HOME"
  · subst home
    rw [variableDirectory_of_blank set blank]
    exact variableDirectory_of_unset
      ((Environment.get?_unset _ _ _).trans (if_pos rfl))
  · exact variableDirectory_congr
      ((Environment.get?_unset _ _ _).trans (if_neg home))
      fun _ user _ _ _ => accountHome?_housed set user

/-- A variable that begins at a home directory is not passed over. -/
theorem BeginsAtHome.variableDirectory_ne
    (begins : host.BeginsAtHome name) :
    host.variableDirectory name ≠ .ok none := by
  obtain ⟨value, rest, set, names⟩ := begins
  intro passedOver
  rw [variableDirectory, set] at passedOver
  dsimp only at passedOver
  split at passedOver
  · rename_i blank
    rw [blank] at names
    cases names
  · split at passedOver <;> cases passedOver

/--
Where a variable that begins at a home directory decides, the home directory
itself is not asked for.
-/
theorem Consults.not_home
    {asked : Text}
    (consulted : host.Consults source query asked)
    (begins : host.BeginsAtHome asked)
    (notHome : ¬ host.BeginsAtHome "HOME") :
    ¬ host.Consults source query "HOME" := by
  have unsought :
      ∀ convention, source.convention? .executable ≠ some convention := by
    cases source <;> exact nofun
  intro atHome
  generalize other : Text.ofString "HOME" = home at atHome notHome
  cases atHome with
  | executable => exact absurd other (by decide)
  | named convention =>
      cases consulted with
      | executable => exact unsought _ convention
      | named same =>
          cases convention.symm.trans same
          exact notHome begins
      | home by_ unset => exact notHome (other ▸ begins)
  | home by_ unset =>
      cases consulted with
      | executable => exact unsought _ by_
      | named same =>
          cases by_.symm.trans same
          exact begins.variableDirectory_ne (unset _ rfl)
      | home => exact notHome begins

/--
Removing a variable that holds nothing but blanks changes neither the home
directory nor an answer, unless the variable is `HOME` and a variable that
decides on the answer begins with `~` and names the current user.  There the `~`
stands for the blanks: the answer is the one that comes about without `HOME`
where the account has them for its home directory.
-/
theorem answer_without_blank
    (host : Host)
    (source : DirectorySource)
    (query : Query)
    {name value : Text}
    (set : host.environment.get? name = some value)
    (blank : value.strip = "") :
    (host.without name).homeDirectory = host.homeDirectory ∧
      ((name = "HOME" → ∀ asked, host.Consults source query asked →
        ¬ host.BeginsAtHome asked) →
          (host.without name).answer source query = host.answer source query) ∧
        ∀ asked, name = "HOME" → host.Consults source query asked →
          host.BeginsAtHome asked →
          host.answer source query =
            (host.housed value).answer source query := by
  refine ⟨homeDirectory_without set blank, ?_, ?_⟩
  · intro elsewhere
    exact answer_congr
      (fun asked consulted => variableDirectory_without set blank fun home =>
          elsewhere home asked consulted)
      (fun _ => homeDirectory_without set blank)
  · rintro asked rfl consulted begins
    refine (answer_congr (fun asked _ =>
        variableDirectory_housed set blank asked) fun atHome => ?_).symm
    exact absurd atHome
      (consulted.not_home begins (not_beginsAtHome_of_blank set blank))

/--
A machine on which `HOME` is blank, as is the variable for caches, and data is
kept below `~`.
-/
def blankHost : Host where
  environment :=
    [("HOME", " "), ("XDG_CACHE_HOME", ""), ("XDG_DATA_HOME", "~/data")]
  accounts := { current := some "/home/user" }
  knownFolders := {}
  platform := "linux"
  bundled := false
  executable := ""
  packageDirectory := ⟨.root, []⟩
  temporaryDirectory := ⟨.root, []⟩
  files := ⟨[], .present [], 0o022⟩

/--
There the directory for caches is the same without either of the blank
variables, but the `~` of the other one stands for the blank of `HOME`, as it
would if the account had that for its home directory.
-/
theorem answer_without_blank_blankHost :
    (blankHost.without "HOME").homeDirectory =
      .ok (some (Path.ofText "/home/user")) ∧
      (blankHost.without "XDG_CACHE_HOME").answer (.unix "VNote") .machineData =
          blankHost.answer (.unix "VNote") .machineData ∧
        blankHost.answer (.unix "VNote") .userData =
          (blankHost.housed " ").answer (.unix "VNote") .userData := by
  have home := answer_without_blank blankHost (.unix "VNote") .userData
    (show blankHost.environment.get? "HOME" =
        some (Text.ofString " ") by decide) (by decide)
  have cache := answer_without_blank blankHost (.unix "VNote") .machineData
    (show blankHost.environment.get? "XDG_CACHE_HOME" =
        some (Text.ofString "") by decide) (by decide)
  have begins : blankHost.BeginsAtHome "XDG_DATA_HOME" :=
    ⟨"~/data", ["data"], by decide, by decide⟩
  refine ⟨home.1.trans (by decide),
    cache.2.1 fun same => absurd same (by decide),
    home.2.2 _ rfl (.named rfl) begins⟩

/--
But what is below the `~` of the data variable is found elsewhere once the blank
`HOME` is removed.
-/
theorem answer_ne_without_blankHost :
    blankHost.environment.get? "HOME" = some (Text.ofString " ") ∧
      Text.strip " " = "" ∧
      blankHost.answer (.unix "VNote") .userData =
        .ok (some ⟨.root, [" ", "data", "VNote"]⟩) ∧
        (blankHost.without "HOME").answer (.unix "VNote") .userData =
          .ok (some ⟨.root, ["home", "user", "data", "VNote"]⟩) := by
  decide +kernel

end Host

end SettingsStore
