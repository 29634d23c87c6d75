import SettingsStore.Files.Name
import SettingsStore.Files.Path

/-!
# The file system

A file system is a finite map from places to entries.  A place is the list of
names from the root, in their stored form; the root itself is always a
directory.  With it go the directory from which relative paths start, which
stays the same one when it is taken away, and the mask of permission bits that
new files and directories do not get.
-/

namespace SettingsStore

/-- The names that lead from the root to an entry. -/
abbrev Place := List Text

/-- What stands at a place. -/
inductive Entry where
  | file (content : ByteArray) (mode : Nat)
  | directory (mode : Nat)
  | link (target : Text)

/-- Entries are compared octet by octet. -/
instance : DecidableEq Entry
  | .file first firstMode, .file second secondMode =>
    decidable_of_iff (first.data = second.data ∧ firstMode = secondMode) (by
      cases first
      cases second
      simp)
  | .directory first, .directory second =>
    decidable_of_iff (first = second) (by simp)
  | .link first, .link second =>
    decidable_of_iff (first = second) (by simp)
  | .file _ _, .directory _ => isFalse (by simp)
  | .file _ _, .link _ => isFalse (by simp)
  | .directory _, .file _ _ => isFalse (by simp)
  | .directory _, .link _ => isFalse (by simp)
  | .link _, .file _ _ => isFalse (by simp)
  | .link _, .directory _ => isFalse (by simp)

/-- The directory from which relative paths start. -/
inductive WorkDirectory where
  | present (place : Place)
  /--
  It was taken away from its place and stays empty; `..` still leads back from
  it.
  -/
  | removed (place : Place)
  deriving DecidableEq

namespace WorkDirectory

/-- The directory after everything from a place on was taken away. -/
def without (gone : Place) : WorkDirectory → WorkDirectory
  | present place =>
      if gone.isPrefixOf place then removed place else present place
  | removed place => removed place

/-- The directory after places were moved. -/
def moved (move : Place → Place) : WorkDirectory → WorkDirectory
  | present place => present (move place)
  | removed place => removed place

end WorkDirectory

/--
The entries of a file system below the root, with what a process brings along to
it.
-/
structure FileSystem where
  entries : List (Place × Entry)
  workDirectory : WorkDirectory
  umask : Nat

/-- Why the system refuses an operation. -/
inductive FileError where
  | noEntry
  | alreadyExists
  | notDirectory
  | isDirectory
  | nameTooLong
  | linkLoop
  /-- The path is none that the system could be asked about. -/
  | name (error : NameError)
  deriving DecidableEq

namespace FileSystem

/-- The entry at a place. -/
def get? (files : FileSystem) (place : Place) : Option Entry :=
  if place = [] then some (.directory 0o755) else files.entries.lookup place

/-- Sets the entry at a place in a list of entries. -/
def putEntry
    (place : Place)
    (entry : Entry) :
    List (Place × Entry) → List (Place × Entry)
  | [] => [(place, entry)]
  | (first, held) :: rest =>
    if first = place then
      (first, entry) :: rest
    else (first, held) :: putEntry place entry rest

/-- Sets the entry at a place. -/
def put (files : FileSystem) (place : Place) (entry : Entry) : FileSystem :=
  { files with entries := putEntry place entry files.entries }

/-- Takes away the entry at a place. -/
def erase (files : FileSystem) (place : Place) : FileSystem :=
  { files with entries := files.entries.filter fun pair => pair.1 ≠ place }

/-- Takes away a place and everything below it. -/
def eraseTree (files : FileSystem) (place : Place) : FileSystem :=
  { files with
    entries := files.entries.filter fun pair => !place.isPrefixOf pair.1
    workDirectory := files.workDirectory.without place }

/-- Moves a place and everything below it to another place. -/
def moveTree (files : FileSystem) (source target : Place) : FileSystem :=
  let moved (place : Place) : Place :=
    if source.isPrefixOf place then
      target ++ place.drop source.length
    else place
  { files with
    entries := files.entries.map fun pair => (moved pair.1, pair.2)
    workDirectory := files.workDirectory.moved moved }

/-- The permission bits of a new file or directory that asks for some. -/
def masked (files : FileSystem) (mode : Nat) : Nat :=
  mode - (mode &&& files.umask)

/--
After an entry was set in a list, its place shows it and every other place what
it did before.
-/
theorem lookup_putEntry
    (entries : List (Place × Entry))
    (place other : Place)
    (entry : Entry) :
    (putEntry place entry entries).lookup other =
      if other = place then some entry else entries.lookup other := by
  induction entries with
  | nil =>
    by_cases same : other = place
    · simp [putEntry, same]
    · have differs : (other == place) = false := beq_false_of_ne same
      simp [putEntry, List.lookup_cons, same, differs]
  | cons pair rest hypothesis =>
    obtain ⟨first, held⟩ := pair
    by_cases here : first = place
    · subst here
      by_cases same : other = first
      · simp [putEntry, same]
      · have differs : (other == first) = false := beq_false_of_ne same
        simp [putEntry, List.lookup_cons, same, differs]
    · by_cases same : other = first
      · subst same
        simp [putEntry, here]
      · have differs : (other == first) = false := beq_false_of_ne same
        simp [putEntry, here, List.lookup_cons, differs, hypothesis]

/--
After an entry was set, its place shows it and every other place what it did
before.
-/
theorem get?_put
    (files : FileSystem)
    (place other : Place)
    (entry : Entry)
    (below : place ≠ []) :
    (files.put place entry).get? other = if other =
      place then some entry else files.get? other := by
  by_cases root : other = []
  · subst root
    simp [get?, Ne.symm below]
  · simp [get?, root, put, lookup_putEntry]

end FileSystem

end SettingsStore
