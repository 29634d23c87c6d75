import SettingsStore.Files.FileSystem

/-!
# Following paths

The system follows a path name by name from its start.  Each name has to be
looked up in a directory; a link on the way is replaced by the path that it
holds.  After forty links the search is given up as a loop, and a path that is
too long as a whole is not followed at all.  The result is a spot: a place whose
parent is a directory, and what stands there, if anything.  All names are looked
up in their stored form.
-/

namespace SettingsStore

/-- Where a path leads, and what stands there. -/
structure Spot where
  place : Place
  entry : Option Entry

/-- The greatest number of octets in a name. -/
def nameLimit : Nat := 255

/-- The greatest number of octets in a path. -/
def pathLimit : Nat := 4095

/-- The number of links after which a search is given up. -/
def linkLimit : Nat := 40

/--
Whether a link leads on from the root, and its names; a slash at the end asks
for a directory.
-/
def linkNames (target : Text) : Bool × List Text :=
  let pieces := splitSlashes target
  let names : List Text := pieces.filter (· ≠ "")
  let closing : List Text :=
    if 1 < pieces.length ∧ pieces.getLast? = some [] then ["."] else []
  (target.startsWith "/", names ++ closing)

/-- The number of octets in a stored name. -/
def octetCount (name : Text) : Nat :=
  match name.nameOctets? with
  | .ok octets => octets.length
  | .error _ => 0

namespace FileSystem

/-- Follows names from a place; what to do at a link is given. -/
def walkNames
    (files : FileSystem)
    (followLast : Bool)
    (atLink : Place → List Text → Except FileError Spot) :
    Place → List Text → Except FileError Spot
  | place, [] => .ok ⟨place, files.get? place⟩
  | place, name :: rest =>
    match files.get? place with
    | none => .error .noEntry
    | some (.directory _) =>
      if name = "." then walkNames files followLast atLink place rest
      else if name = ".." then
        walkNames files followLast atLink place.dropLast rest
      else if nameLimit < octetCount name then .error .nameTooLong
      else
        let next := place ++ [name]
        match files.get? next with
        | none => if rest.isEmpty then .ok ⟨next, none⟩ else .error .noEntry
        | some (.link target) =>
          if rest.isEmpty && !followLast then .ok ⟨next, some (.link target)⟩
          else
            let (fromRoot, names) := linkNames target
            atLink (if fromRoot then [] else place) (names ++ rest)
        | some _ => walkNames files followLast atLink next rest
    | some _ => .error .notDirectory

/-- Follows names from a place through at most a number of links. -/
def walk (files : FileSystem) (followLast : Bool) :
    Nat → Place → List Text → Except FileError Spot
  | 0 => walkNames files followLast fun _ _ => .error .linkLoop
  | links + 1 => walkNames files followLast (walk files followLast links)

/-- Follows names from a directory that was taken away from a place. -/
def walkRemoved (files : FileSystem) (followLast : Bool) (place : Place) :
    List Text → Except FileError Spot
  | [] => .ok ⟨place, some (.directory 0o755)⟩
  | name :: rest =>
    if name = ".." then
      walk files followLast linkLimit place.dropLast rest
    else .error .noEntry

/--
The spot to which a path leads; a link at its end is followed if asked for.
-/
def locate
    (files : FileSystem)
    (path : Path)
    (followLast : Bool) :
    Except FileError Spot :=
  match path.toText.systemOctets? with
  | .error error => .error (.name error)
  | .ok octets =>
    if pathLimit < octets.length then .error .nameTooLong
    else
      let names := path.names.map Text.stored
      if path.isAbsolute then walk files followLast linkLimit [] names
      else
        match files.workDirectory with
        | .present place => walk files followLast linkLimit place names
        | .removed place => walkRemoved files followLast place names

/-- The entry to which a path leads in the end. -/
def status (files : FileSystem) (path : Path) : Except FileError Entry :=
  match files.locate path true with
  | .error error => .error error
  | .ok ⟨_, none⟩ => .error .noEntry
  | .ok ⟨_, some entry⟩ => .ok entry

/-- Whether a path leads to anything. -/
def pathExists (files : FileSystem) (path : Path) : Bool :=
  (files.status path).isOk

/-- Whether a path leads to a directory. -/
def isDirectory (files : FileSystem) (path : Path) : Bool :=
  match files.status path with
  | .ok (.directory _) => true
  | _ => false

/-- Whether a path leads to a file. -/
def isFile (files : FileSystem) (path : Path) : Bool :=
  match files.status path with
  | .ok (.file _ _) => true
  | _ => false

/-- The target of the link that a path names, if it names one. -/
def linkTarget?
    (files : FileSystem)
    (path : Path) :
    Except FileError (Option Text) :=
  match files.locate path false with
  | .error error => .error error
  | .ok ⟨_, some (.link target)⟩ => .ok (some target)
  | .ok _ => .ok none

end FileSystem

end SettingsStore
