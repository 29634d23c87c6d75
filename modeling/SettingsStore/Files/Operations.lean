import SettingsStore.Files.Walk

/-!
# Operations on files

Single operations as the system offers them, and procedures made of them.  An
operation either changes the file system or fails and leaves it alone.  A
procedure keeps, beside the file system that it is working on, those that stood
between its operations: what a crash at any of these points would leave.
-/

namespace SettingsStore

/-- A file system at work, with those that stood before, the latest first. -/
structure Trail where
  files : FileSystem
  earlier : List FileSystem

/-- A sequence of operations that may fail half-way. -/
abbrev Procedure (Error Result : Type) := ExceptT Error (StateM Trail) Result

namespace Procedure

variable {Error Result : Type}

/-- Carries out one operation. -/
def perform
    (operation : FileSystem → Except Error FileSystem) :
    Procedure Error Unit :=
  fun trail =>
    match operation trail.files with
    | .error error => (.error error, trail)
    | .ok files => (.ok (), ⟨files, trail.files :: trail.earlier⟩)

/-- Asks the file system a question. -/
def ask
    (question : FileSystem → Except Error Result) :
    Procedure Error Result :=
  fun trail => (question trail.files, trail)

/--
Runs a procedure and keeps going with what came out of it, failure or not.
-/
def attempt {Other : Type} (procedure : Procedure Error Result) :
    Procedure Other (Except Error Result) :=
  fun trail =>
    let (outcome, trail) :=
      (procedure : Trail → Except Error Result × Trail) trail
    (.ok outcome, trail)

/--
The outcome of a procedure on a file system, and the trail that it leaves.
-/
def runOn (procedure : Procedure Error Result) (files : FileSystem) :
    Except Error Result × Trail :=
  (procedure : Trail → Except Error Result × Trail) ⟨files, []⟩

end Procedure

namespace FileSystem

/-! ## Single operations -/

/-- Makes a directory where nothing is. -/
def makeDirectory
    (files : FileSystem)
    (path : Path) :
    Except FileError FileSystem :=
  match files.locate path false with
  | .error error => .error error
  | .ok ⟨_, some _⟩ => .error .alreadyExists
  | .ok ⟨place, none⟩ => .ok (files.put place (.directory (files.masked 0o777)))

/-- Makes an empty file where nothing is. -/
def createFile
    (files : FileSystem)
    (path : Path)
    (mode : Nat) :
    Except FileError FileSystem :=
  match files.locate path false with
  | .error error => .error error
  | .ok ⟨_, some _⟩ => .error .alreadyExists
  | .ok ⟨place, none⟩ =>
      .ok (files.put place (.file ByteArray.empty (files.masked mode)))

/--
Makes a link where nothing is; a link has to lead somewhere.  Both texts have to
be such as the system takes, before it looks at either of them.
-/
def makeLink
    (files : FileSystem)
    (path : Path)
    (target : Text) :
    Except FileError FileSystem :=
  match target.systemOctets?, files.locate path false with
  | .error error, _ => .error (.name error)
  | _, .error (.name error) => .error (.name error)
  | .ok octets, found =>
    if octets.isEmpty then .error .noEntry
    else if pathLimit < octets.length then .error .nameTooLong
    else
      match found with
      | .error error => .error error
      | .ok ⟨_, some _⟩ => .error .alreadyExists
      | .ok ⟨place, none⟩ => .ok (files.put place (.link target.stored))

/-- Replaces the content of the file at a spot, or makes a file there. -/
def storeAt (files : FileSystem) (spot : Spot) (content : ByteArray) :
    Except FileError FileSystem :=
  match spot.entry with
  | some (.file _ mode) => .ok (files.put spot.place (.file content mode))
  | some (.directory _) => .error .isDirectory
  | some (.link _) => .error .linkLoop
  | none => .ok (files.put spot.place (.file content (files.masked 0o666)))

/--
Whether the last of the links from a path on, up to a number of them, has a
slash at its end and leads to where something could be.
-/
def endsInSlash (files : FileSystem) : Nat → Path → Bool
  | 0, _ => false
  | links + 1, path =>
    match files.locate path false with
    | .ok ⟨place, some (.link target)⟩ =>
      let next := (Path.mk .root place.dropLast).join (Path.ofText target)
      if target.endsWith "/" then (files.locate next false).isOk
      else if target.endsWith "/." then false
      else endsInSlash files links next
    | _ => false

/--
Replaces the content of a file, making it if it is not there.  A slash at the
end of a link asks for a directory, which is no file.
-/
def writeContent (files : FileSystem) (path : Path) (content : ByteArray) :
    Except FileError FileSystem :=
  match files.locate path true with
  | .error error =>
      .error (if files.endsInSlash linkLimit path then .isDirectory else error)
  | .ok spot => files.storeAt spot content

/-- The content of a file. -/
def contentOf (files : FileSystem) (path : Path) : Except FileError ByteArray :=
  match files.status path with
  | .error error => .error error
  | .ok (.file content _) => .ok content
  | .ok (.directory _) => .error .isDirectory
  | .ok (.link _) => .error .linkLoop

/-- The permission bits of what a path leads to. -/
def modeOf (files : FileSystem) (path : Path) : Except FileError Nat :=
  match files.status path with
  | .error error => .error error
  | .ok (.file _ mode) => .ok mode
  | .ok (.directory mode) => .ok mode
  | .ok (.link _) => .error .linkLoop

/-- Sets the permission bits of what a path leads to. -/
def changeMode
    (files : FileSystem)
    (path : Path)
    (mode : Nat) :
    Except FileError FileSystem :=
  match files.locate path true with
  | .error error => .error error
  | .ok ⟨place, some (.file content _)⟩ =>
      .ok (files.put place (.file content mode))
  | .ok ⟨place, some (.directory _)⟩ => .ok (files.put place (.directory mode))
  | .ok ⟨_, some (.link _)⟩ => .error .linkLoop
  | .ok ⟨_, none⟩ => .error .noEntry

/--
Moves a file or a link to another name, whose file or link it replaces; a
directory only moves to a free name.
-/
def rename
    (files : FileSystem)
    (source target : Path) :
    Except FileError FileSystem :=
  match files.locate source false with
  | .error error => .error error
  | .ok ⟨_, none⟩ => .error .noEntry
  | .ok ⟨origin, some entry⟩ =>
    match files.locate target false with
    | .error error => .error error
    | .ok ⟨goal, held⟩ =>
      match entry, held with
      | .directory _, some _ => .error .notDirectory
      | .directory _, none => .ok (files.moveTree origin goal)
      | _, some (.directory _) => .error .isDirectory
      | _, _ =>
          if origin = goal then
            .ok files
          else .ok ((files.put goal entry).erase origin)

/-- Takes away a file or a link. -/
def removeFile
    (files : FileSystem)
    (path : Path) :
    Except FileError FileSystem :=
  match files.locate path false with
  | .error error => .error error
  | .ok ⟨_, none⟩ => .error .noEntry
  | .ok ⟨_, some (.directory _)⟩ => .error .isDirectory
  | .ok ⟨place, some _⟩ => .ok (files.erase place)

/-! ## Making directories -/

/-- A failed operation with the path that it was for. -/
abbrev PathFailure := FileError × Path

/--
Makes one directory; one that is there already will do, if it can be asked
about.
-/
def ensureDirectory (path : Path) : Procedure PathFailure Unit := do
  match ← Procedure.attempt
    (Procedure.perform fun files => files.makeDirectory path) with
  | .ok () => return ()
  | .error .noEntry => throw (.noEntry, path)
  | .error error =>
    match ← Procedure.ask fun files => .ok (files.status path) with
    | .ok (.directory _) => return ()
    | .error .nameTooLong => throw (.nameTooLong, path)
    | _ => throw (error, path)

/--
Makes a directory and those on the way to it; the names are given last first.
-/
def ensureDirectories
    (start : PathStart) :
    List Text → Procedure PathFailure Unit
  | [] => ensureDirectory ⟨start, []⟩
  | name :: before => do
    let path : Path := ⟨start, (name :: before).reverse⟩
    match ← Procedure.attempt (ensureDirectory path) with
    | .ok () => return ()
    | .error (.noEntry, _) =>
      ensureDirectories start before
      ensureDirectory path
    | .error failure => throw failure

/-- Makes the directory of a path and those on the way to it. -/
def makeDirectories (path : Path) : Procedure PathFailure Unit :=
  ensureDirectories path.start path.names.reverse

/-! ## Temporary files -/

/-- The names that are tried for a temporary file, one after the other. -/
def temporaryName (before after : Text) (number : Nat) : Text :=
  let digits := Nat.toDigits 10 number
  before ++ Text.ofChars (List.replicate (8 - digits.length) '0' ++ digits) ++
    after

/-- The number of names that are tried for a temporary file. -/
def temporaryTries : Nat := 10000

/--
Makes an empty file under the first free name from a number on, for its owner
alone.
-/
def createTemporaryFrom (directory : Path) (before after : Text) :
    Nat → Nat → Procedure FileError Path
  | 0, _ => throw .alreadyExists
  | tries + 1, number => do
    let path := directory.child (temporaryName before after number)
    match ← Procedure.attempt
      (Procedure.perform fun files => files.createFile path 0o600) with
    | .ok () => return path
    | .error .alreadyExists =>
        createTemporaryFrom directory before after tries (number + 1)
    | .error error => throw error

/-- Makes an empty file under a new name in a directory. -/
def createTemporary
    (directory : Path)
    (before after : Text) :
    Procedure FileError Path :=
  createTemporaryFrom directory before after temporaryTries 0

end FileSystem

end SettingsStore
