import SettingsStore.Files.Operations
import SettingsStore.Text.Basic
import SettingsStore.Text.Utf8

/-!
# Log files

A log file grows up to a limit and is then put away: it becomes the first of
three old files, the older ones move on by one, and the oldest is dropped.  The
size that counts is the one of the file in octets together with the length of
the new line in code points.  A log file that somebody takes away while it is
open is written on, out of sight, until it is next put away.
-/

namespace SettingsStore.Log

/-- Where the lines of an open log file go. -/
inductive Stream where
  /-- To the file at a place. -/
  | attached (place : Place)
  /-- To a file that is no longer at its place and has a number of octets. -/
  | detached (size : Nat)
  | closed
  deriving DecidableEq

/-- A log file. -/
structure File where
  path : Path
  stream : Stream
  deriving DecidableEq

namespace File

/-- The size at which a log file is put away. -/
def sizeLimit : Nat := 100000

/-- The number of old files that are kept. -/
def oldFiles : Nat := 3

/-- The path of an old file; the latest has the number 1. -/
def oldPath (path : Path) (number : Nat) : Path :=
  match path.names.getLast? with
  | none => path
  | some last => path.parent.child (last ++ "." ++ toString number)

/--
Moves a file to another path if it is there, in place of what is at that path.
-/
def putAway
    (files : FileSystem)
    (source target : Path) :
    Except FileError FileSystem :=
  if files.pathExists source then
    if files.pathExists target then
      match files.removeFile target with
      | .error error => .error error
      | .ok files => files.rename source target
    else files.rename source target
  else .ok files

/--
Takes away what is at the path of the latest old file and moves the file there.
-/
def putAwayLatest
    (files : FileSystem)
    (path : Path) :
    Except FileError FileSystem :=
  let target := oldPath path 1
  let cleared :=
    if files.pathExists target then files.removeFile target else .ok files
  match cleared with
  | .error error => .error error
  | .ok files =>
      if files.pathExists path then files.rename path target else .ok files

/--
Moves the old files on by one, the oldest first, and the file to the latest of
them; as far as it came.
-/
def rotate
    (files : FileSystem)
    (path : Path) :
    Except FileError Unit × FileSystem :=
  let step (state : Except FileError Unit × FileSystem) (number : Nat) :
      Except FileError Unit × FileSystem :=
    match state with
    | (.error error, files) => (.error error, files)
    | (.ok (), files) =>
      match putAway files (oldPath path number) (oldPath path (number + 1)) with
      | .error error => (.error error, files)
      | .ok files => (.ok (), files)
  match ((List.range (oldFiles - 1)).map (· + 1)).reverse.foldl step
    (.ok (), files) with
  | (.error error, files) => (.error error, files)
  | (.ok (), files) =>
    match putAwayLatest files path with
    | .error error => (.error error, files)
    | .ok files => (.ok (), files)

/-- Opens a log file to write at its end, making it if it is not there. -/
def openAt
    (files : FileSystem)
    (path : Path) :
    Except FileError (File × FileSystem) :=
  match files.locate path true with
  | .error error => .error error
  | .ok spot =>
    match spot.entry with
    | some (.file _ _) => .ok (⟨path, .attached spot.place⟩, files)
    | some (.directory _) => .error .isDirectory
    | some (.link _) => .error .linkLoop
    | none =>
      .ok (⟨path, .attached spot.place⟩,
        files.put spot.place (.file ByteArray.empty (files.masked 0o666)))

/-- The size of the file that is written to. -/
def size (files : FileSystem) (file : File) : Nat :=
  match file.stream with
  | .attached place =>
    match files.get? place with
    | some (.file content _) => content.size
    | _ => 0
  | .detached size => size
  | .closed => 0

/-- The file with its stream open; nothing if it cannot be opened. -/
def reopened (files : FileSystem) (file : File) : Option (File × FileSystem) :=
  match file.stream with
  | .closed => (openAt files file.path).toOption
  | _ => some (file, files)

/-- Writes octets at the end. -/
def write
    (files : FileSystem)
    (file : File)
    (octets : ByteArray) :
    File × FileSystem :=
  match file.stream with
  | .attached place =>
    match files.get? place with
    | some (.file content mode) =>
        (file, files.put place (.file (content ++ octets) mode))
    | _ => (file, files)
  | .detached size =>
      ({ file with stream := .detached (size + octets.size) }, files)
  | .closed => (file, files)

/-- Puts the file away and opens a new one; also whether there is a new one. -/
def rollOver (files : FileSystem) (file : File) : Bool × File × FileSystem :=
  match rotate files file.path with
  | (.error _, files) => (false, { file with stream := .closed }, files)
  | (.ok (), files) =>
    match openAt files file.path with
    | .error _ => (false, { file with stream := .closed }, files)
    | .ok (file, files) => (true, file, files)

/-- Whether a line is the one that does not fit any more. -/
def isFull (files : FileSystem) (file : File) (line : Text) : Bool :=
  (!files.pathExists file.path || files.isFile file.path) &&
    sizeLimit ≤ file.size files + line.length

/--
Appends a line, its end included; a line that the file cannot take is lost.
-/
def append
    (files : FileSystem)
    (file : File)
    (line : Text) :
    File × FileSystem :=
  match reopened files file with
  | none => (file, files)
  | some (file, files) =>
    let (ready, file, files) :=
      if isFull files file line then
        rollOver files file
      else (true, file, files)
    match if ready then line.toChars? else none with
    | none => (file, files)
    | some characters => write files file ⟨(Utf8.encode characters).toArray⟩

/--
The log file after a change of the file system by others: what is no longer at
its place is out of sight.
-/
def afterRemoval
    (file : File)
    (before : FileSystem)
    (removed : Place → Bool) :
    File :=
  match file.stream with
  | .attached place =>
    if removed place then
      { file with stream := .detached (file.size before) }
    else file
  | _ => file

end File

end SettingsStore.Log
