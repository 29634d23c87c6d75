import SettingsStore.Json.Printer
import SettingsStore.Manager.Load

/-!
# Saving

A save writes the session to a temporary file beside the one it is kept in and
then moves it over that one, so that the old session stays until the new one is
complete.  The new file has the permission bits of the one that it replaces.
When an operation is refused, the temporary file is taken away again.
-/

namespace SettingsStore

/--
The content of the file of a session: its document, one item a line, and a line
end.
-/
def sessionContent
    (codec : RecordCodec)
    (session : Session) :
    Except Fault ByteArray :=
  match session.toJson codec with
  | .error (.unsupported text) => .error (.store ⟨.jsonSerialize, some text⟩)
  | .error (.invalid text) => .error (.store ⟨.jsonSerialize, some text⟩)
  | .error (.failed error) => .error (.store error)
  | .error .tooDeep => .error (.record .tooDeep)
  | .ok document =>
    if document.hasHugeInteger then
      .error
        (.store ⟨.jsonSerialize,
        some ("Exceeds the limit (" ++ toString Json.digitLimit ++
        " digits) for integer string conversion; " ++
        "use sys.set_int_max_str_digits() to increase the limit")⟩)
    else
      .ok ⟨(Utf8.encode (Json.render .indented document ++ ['\n'])).toArray⟩

/--
The permission bits for a file that is replaced: its own, or those of a new file
if there is none.
-/
def targetMode (files : FileSystem) (path : Path) : Except FileError Nat :=
  match files.modeOf path with
  | .ok mode => .ok mode
  | .error .noEntry => .ok (files.masked 0o666)
  | .error error => .error error

/-- Fills a temporary file and moves it over the one at a path. -/
def fillAndReplace
    (path temporary : Path)
    (content : ByteArray) :
    Procedure FileError Unit := do
  Procedure.perform fun files => files.writeContent temporary content
  -- the content goes from the buffers to the disk
  Procedure.perform fun files => .ok files
  let mode ← Procedure.ask fun files => targetMode files path
  Procedure.perform fun files => files.changeMode temporary mode
  Procedure.perform fun files => files.rename temporary path

/-- Writes a content to a path by way of a temporary file. -/
def replaceFile
    (path : Path)
    (content : ByteArray) :
    Procedure FileError Unit := do
  match ← Procedure.attempt (FileSystem.makeDirectories path.parent) with
  | .error (error, _) => throw error
  | .ok () =>
    match ← Procedure.ask fun files => .ok (files.fromRoot? path.parent) with
    | none => throw .noEntry
    | some directory =>
      let temporary ← FileSystem.createTemporary directory.normalize
        ".session." ".tmp"
      match ← Procedure.attempt (fillAndReplace path temporary content) with
      | .ok () => return ()
      | .error error =>
        let removal : Procedure FileError Unit :=
          Procedure.perform fun files => files.removeFile temporary
        let _ ← Procedure.attempt removal
        throw error

namespace Manager

/-- Saves the session. -/
def save (manager : Manager) (files : FileSystem) : Outcome :=
  match manager.paths.session with
  | none =>
    ⟨.error (.store ⟨.notInitialized, some "local data path is not resolved"⟩),
      manager, ⟨files, []⟩, []⟩
  | some path =>
    match sessionContent manager.codec manager.session with
    | .error fault => ⟨.error fault, manager, ⟨files, []⟩, []⟩
    | .ok content =>
      let (written, trail) := (replaceFile path content).runOn files
      match written with
      | .error error =>
        ⟨.error (.ofFileError error ("cannot write " ++ path.toText)),
          manager, trail, []⟩
      | .ok () =>
        ⟨.ok (), manager, trail,
          [managerEvent .debug ("session saved: " ++ path.toText ++ " (" ++
            toString manager.session.notebooks.length ++ " notebooks)")]⟩

end Manager

end SettingsStore
