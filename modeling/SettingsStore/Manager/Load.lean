import SettingsStore.Files.Operations
import SettingsStore.Json.Merge
import SettingsStore.Json.Parser
import SettingsStore.Manager.Basic
import SettingsStore.Text.Utf8

/-!
# Loading

A load makes the data directories, reads the packaged defaults, the settings of
the user and the session, in this order, merges the first two and decodes.  The
first step that fails decides the outcome, and then configuration and session
stay what they were.  A layer that is missing counts as the empty object, and so
does one whose document is not an object.  What is told of a layer is heard
before the next one is read, because a listener may write to the very file that
is read next.
-/

namespace SettingsStore

/-- What reading a layer found. -/
inductive Layer where
  /-- There is no path for the layer. -/
  | unresolved
  /-- Nothing is at the path. -/
  | missing (path : Path)
  /-- The document is not an object. -/
  | foreign (path : Path)
  | document (members : Members)

namespace Layer

/-- The members that a layer contributes. -/
def members : Layer → Members
  | .document members => members
  | _ => []

/-- What is told about a layer. -/
def events : Layer → List Log.Event
  | .missing path =>
    [managerEvent .debug ("config layer missing, using empty document: " ++
        path.toText)]
  | .foreign path =>
    [managerEvent .warning
      ("ignoring " ++ path.toText ++ ": top-level JSON value is not an object")]
  | _ => []

end Layer

/--
Reads characters with each line end as a line feed, after a carriage return or
not; those read so far come last first.
-/
def unifyLinesFrom : Bool → List Char → List Char → List Char
  | _, [], read => read.reverse
  | afterReturn, character :: rest, read =>
    if character = '\r' then unifyLinesFrom true rest ('\n' :: read)
    else if afterReturn && character = '\n' then unifyLinesFrom false rest read
    else unifyLinesFrom false rest (character :: read)

/--
The characters of a file with each line end, however it is written, as a line
feed.
-/
def unifyLines (characters : List Char) : List Char :=
  unifyLinesFrom false characters []

/-- The document in the content of a file. -/
def readDocument (path : Path) (content : ByteArray) : Except Fault Json :=
  match Utf8.decode content.data.toList with
  | .error malformed =>
      .error (.jsonParse (path.toText ++ ": " ++ malformed.message))
  | .ok characters =>
    match Json.parse (Text.ofChars (unifyLines characters)) with
    | .ok document => .ok document
    | .error (.hugeInteger digits) => .error (.hugeInteger digits)
    | .error error => .error (.jsonParse (path.toText ++ ": " ++ error.message))

/-- Reads a layer. -/
def readLayer (files : FileSystem) : Option Path → Except Fault Layer
  | none => .ok .unresolved
  | some path =>
    match files.contentOf path with
    | .error .noEntry => .ok (.missing path)
    | .error .notDirectory => .ok (.missing path)
    | .error error =>
        .error (.ofFileError error ("cannot read " ++ path.toText))
    | .ok content =>
      match readDocument path content with
      | .error fault => .error fault
      | .ok (.object members) => .ok (.document members)
      | .ok _ => .ok (.foreign path)

/-- What the three documents say. -/
structure Layers where
  defaults : Layer
  user : Layer
  session : Layer

/-- Reads a layer and tells about it. -/
def readLayerTelling
    {World : Type}
    (listener : Log.Listener World)
    (world : World)
    (path : Option Path) :
    Except Fault Layer × World :=
  match readLayer (listener.files world) path with
  | .error fault => (.error fault, world)
  | .ok layer => (.ok layer, listener.hearAll world layer.events)

/--
Reads the three documents and tells about each before the next one is read.
-/
def readLayers
    {World : Type}
    (listener : Log.Listener World)
    (world : World)
    (paths : ResolvedPaths) :
    Except Fault Layers × World :=
  match readLayerTelling listener world paths.defaultConfig with
  | (.error fault, world) => (.error fault, world)
  | (.ok defaults, world) =>
    match readLayerTelling listener world paths.userConfig with
    | (.error fault, world) => (.error fault, world)
    | (.ok user, world) =>
      match readLayerTelling listener world paths.session with
      | (.error fault, world) => (.error fault, world)
      | (.ok session, world) => (.ok ⟨defaults, user, session⟩, world)

/--
The fault of documents that are nested too deeply to be merged or decoded.
-/
def Fault.nestedTooDeeply : Fault :=
  .jsonParse "document nested too deeply"

/-- The fault of a record that was not decoded. -/
def Fault.ofRecordError : RecordError → Fault
  | .tooDeep => .nestedTooDeeply
  | .failed error => .store error
  | error => .record error

/-- The configuration and the session in the three documents. -/
def Layers.decode
    (layers : Layers)
    (codec : RecordCodec) :
    Except Fault (Config × Session) :=
  match Json.mergePatch? (.object layers.defaults.members)
    layers.user.members with
  | none => .error .nestedTooDeeply
  | some merged =>
    match Session.ofJson codec (.object layers.session.members) with
    | .error error => .error (.ofRecordError error)
    | .ok session => .ok (Config.ofJson (.object merged), session)

/-- Makes the data directories that are known. -/
def ensureDataDirectories (paths : ResolvedPaths) : Procedure Fault Unit := do
  for directory in [paths.userData, paths.machineData] do
    match directory with
    | none => pure ()
    | some path =>
      match ← Procedure.attempt (FileSystem.makeDirectories path) with
      | .ok () => pure ()
      | .error (error, _) =>
        throw (.ofFileError error ("cannot create directory " ++ path.toText))

namespace Manager

/-- What an operation of a manager comes to. -/
structure Outcome where
  result : Except Fault Unit
  manager : Manager
  trail : Trail
  events : List Log.Event

namespace Outcome

/-- The file system that an operation leaves. -/
def files (outcome : Outcome) : FileSystem :=
  outcome.trail.files

end Outcome

/-- A manager after a fault: only an error of the store is its failure. -/
def afterFault (manager : Manager) (fault : Fault) : Manager :=
  match fault with
  | .store _ => { manager with state := .failed }
  | _ => manager

/-- What is told about a fault. -/
def faultEvents (fault : Fault) : List Log.Event :=
  match fault with
  | .store error =>
    [managerEvent .warning ("config load failed: " ++ error.text)]
  | _ => []

/-- What is told about a successful load. -/
def loadedEvent (config : Config) (session : Session) : Log.Event :=
  managerEvent .debug
    ("configs loaded version=" ++ config.version ++
      " backends=" ++ Text.quotedList config.search.backends ++
      " notebooks=" ++ toString session.notebooks.length)

/--
Takes over what the documents say, in a world in which the data directories were
made, or not; what is told of one document is heard before the next one is read.
-/
def loadDocuments
    {World : Type}
    (manager : Manager)
    (listener : Log.Listener World)
    (world : World)
    (made : Except Fault Unit) :
    Except Fault Unit × Manager × World :=
  let failed (fault : Fault) (world : World) :
      Except Fault Unit × Manager × World :=
    (.error fault, manager.afterFault fault,
      listener.hearAll world (faultEvents fault))
  match made with
  | .error fault => failed fault world
  | .ok () =>
    match readLayers listener world manager.paths with
    | (.error fault, world) => failed fault world
    | (.ok layers, world) =>
      match layers.decode manager.codec with
      | .error fault => failed fault world
      | .ok (config, session) =>
        (.ok (), { manager with state := .ready, config, session },
          listener.hear world (loadedEvent config session))

/--
Loads the documents from files that stay what they are once the data directories
were made.
-/
def load (manager : Manager) (files : FileSystem) : Outcome :=
  let (made, trail) := (ensureDataDirectories manager.paths).runOn files
  let (result, manager, events) :=
    manager.loadDocuments (Log.Listener.quiet trail.files) [] made
  ⟨result, manager, trail, events⟩

end Manager

end SettingsStore
