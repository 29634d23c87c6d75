import SettingsStore.Program.Basic
import SettingsStore.Session.Edit

/-!
# Managers by name

A workspace is a running program with managers that go by names.  A session that
a manager has can be held under a name of its own; it is then still there, and
shows the edits made to it, when the manager has moved on to another one.  Every
session has a number by which the manager and those who hold it know it.
-/

namespace SettingsStore

/-- A manager with the number of its session. -/
structure NumberedManager where
  manager : Manager
  number : Nat

/-- A program with its managers and the sessions that are held. -/
structure Workspace where
  program : Program
  managers : List (Text × NumberedManager) := []
  /-- The sessions that no manager has any more, by number. -/
  loose : List (Nat × Session) := []
  /-- The numbers of the sessions that are held, by name. -/
  held : List (Text × Nat) := []
  /-- The number of the next session. -/
  next : Nat := 0

namespace Workspace

/-- The manager of a name. -/
def manager? (workspace : Workspace) (name : Text) : Option Manager :=
  (workspace.managers.lookup name).map NumberedManager.manager

/--
Lets go of the manager of a name, whose session is kept for those who hold it.
-/
def release (workspace : Workspace) (name : Text) : Workspace :=
  match workspace.managers.lookup name with
  | none => workspace
  | some found =>
    { workspace with
      managers := workspace.managers.filter fun entry => entry.1 ≠ name
      loose := (found.number, found.manager.session) :: workspace.loose }

/-- Gives a name to a manager with a session of its own. -/
def install
    (workspace : Workspace)
    (name : Text)
    (manager : Manager) :
    Workspace :=
  let released := workspace.release name
  { released with
    managers := (name, ⟨manager, released.next⟩) :: released.managers
    next := released.next + 1 }

/-- Makes a manager under a name; the name is free if that fails. -/
def construct
    (workspace : Workspace)
    (name : Text)
    (source : Option DirectorySource)
    (codec : RecordCodec)
    (testMode : Option Bool) :
    Except PathError Unit × Workspace :=
  let (made, program) := workspace.program.construct source codec testMode
  let workspace := { workspace with program }
  match made with
  | .error error => (.error error, workspace.release name)
  | .ok manager => (.ok (), workspace.install name manager)

/-- Changes the manager of a name, which keeps the number of its session. -/
def update
    (workspace : Workspace)
    (name : Text)
    (change : Manager → Manager) :
    Workspace :=
  { workspace with
    managers := workspace.managers.map fun entry =>
      if entry.1 = name then
        (entry.1, ⟨change entry.2.manager, entry.2.number⟩)
      else entry }

/--
Loads the documents of the manager of a name; a load that succeeds gives it a
new session.
-/
def load
    (workspace : Workspace)
    (name : Text) :
    Option (Except Fault Unit × Workspace) :=
  (workspace.manager? name).map fun manager =>
    let (result, manager, program) := workspace.program.load manager
    let workspace := { workspace with program }
    match result with
    | .error fault => (.error fault, workspace.update name fun _ => manager)
    | .ok () => (.ok (), workspace.install name manager)

/-- Saves the session of the manager of a name. -/
def save
    (workspace : Workspace)
    (name : Text) :
    Option (Except Fault Unit × Workspace) :=
  (workspace.manager? name).map fun manager =>
    let (result, program) := workspace.program.save manager
    (result, { workspace with program })

/-- The number of the session that the manager of a name has. -/
def number? (workspace : Workspace) (name : Text) : Option Nat :=
  (workspace.managers.lookup name).map NumberedManager.number

/-- The session with a number. -/
def session? (workspace : Workspace) (number : Nat) : Option Session :=
  match workspace.managers.find? fun entry => entry.2.number = number with
  | some entry => some entry.2.manager.session
  | none => workspace.loose.lookup number

/-- Edits the session with a number. -/
def edit (workspace : Workspace) (number : Nat) (edit : Edit) : Workspace :=
  { workspace with
    managers := workspace.managers.map fun (name, found) =>
      if found.number = number then
        (name, { found with
          manager :=
          { found.manager with session := found.manager.session.edit edit } })
      else (name, found)
    loose := workspace.loose.map fun (loose, session) =>
      if loose = number then (loose, session.edit edit) else (loose, session) }

/-- Holds the session with a number under a name. -/
def hold (workspace : Workspace) (name : Text) (number : Nat) : Workspace :=
  { workspace with
    held :=
    (name, number) :: workspace.held.filter fun entry => entry.1 ≠ name }

/-- Holds a session that no manager has under a name. -/
def holdLoose
    (workspace : Workspace)
    (name : Text)
    (session : Session) :
    Workspace :=
  { workspace.hold name workspace.next with
    loose := (workspace.next, session) :: workspace.loose
    next := workspace.next + 1 }

end Workspace

end SettingsStore
