import SettingsStore.CommandLine.Grammar
import SettingsStore.Program.Basic

/-!
# Showing the configuration and the session

`config dump` loads the documents and shows, for the settings of the user and
for the session, the path, whether there is something at it, and then, unless
only the paths are asked for, what was loaded.  An error of the store is told
on the error output and makes the code 1.  The output may refuse a path, which
can hold what is no character.
-/

namespace SettingsStore

/-- How a command line ended. -/
inductive Ending where
  /-- The command line itself ended the program. -/
  | exit (exit : CommandLine.Exit)
  /-- The command came to a code. -/
  | code (code : Nat)
  /-- A fault stopped the command. -/
  | fault (fault : Fault)
  /-- The log file was given as nothing, which is no text to make a path of. -/
  | noText
  /-- The output refused a text. -/
  | unwritten (error : OutputError)
  deriving DecidableEq

namespace Program

/-- The line on a path, with its title. -/
def pathLine (title : Text) (path : Option Path) : Text :=
  let shown : Text :=
    match path with
    | none => "(unresolved)"
    | some path => path.toText
  title ++ " Path:\n  " ++ shown ++ "\n"

/-- The line on whether something is at a path. -/
def existenceLine (found : Bool) : Text :=
  "  Exists: " ++ (if found then "yes" else "no") ++ "\n\n"

/-- The lines on the contents of a document. -/
def contentLines (title : Text) (document : Json) : Text :=
  title ++ " Contents:\n" ++ document.toIndented ++ "\n\n"

/-- Whether something is at a path, if there is one. -/
def finds (program : Program) : Option Path → Bool
  | none => false
  | some path => program.files.pathExists path

/--
The texts of the section on a document, each of which is written by itself; its
contents are shown if they are given and something is there.
-/
def documentSection
    (program : Program)
    (title : Text)
    (path : Option Path)
    (contents : Option Json) :
    List Text :=
  let found := program.finds path
  pathLine title path :: existenceLine found ::
    match if found then contents else none with
    | none => []
    | some document => [contentLines title document]

/-- What stands above the sections. -/
def heading : Text := "=== VxCore Configuration ===\n\n"

/-- Shows what a manager has loaded. -/
def display (program : Program) (manager : Manager) (pathsOnly : Bool) :
    Except Ending Unit × Program :=
  let contents := if pathsOnly then none else some manager.config.toJson
  let app :=
    program.documentSection "App Config" manager.paths.userConfig contents
  match program.printAll (heading :: app) with
  | (.error error, program) => (.error (.unwritten error), program)
  | (.ok (), program) =>
    let document :=
      if pathsOnly then .ok none
      else (manager.session.toJson manager.codec).map some
    match document with
    | .error error => (.error (.fault (.record error)), program)
    | .ok contents =>
      let session :=
        program.documentSection "Session Config" manager.paths.session contents
      match program.printAll session with
      | (.error error, program) => (.error (.unwritten error), program)
      | (.ok (), program) => (.ok (), program)

/-- Loads the documents and shows them. -/
def dump (program : Program) (pathsOnly : Bool) : Ending × Program :=
  match program.construct none .verbatim none with
  | (.error error, program) => (.fault (.path error), program)
  | (.ok manager, program) =>
    match program.load manager with
    | (.error (.store error), _, program) =>
      (.code 1, program.complain ("Error: " ++ error.text ++ "\n"))
    | (.error fault, _, program) => (.fault fault, program)
    | (.ok (), manager, program) =>
      match program.display manager pathsOnly with
      | (.error ending, program) => (ending, program)
      | (.ok (), program) => (.code 0, program)

end Program

end SettingsStore
