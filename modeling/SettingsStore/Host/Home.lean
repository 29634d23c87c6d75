import SettingsStore.Host.Basic
import SettingsStore.Text.Blank

/-!
# Home directories

A path that begins with `~` leads to the home directory of the current user, or
of the user whose name follows.  The home directory of the current user is what
`HOME` says, taken as it is, and otherwise what the account database says.  A
variable that names a directory is stripped of blanks and then expanded; blank
means the same as unset.
-/

namespace SettingsStore

/--
A text without the slashes at its end; a text of nothing but slashes is the
root.
-/
def trimSlashes (text : Text) : Text :=
  let kept := (text.reverse.dropWhile CodePoint.isSlash).reverse
  if kept.isEmpty then "/" else kept

namespace Host

/--
The home directory that a `~` with a user name after it stands for, as it is
recorded.
-/
def accountHome? (host : Host) (user : Text) : Option Text :=
  if user = "" then
    match host.environment.get? "HOME" with
    | some home => some home
    | none => if host.accounts.available then host.accounts.current else none
  else if host.accounts.available then host.accounts.users.lookup user
  else none

/-- The path with a `~` at its beginning replaced. -/
def expandHome (host : Host) (path : Path) : Except PathError Path :=
  match path.start, path.names with
  | .relative, first :: rest =>
    if first.startsWith "~" then
      match host.accountHome? (first.drop 1) with
      | none => .error .undeterminedHome
      | some home =>
        let home := trimSlashes home
        if home.startsWith "~" then .error .undeterminedHome
        else .ok ((Path.ofText home).join ⟨.relative, rest⟩)
    else .ok path
  | _, _ => .ok path

/-- The directory that a variable names, if it is set and not blank. -/
def variableDirectory
    (host : Host)
    (name : Text) :
    Except PathError (Option Path) :=
  match host.environment.get? name with
  | none => .ok none
  | some value =>
    let stripped := value.strip
    if stripped = "" then .ok none
    else
      match host.expandHome (Path.ofText stripped) with
      | .error error => .error error
      | .ok path => .ok (some path)

/-- The home directory of the current user, if one is known. -/
def homeDirectory (host : Host) : Except PathError (Option Path) :=
  match host.variableDirectory "HOME" with
  | .error error => .error error
  | .ok (some path) => .ok (some path)
  | .ok none =>
    .ok
      (if host.accounts.available then
        host.accounts.current.map Path.ofText else none)

end Host

end SettingsStore
