import SettingsStore.Text.Basic

/-!
# Paths

A path is where it starts and the names that lead on from there.  Text becomes a
path by splitting it at the slashes; empty names and `.` say nothing and are
dropped, `..` is kept, because what it leads back to depends on links.  Two
slashes in front, and not more, are kept as a start of their own.
-/

namespace SettingsStore

/-- Where a path starts. -/
inductive PathStart where
  | relative
  | root
  | doubleRoot
  deriving DecidableEq

/-- The mark of a start in text. -/
def PathStart.mark : PathStart → Text
  | .relative => ""
  | .root => "/"
  | .doubleRoot => "//"

/-- A path: its start and the names on the way. -/
structure Path where
  start : PathStart
  names : List Text
  deriving DecidableEq

/-- The mark between the names of a path. -/
def CodePoint.isSlash (point : CodePoint) : Bool :=
  point = '/'

/-- The pieces of a text between its slashes, empty ones included. -/
def splitSlashes : Text → List Text
  | [] => [[]]
  | point :: rest =>
    if point.isSlash then [] :: splitSlashes rest
    else
      match splitSlashes rest with
      | [] => [[point]]
      | piece :: pieces => (point :: piece) :: pieces

namespace Path

/-- The start that leading slashes stand for. -/
def startOf (text : Text) : PathStart :=
  match (text.takeWhile CodePoint.isSlash).length with
  | 0 => .relative
  | 2 => .doubleRoot
  | _ => .root

/-- The path of a text. -/
def ofText (text : Text) : Path where
  start := startOf text
  names := (splitSlashes text).filter fun name => name ≠ "" ∧ name ≠ "."

/-- The text of a path; the path that leads nowhere is `.`. -/
def toText (path : Path) : Text :=
  if path.start = .relative ∧ path.names = [] then "."
  else path.start.mark ++ Text.intercalate "/" path.names

/-- Absolute paths start at the root. -/
def isAbsolute (path : Path) : Bool :=
  path.start ≠ .relative

/-- The second path, seen from where the first one leads. -/
def join (base more : Path) : Path :=
  if more.isAbsolute then more else ⟨base.start, base.names ++ more.names⟩

/-- A path with one more name. -/
def child (path : Path) (name : Text) : Path :=
  ⟨path.start, path.names ++ [name]⟩

/-- A path without its last name. -/
def parent (path : Path) : Path :=
  ⟨path.start, path.names.dropLast⟩

/--
The names after `..` has taken away the name before it; at the root it is
dropped.
-/
def foldNames (absolute : Bool) (names : List Text) : List Text :=
  let step (kept : List Text) (name : Text) : List Text :=
    if name ≠ ".." then name :: kept
    else
      match kept with
      | [] => if absolute then [] else [".."]
      | last :: before => if last = ".." then ".." :: last :: before else before
  (names.foldl step []).reverse

/--
The path in which `..` no longer stands after a name, links left out of account.
-/
def normalize (path : Path) : Path :=
  ⟨path.start, foldNames path.isAbsolute path.names⟩

end Path

end SettingsStore
