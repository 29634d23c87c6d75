import SettingsStore.Files.Walk

/-!
# Canonical paths

The canonical path of a path is absolute and has neither links nor `..` in it,
as far as it exists; what does not exist is taken as it is written, `..` leading
back by one name.  Links are replaced one inside the other, and each place is
replaced once: where a link leads back to one that is still being replaced, the
rest stands as written, and the path fails to resolve if the system finds the
loop too.
-/

namespace SettingsStore

/-- Why a path cannot be had. -/
inductive PathError where
  /-- A path begins with `~` and no home directory is known for it. -/
  | undeterminedHome
  /-- Following the path runs into a loop of links. -/
  | linkLoop (path : Text)
  /-- The path is none that the system could be asked about. -/
  | name (error : NameError)
  /--
  The path is relative and the directory from which it starts was taken away.
  -/
  | workDirectoryGone
  /-- The source of directories answers no such question. -/
  | unsupported
  deriving DecidableEq

/-- The links met so far, each with its canonical path once that is known. -/
abbrev LinksMet := List (Path × Option Path)

/-- How far replacing links came. -/
structure Resolution where
  path : Path
  /-- Whether every link was replaced. -/
  complete : Bool
  met : LinksMet

namespace Path

/--
The path one name back, on a way without links; before a relative start it
grows.
-/
def ascend (path : Path) : Path :=
  match path.names.getLast? with
  | none => if path.isAbsolute then path else path.child ".."
  | some last => if last = ".." then path.child ".." else path.parent

/-- The path followed by names as they are written. -/
def joinWritten (path : Path) (names : List Text) : Path :=
  path.join (Path.ofText (Text.intercalate "/" names))

end Path

namespace FileSystem

/-- Leads on from a canonical path by names; how a link is replaced is given. -/
def resolveNames
    (files : FileSystem)
    (replace : Path → List Text → LinksMet → Except PathError Resolution) :
    Path → List Text → LinksMet → Except PathError Resolution
  | path, [], met => .ok ⟨path, true, met⟩
  | path, name :: rest, met =>
    if name = "" ∨ name = "." then resolveNames files replace path rest met
    else if name = ".." then resolveNames files replace path.ascend rest met
    else
      let next := path.child name
      match files.linkTarget? next with
      | .error (.name error) => .error (.name error)
      | .error _ => resolveNames files replace next rest met
      | .ok none => resolveNames files replace next rest met
      | .ok (some target) =>
        match met.lookup next with
        | some (some known) => resolveNames files replace known rest met
        | some none => .ok ⟨next.joinWritten rest, false, met⟩
        | none =>
          let start : Path :=
            if target.startsWith "/" then ⟨.root, []⟩ else path
          match replace start (splitSlashes target) ((next, none) :: met) with
          | .error error => .error error
          | .ok reached =>
            if reached.complete then
              resolveNames files replace reached.path rest
                ((next, some reached.path) :: reached.met)
            else .ok ⟨reached.path.joinWritten rest, false, reached.met⟩

/--
Leads on from a canonical path by names, with links replaced inside links to a
number of levels.
-/
def resolveWithin (files : FileSystem) :
    Nat → Path → List Text → LinksMet → Except PathError Resolution
  | 0 =>
      resolveNames files fun start names met =>
        .ok ⟨start.joinWritten names, false, met⟩
  | levels + 1 => resolveNames files (resolveWithin files levels)

/-- The levels of links inside links that are replaced. -/
def resolveLevels : Nat := 900

/--
The path from the root that a path stands for as it is written; a relative path
stands for none once the directory from which it starts was taken away.
-/
def fromRoot? (files : FileSystem) (path : Path) : Option Path :=
  if path.isAbsolute then some path
  else
    match files.workDirectory with
    | .present place => some ((Path.mk .root place).join path)
    | .removed _ => none

/-- The canonical path of a path. -/
def resolve (files : FileSystem) (path : Path) : Except PathError Path :=
  let start : Path := if path.isAbsolute then ⟨.root, []⟩ else ⟨.relative, []⟩
  match files.resolveWithin resolveLevels start path.names [] with
  | .error error => .error error
  | .ok reached =>
    match files.fromRoot? reached.path with
    | none => .error .workDirectoryGone
    | some whole =>
      let found := whole.normalize
      match files.status found with
      | .error .linkLoop => .error (.linkLoop found.toText)
      | .error (.name error) => .error (.name error)
      | _ => .ok found

/--
The canonical path, or the path from the root as it is written if a loop of
links is in the way.
-/
def absolutePath (files : FileSystem) (path : Path) : Except PathError Path :=
  match files.resolve path with
  | .ok found => .ok found
  | .error (.name error) => .error (.name error)
  | .error _ =>
    match files.fromRoot? path with
    | none => .error .workDirectoryGone
    | some whole => .ok whole

end FileSystem

end SettingsStore
