import SettingsStore.Files.Resolve
import SettingsStore.Proofs.Files.Spelling

/-!
# What a canonical path depends on

Leading on from a canonical path by names asks the files one question for each
name: which link stands there, if any.  `Resolves` lists the ways in which this
can go, one constructor for each.  From it come the two facts that the rest is
built on: what holds of a start and is kept by going on and going back holds of
every path that was led to without loops, and where two file systems answer the
questions alike, the canonical paths are the same.
-/

namespace SettingsStore

/-- One name back a path has the same start. -/
theorem Path.start_ascend (path : Path) : path.ascend.start = path.start := by
  rw [ascend]
  split
  · split <;> rfl
  · split <;> rfl

namespace FileSystem

/-! ## The questions -/

/--
The link that a path names, if it names one; why a path names nothing does not
matter unless it is none.
-/
def linkAt
    (files : FileSystem)
    (path : Path) :
    Except NameError (Option Text) :=
  match files.linkTarget? path with
  | .error (.name cause) => .error cause
  | .error _ => .ok none
  | .ok found => .ok found

/-- The path from which a link in a directory leads on. -/
def linkBase (path : Path) (target : Text) : Path :=
  if target.startsWith "/" then ⟨.root, []⟩ else path

/-- A name that is asked about. -/
structure Asked (name : Text) : Prop where
  notEmpty : name ≠ ""
  notHere : name ≠ "."
  notBack : name ≠ ".."

theorem Asked.notStay
    {name : Text}
    (asked : Asked name) :
    ¬ (name = "" ∨ name = ".") :=
  not_or.mpr ⟨asked.notEmpty, asked.notHere⟩

/-- One round of leading on. -/
theorem resolveNames_cons
    (files : FileSystem)
    (replace : Path → List Text → LinksMet → Except PathError Resolution)
    (path : Path)
    (name : Text)
    (rest : List Text)
    (met : LinksMet) :
    files.resolveNames replace path (name :: rest) met =
      if name = "" ∨ name = "." then files.resolveNames replace path rest met
      else if name = ".." then files.resolveNames replace path.ascend rest met
      else
        match files.linkAt (path.child name) with
        | .error cause => .error (.name cause)
        | .ok none => files.resolveNames replace (path.child name) rest met
        | .ok (some target) =>
          match met.lookup (path.child name) with
          | some (some known) => files.resolveNames replace known rest met
          | some none => .ok ⟨(path.child name).joinWritten rest, false, met⟩
          | none =>
            match replace (linkBase path target) (splitSlashes target)
              ((path.child name, none) :: met) with
            | .error error => .error error
            | .ok reached =>
              if reached.complete then
                files.resolveNames replace reached.path rest
                  ((path.child name, some reached.path) :: reached.met)
              else .ok ⟨reached.path.joinWritten rest, false, reached.met⟩ := by
  rw [resolveNames, linkAt]
  split
  · rfl
  · split
    · rfl
    · dsimp only
      cases files.linkTarget? (path.child name) with
      | error error => cases error <;> rfl
      | ok found => cases found <;> rfl

/-! ## The ways -/

/--
The ways in which leading on from a path by names, through a number of links
inside links, can go.
-/
inductive Resolves (files : FileSystem) :
    Nat → Path → List Text → LinksMet → Except PathError Resolution → Prop where
  | arrived {levels : Nat} {path : Path} {met : LinksMet} :
      Resolves files levels path [] met (.ok ⟨path, true, met⟩)
  | stay {levels : Nat} {path : Path} {name : Text} {rest : List Text}
    {met : LinksMet}
      {result : Except PathError Resolution}
      (here : name = "" ∨ name = ".")
      (further : Resolves files levels path rest met result) :
      Resolves files levels path (name :: rest) met result
  | back {levels : Nat} {path : Path} {rest : List Text} {met : LinksMet}
      {result : Except PathError Resolution}
      (further : Resolves files levels path.ascend rest met result) :
      Resolves files levels path (".." :: rest) met result
  | refused {levels : Nat} {path : Path} {name : Text} {rest : List Text}
    {met : LinksMet}
      {cause : NameError}
      (asked : Asked name)
      (none : files.linkAt (path.child name) = .error cause) :
      Resolves files levels path (name :: rest) met (.error (.name cause))
  | enter {levels : Nat} {path : Path} {name : Text} {rest : List Text}
    {met : LinksMet}
      {result : Except PathError Resolution}
      (asked : Asked name)
      (noLink : files.linkAt (path.child name) = .ok none)
      (further : Resolves files levels (path.child name) rest met result) :
      Resolves files levels path (name :: rest) met result
  | known {levels : Nat} {path found : Path} {name target : Text}
    {rest : List Text} {met : LinksMet}
      {result : Except PathError Resolution}
      (asked : Asked name)
      (link : files.linkAt (path.child name) = .ok (some target))
      (before : met.lookup (path.child name) = some (some found))
      (further : Resolves files levels found rest met result) :
      Resolves files levels path (name :: rest) met result
  | again {levels : Nat} {path : Path} {name target : Text} {rest : List Text}
    {met : LinksMet}
      (asked : Asked name)
      (link : files.linkAt (path.child name) = .ok (some target))
      (being : met.lookup (path.child name) = some none) :
      Resolves files levels path (name :: rest) met
        (.ok ⟨(path.child name).joinWritten rest, false, met⟩)
  | deep {path : Path} {name target : Text} {rest : List Text} {met : LinksMet}
      (asked : Asked name)
      (link : files.linkAt (path.child name) = .ok (some target))
      (new : met.lookup (path.child name) = none) :
      Resolves files 0 path (name :: rest) met
        (.ok
            ⟨((linkBase path target).joinWritten
              (splitSlashes target)).joinWritten rest, false,
          (path.child name, none) :: met⟩)
  | failed {levels : Nat} {path : Path} {name target : Text} {rest : List Text}
    {met : LinksMet}
      {error : PathError}
      (asked : Asked name)
      (link : files.linkAt (path.child name) = .ok (some target))
      (new : met.lookup (path.child name) = none)
      (inner :
        Resolves files levels (linkBase path target) (splitSlashes target)
          ((path.child name, none) :: met)
          (.error error)) :
      Resolves files (levels + 1) path (name :: rest) met (.error error)
  | halted {levels : Nat} {path found : Path} {name target : Text}
    {rest : List Text} {met more : LinksMet}
      (asked : Asked name)
      (link : files.linkAt (path.child name) = .ok (some target))
      (new : met.lookup (path.child name) = none)
      (inner :
        Resolves files levels (linkBase path target) (splitSlashes target)
          ((path.child name, none) :: met)
          (.ok ⟨found, false, more⟩)) :
      Resolves files (levels + 1) path (name :: rest) met
        (.ok ⟨found.joinWritten rest, false, more⟩)
  | replaced {levels : Nat} {path found : Path} {name target : Text}
    {rest : List Text} {met more : LinksMet}
      {result : Except PathError Resolution}
      (asked : Asked name)
      (link : files.linkAt (path.child name) = .ok (some target))
      (new : met.lookup (path.child name) = none)
      (inner :
        Resolves files levels (linkBase path target) (splitSlashes target)
          ((path.child name, none) :: met)
          (.ok ⟨found, true, more⟩))
      (further :
        Resolves files (levels + 1) found rest
          ((path.child name, some found) :: more) result) :
      Resolves files (levels + 1) path (name :: rest) met result

/-- What is done at a link that was not met before. -/
inductive Replaces
    (files : FileSystem)
    (levels : Nat)
    (path : Path)
    (name target : Text)
    (met : LinksMet) :
    Except PathError Resolution → Prop where
  | deep (none : levels = 0) :
      Replaces files levels path name target met
        (.ok ⟨(linkBase path target).joinWritten (splitSlashes target), false,
          (path.child name, Option.none) :: met⟩)
  | inner {below : Nat} {result : Except PathError Resolution}
      (some : levels = below + 1)
      (resolves :
        Resolves files below (linkBase path target) (splitSlashes target)
          ((path.child name, Option.none) :: met) result) :
      Replaces files levels path name target met result

/-- Leading on goes one of the ways, if what is done at a link does. -/
theorem resolves_resolveNames
    {files : FileSystem}
    {levels : Nat}
    {replace : Path → List Text → LinksMet → Except PathError Resolution}
    (atLink :
      ∀ path name target met,
        Replaces files levels path name target met
          (replace (linkBase path target) (splitSlashes target)
              ((path.child name, none) :: met)))
    (path : Path)
    (names : List Text)
    (met : LinksMet) :
    Resolves files levels path names met
      (files.resolveNames replace path names met) := by
  induction names generalizing path met with
  | nil => exact .arrived
  | cons name rest further =>
      rw [resolveNames_cons]
      split
      · rename_i here
        exact .stay here (further path met)
      · rename_i notHere
        split
        · rename_i back
          rw [back]
          exact .back (further path.ascend met)
        · rename_i notBack
          have asked : Asked name :=
            ⟨fun empty => notHere (Or.inl empty),
              fun here => notHere (Or.inr here), notBack⟩
          cases answer : files.linkAt (path.child name) with
          | error cause => exact .refused asked answer
          | ok found =>
              cases found with
              | none =>
                  exact .enter asked answer (further (path.child name) met)
              | some target =>
                  dsimp only
                  cases before : met.lookup (path.child name) with
                  | some state =>
                      cases state with
                      | some found =>
                          exact .known asked answer before (further found met)
                      | none => exact .again asked answer before
                  | none =>
                      have replaced := atLink path name target met
                      dsimp only
                      generalize replace (linkBase path target)
                        (splitSlashes target)
                        ((path.child name, none) :: met) = result at replaced ⊢
                      cases replaced with
                      | deep none =>
                          subst none
                          exact .deep asked answer before
                      | inner some resolves =>
                          subst some
                          cases result with
                          | error error =>
                              exact .failed asked answer before resolves
                          | ok reached =>
                              obtain ⟨found, complete, more⟩ := reached
                              cases complete with
                              | false =>
                                  exact .halted asked answer before resolves
                              | true =>
                                  exact .replaced asked answer before resolves
                                    (further found
                                        ((path.child name, Option.some found) ::
                                          more))

/-- Leading on through a number of links inside links goes one of the ways. -/
theorem resolves_resolveWithin
    (files : FileSystem)
    (levels : Nat)
    (path : Path)
    (names : List Text)
    (met : LinksMet) :
    Resolves files levels path names met
      (files.resolveWithin levels path names met) := by
  induction levels generalizing path names met with
  | zero =>
      exact resolves_resolveNames (fun _ _ _ _ => .deep rfl) path names met
  | succ levels inner =>
      exact resolves_resolveNames
        (fun _ _ _ _ => .inner rfl (inner _ _ _)) path names met

/-- What is done at a link, at a number of levels. -/
def replacement?
    (files : FileSystem) :
    Nat → Path → List Text → LinksMet → Except PathError Resolution
  | 0 => fun start names met => .ok ⟨start.joinWritten names, false, met⟩
  | levels + 1 => files.resolveWithin levels

theorem resolveWithin_eq
    (files : FileSystem)
    (levels : Nat) :
    files.resolveWithin levels =
      files.resolveNames (files.replacement? levels) := by
  cases levels <;> rfl

/-- There is only one way to go. -/
theorem Resolves.eq_resolveWithin
    {files : FileSystem}
    {levels : Nat}
    {path : Path}
    {names : List Text}
    {met : LinksMet}
    {result : Except PathError Resolution}
    (resolves : Resolves files levels path names met result) :
    files.resolveWithin levels path names met = result := by
  induction resolves with
  | arrived => rw [resolveWithin_eq, resolveNames]
  | stay here further induction =>
      rw [resolveWithin_eq] at induction ⊢
      rw [resolveNames_cons, if_pos here, induction]
  | back further induction =>
      have notHere : ¬ ((".." : Text) = "" ∨ (".." : Text) = ".") := by decide
      rw [resolveWithin_eq] at induction ⊢
      rw [resolveNames_cons, if_neg notHere, if_pos rfl, induction]
  | refused asked none =>
      rw [resolveWithin_eq, resolveNames_cons, if_neg asked.notStay,
        if_neg asked.notBack, none]
  | enter asked noLink further induction =>
      rw [resolveWithin_eq] at induction ⊢
      rw [resolveNames_cons, if_neg asked.notStay, if_neg asked.notBack, noLink]
      exact induction
  | known asked link before further induction =>
      rw [resolveWithin_eq] at induction ⊢
      rw [resolveNames_cons, if_neg asked.notStay, if_neg asked.notBack, link]
      dsimp only
      rw [before]
      exact induction
  | again asked link being =>
      rw [resolveWithin_eq, resolveNames_cons, if_neg asked.notStay,
        if_neg asked.notBack, link]
      dsimp only
      rw [being]
  | deep asked link new =>
      rw [resolveWithin_eq, resolveNames_cons, if_neg asked.notStay,
        if_neg asked.notBack, link]
      dsimp only
      rw [new]
      rfl
  | failed asked link new inner induction =>
      rw [resolveWithin_eq, resolveNames_cons, if_neg asked.notStay,
        if_neg asked.notBack, link]
      dsimp only
      rw [new, replacement?, induction]
  | halted asked link new inner induction =>
      rw [resolveWithin_eq, resolveNames_cons, if_neg asked.notStay,
        if_neg asked.notBack, link]
      dsimp only
      rw [new, replacement?, induction]
      rfl
  | replaced asked link new inner further induction later =>
      rw [resolveWithin_eq] at later ⊢
      rw [resolveNames_cons, if_neg asked.notStay, if_neg asked.notBack, link]
      dsimp only
      rw [new, replacement?, induction]
      exact later

/-! ## Paths without loops -/

/-- Every link that was replaced has a canonical path with a property. -/
def AllKnown (property : Path → Prop) (met : LinksMet) : Prop :=
  ∀ link found, (link, some found) ∈ met → property found

/--
A property of canonical paths that is kept by going on and going back, and one
of what is written after a loop.
-/
structure Kept
    (files : FileSystem)
    (allowed : Text → Prop)
    (property loose : Path → Prop) :
    Prop where
  root : property ⟨.root, []⟩
  ascend : ∀ path, property path → property path.ascend
  child :
    ∀ path name, property path → allowed name → Asked name →
      files.linkAt (path.child name) = .ok none →
      property (path.child name)
  link :
    ∀ path target, files.linkAt path = .ok (some target) →
      ∀ name ∈ splitSlashes target, allowed name
  start :
    ∀ path name names, property path → allowed name →
      (∀ name ∈ names, allowed name) →
      loose ((path.child name).joinWritten names)
  written : ∀ path names, loose path → (∀ name ∈ names, allowed name) →
    loose (path.joinWritten names)
  base : ∀ path names, property path → (∀ name ∈ names, allowed name) →
    loose (path.joinWritten names)

/-- What is known of where leading on came. -/
def Came
    (files : FileSystem)
    (allowed : Text → Prop)
    (property loose : Path → Prop) :
    Except PathError Resolution → Prop
  | .error error =>
    ∃ path name cause, property path ∧ allowed name ∧
      files.linkAt (path.child name) = .error cause ∧
      error = .name cause
  | .ok reached =>
      AllKnown property reached.met ∧
        if reached.complete then property reached.path else loose reached.path

section

variable {files other : FileSystem} {allowed : Text → Prop}
  {property loose : Path → Prop}
variable {levels : Nat} {path : Path} {names : List Text} {met : LinksMet}
variable {result : Except PathError Resolution}

theorem Kept.linkBase
    (kept : Kept files allowed property loose)
    (holds : property path)
    (target : Text) :
    property (linkBase path target) := by
  rw [FileSystem.linkBase]
  split
  · exact kept.root
  · exact holds

theorem AllKnown.cons_none
    (all : AllKnown property met)
    (link : Path) :
    AllKnown property ((link, none) :: met) := by
  intro other found member
  rcases List.mem_cons.mp member with same | member
  · cases same
  · exact all other found member

theorem AllKnown.cons_some
    {found : Path}
    (all : AllKnown property met)
    (holds : property found)
    (link : Path) :
    AllKnown property ((link, some found) :: met) := by
  intro other known member
  rcases List.mem_cons.mp member with same | member
  · cases same
    exact holds
  · exact all other known member

/--
A property that is kept holds of what was led to without loops, and only a
question can be refused.
-/
theorem Resolves.keeps
    (resolves : Resolves files levels path names met result)
    (kept : Kept files allowed property loose)
    (holds : property path)
    (all : AllKnown property met)
    (allowedNames : ∀ name ∈ names, allowed name) :
    Came files allowed property loose result := by
  induction resolves with
  | arrived => exact ⟨all, holds⟩
  | stay here further induction =>
      exact induction holds all
        (List.forall_mem_of_forall_mem_cons allowedNames)
  | back further induction =>
      exact induction (kept.ascend _ holds) all
        (List.forall_mem_of_forall_mem_cons allowedNames)
  | refused asked none =>
      exact ⟨_, _, _, holds, allowedNames _ List.mem_cons_self, none, rfl⟩
  | enter asked noLink further induction =>
      exact induction (kept.child _ _ holds
          (allowedNames _ List.mem_cons_self) asked noLink) all
          (List.forall_mem_of_forall_mem_cons allowedNames)
  | known asked link before further induction =>
      exact induction (all _ _ (mem_of_lookup before)) all
        (List.forall_mem_of_forall_mem_cons allowedNames)
  | again =>
      exact ⟨all, kept.start _ _ _ holds (allowedNames _ List.mem_cons_self)
        (List.forall_mem_of_forall_mem_cons allowedNames)⟩
  | deep asked link =>
      exact ⟨all.cons_none _,
        kept.written _ _ (kept.base _ _ (kept.linkBase holds _)
          (kept.link _ _ link))
          (List.forall_mem_of_forall_mem_cons allowedNames)⟩
  | failed asked link new inner induction =>
      exact induction (kept.linkBase holds _) (all.cons_none _)
        (kept.link _ _ link)
  | halted asked link new inner induction =>
      obtain ⟨known, found⟩ :=
        induction (kept.linkBase holds _) (all.cons_none _) (kept.link _ _ link)
      exact ⟨known, kept.written _ _ found
          (List.forall_mem_of_forall_mem_cons allowedNames)⟩
  | replaced asked link new inner further induction later =>
      obtain ⟨known, found⟩ :=
        induction (kept.linkBase holds _) (all.cons_none _) (kept.link _ _ link)
      exact later found (known.cons_some found _)
        (List.forall_mem_of_forall_mem_cons allowedNames)

/-- Where the questions are answered alike, leading on goes the same way. -/
theorem Resolves.alike
    (resolves : Resolves files levels path names met result)
    (kept : Kept files allowed property loose)
    (alike :
      ∀ path name, property path → Asked name → allowed name →
        other.linkAt (path.child name) = files.linkAt (path.child name))
    (holds : property path)
    (all : AllKnown property met)
    (allowedNames : ∀ name ∈ names, allowed name) :
    Resolves other levels path names met result := by
  induction resolves with
  | arrived => exact .arrived
  | stay here further induction =>
      exact .stay here
        (induction holds all (List.forall_mem_of_forall_mem_cons allowedNames))
  | back further induction =>
      exact .back
        (induction (kept.ascend _ holds) all
            (List.forall_mem_of_forall_mem_cons allowedNames))
  | refused asked none =>
      exact .refused asked
        ((alike _ _ holds asked (allowedNames _ List.mem_cons_self)).trans none)
  | enter asked noLink further induction =>
      have allowedName := allowedNames _ List.mem_cons_self
      exact .enter asked ((alike _ _ holds asked allowedName).trans noLink)
        (induction (kept.child _ _ holds allowedName asked noLink) all
          (List.forall_mem_of_forall_mem_cons allowedNames))
  | known asked link before further induction =>
      exact .known asked
        ((alike _ _ holds asked (allowedNames _ List.mem_cons_self)).trans link)
        before
        (induction (all _ _ (mem_of_lookup before)) all
            (List.forall_mem_of_forall_mem_cons allowedNames))
  | again asked link being =>
      exact .again asked
        ((alike _ _ holds asked (allowedNames _ List.mem_cons_self)).trans link)
        being
  | deep asked link new =>
      exact .deep asked
        ((alike _ _ holds asked (allowedNames _ List.mem_cons_self)).trans link)
        new
  | failed asked link new inner induction =>
      exact .failed asked
        ((alike _ _ holds asked (allowedNames _ List.mem_cons_self)).trans link)
        new
        (induction (kept.linkBase holds _) (all.cons_none _)
            (kept.link _ _ link))
  | halted asked link new inner induction =>
      exact .halted asked
        ((alike _ _ holds asked (allowedNames _ List.mem_cons_self)).trans link)
        new
        (induction (kept.linkBase holds _) (all.cons_none _)
            (kept.link _ _ link))
  | replaced asked link new inner further induction later =>
      obtain ⟨known, found⟩ :=
        inner.keeps kept (kept.linkBase holds _) (all.cons_none _)
          (kept.link _ _ link)
      exact .replaced asked
        ((alike _ _ holds asked (allowedNames _ List.mem_cons_self)).trans link)
        new
        (induction (kept.linkBase holds _) (all.cons_none _)
            (kept.link _ _ link))
        (later found (known.cons_some found _)
            (List.forall_mem_of_forall_mem_cons allowedNames))

end

/-! ## Texts that the system has -/

/-- Links and the work directory are named as the system names them. -/
structure Nameable (files : FileSystem) : Prop where
  links : ∀ place target, files.get? place = some (.link target) →
    target.Nameable
  workDirectory : ∀ place, files.workDirectory = .present place →
    ∀ name ∈ place, name.Nameable

theorem mem_of_mem_splitSlashes
    {text piece : Text}
    {point : CodePoint}
    (member : piece ∈ splitSlashes text)
    (inside : point ∈ piece) :
    point ∈ text := by
  induction text generalizing piece with
  | nil =>
      rw [splitSlashes, List.mem_singleton] at member
      rw [member] at inside
      exact absurd inside List.not_mem_nil
  | cons first rest induction =>
      rw [splitSlashes] at member
      split at member
      · rcases List.mem_cons.mp member with same | member
        · rw [same] at inside
          exact absurd inside List.not_mem_nil
        · exact List.mem_cons_of_mem _ (induction member inside)
      · split at member
        · rw [List.mem_singleton] at member
          rw [member, List.mem_singleton] at inside
          exact inside ▸ List.mem_cons_self
        · rename_i head pieces split
          rcases List.mem_cons.mp member with same | member
          · rw [same] at inside
            rcases List.mem_cons.mp inside with same | inside
            · exact same ▸ List.mem_cons_self
            · exact List.mem_cons_of_mem _
                (induction (split ▸ List.mem_cons_self) inside)
          · exact List.mem_cons_of_mem _
              (induction (split ▸ List.mem_cons_of_mem _ member) inside)

/-- The pieces of a text that the system takes are taken. -/
theorem nameable_splitSlashes
    {text : Text}
    (nameable : text.Nameable) :
    ∀ piece ∈ splitSlashes text, piece.Nameable :=
  fun _ member point inside =>
    nameable point (mem_of_mem_splitSlashes member inside)

theorem speakable_ofText
    {text : Text}
    (nameable : text.Nameable) :
    Speakable (Path.ofText text) :=
  speakable_iff.mpr fun name member =>
    nameable_splitSlashes nameable name (List.mem_of_mem_filter member)

theorem Speakable.join
    {base more : Path}
    (speakableBase : Speakable base)
    (speakableMore : Speakable more) :
    Speakable (base.join more) := by
  rw [Path.join]
  split
  · exact speakableMore
  · rw [speakable_iff] at speakableBase speakableMore ⊢
    intro name member
    exact (List.mem_append.mp member).elim (speakableBase name)
      (speakableMore name)

theorem Speakable.joinWritten
    {path : Path}
    {names : List Text}
    (speakable : Speakable path)
    (nameable : ∀ name ∈ names, name.Nameable) :
    Speakable (path.joinWritten names) :=
  speakable.join (speakable_ofText (Text.nameable_intercalate.mpr nameable))

theorem speakable_child_iff
    {path : Path}
    {name : Text} :
    Speakable (path.child name) ↔ Speakable path ∧ name.Nameable := by
  rw [speakable_iff, speakable_iff]
  simp [Path.child, or_imp, forall_and]

theorem Speakable.parent
    {path : Path}
    (speakable : Speakable path) :
    Speakable path.parent :=
  speakable_iff.mpr fun name member =>
    speakable_iff.mp speakable name (List.dropLast_subset _ member)

theorem Speakable.ascend
    {path : Path}
    (speakable : Speakable path) :
    Speakable path.ascend := by
  have back : (Text.ofString "..").Nameable := by decide
  rw [Path.ascend]
  split
  · split
    · exact speakable
    · exact speakable_child_iff.mpr ⟨speakable, back⟩
  · split
    · exact speakable_child_iff.mpr ⟨speakable, back⟩
    · exact speakable.parent

/-- Normalizing a path adds no names. -/
theorem mem_of_mem_foldNames
    {absolute : Bool}
    {names : List Text}
    {name : Text}
    (member : name ∈ Path.foldNames absolute names) :
    name ∈ names ∨ name = ".." := by
  rw [Path.foldNames, List.mem_reverse] at member
  refine List.foldlRecOn names _ (motive := fun kept => ∀ next ∈ kept,
    next ∈ names ∨ next = "..")
      (fun other none => absurd none List.not_mem_nil) ?_ name member
  intro kept known other there next member
  split at member
  · rcases List.mem_cons.mp member with same | member
    · exact Or.inl (same ▸ there)
    · exact known next member
  · split at member
    · split at member
      · exact absurd member List.not_mem_nil
      · exact Or.inr (List.mem_singleton.mp member)
    · split at member
      · rcases List.mem_cons.mp member with same | member
        · exact Or.inr same
        · exact known next member
      · exact known next (List.mem_cons_of_mem _ member)

theorem Speakable.normalize
    {path : Path}
    (speakable : Speakable path) :
    Speakable path.normalize := by
  rw [speakable_iff] at speakable ⊢
  intro name member
  rcases mem_of_mem_foldNames member with there | back
  · exact speakable name there
  · rw [back]
    decide

theorem linkAt_eq_error_iff
    {files : FileSystem}
    {path : Path}
    {cause : NameError} :
    files.linkAt path = .error cause ↔ Unspeakable path cause := by
  rw [← @locate_eq_name_iff files path false, linkAt, linkTarget?]
  cases files.locate path false with
  | error error => cases error <;> simp
  | ok spot =>
      obtain ⟨place, entry⟩ := spot
      rcases entry with _ | _ | _ | _ <;> simp

theorem linkAt_eq_some
    {files : FileSystem}
    {path : Path}
    {target : Text}
    (link : files.linkAt path = .ok (some target)) :
    ∃ place, files.locate path false = .ok ⟨place, some (.link target)⟩ := by
  rw [linkAt, linkTarget?] at link
  cases found : files.locate path false with
  | error error =>
      rw [found] at link
      cases error <;> cases link
  | ok spot =>
      obtain ⟨place, entry⟩ := spot
      rw [found] at link
      rcases entry with _ | _ | _ | _ <;> cases link
      exact ⟨place, rfl⟩

/--
The path from the root is taken if the path is, in a work directory that the
system has.
-/
theorem speakable_of_fromRoot?
    {files : FileSystem}
    {path whole : Path}
    (named :
      ∀ place, files.workDirectory = .present place →
        ∀ name ∈ place, name.Nameable)
    (speakable : Speakable path)
    (fromRoot : files.fromRoot? path = some whole) :
    Speakable whole := by
  rw [FileSystem.fromRoot?] at fromRoot
  split at fromRoot
  · cases fromRoot
    exact speakable
  · split at fromRoot
    · rename_i place present
      cases fromRoot
      have base : Speakable ⟨.root, place⟩ :=
        speakable_iff.mpr (named place present)
      exact base.join speakable
    · cases fromRoot

/--
What names are led to is a path that the system takes, if they are and the files
are such.
-/
theorem Nameable.kept
    {files : FileSystem}
    (nameable : files.Nameable) :
    Kept files Text.Nameable Speakable Speakable where
  root := speakable_of_no_names .root
  ascend _ speakable := speakable.ascend
  child _ _ speakable allowed _ _ :=
    speakable_child_iff.mpr ⟨speakable, allowed⟩
  link path target link := by
    obtain ⟨place, found⟩ := linkAt_eq_some link
    have there := get?_of_locate (by simp) found
    exact nameable_splitSlashes (nameable.links place target there)
  start _ _ _ speakable allowed names :=
    (speakable_child_iff.mpr ⟨speakable, allowed⟩).joinWritten names
  written _ _ speakable names := speakable.joinWritten names
  base _ _ speakable names := speakable.joinWritten names

/-! ## Canonical paths -/

/-- The start from which a path is led on. -/
def canonicalStart (path : Path) : Path :=
  if path.isAbsolute then ⟨.root, []⟩ else ⟨.relative, []⟩

theorem resolve_eq
    (files : FileSystem)
    (path : Path) :
    files.resolve path =
      match files.resolveWithin resolveLevels
        (canonicalStart path) path.names [] with
      | .error error => .error error
      | .ok reached =>
        match files.fromRoot? reached.path with
        | none => .error .workDirectoryGone
        | some whole =>
          match files.status whole.normalize with
          | .error .linkLoop => .error (.linkLoop whole.normalize.toText)
          | .error (.name error) => .error (.name error)
          | _ => .ok whole.normalize :=
  rfl

/--
A path that the system takes has a canonical path or is in a loop, or its start
was taken away.
-/
theorem Nameable.resolve_ne_name
    {files : FileSystem}
    {path : Path}
    (nameable : files.Nameable)
    (speakable : Speakable path)
    (cause : NameError) :
    files.resolve path ≠ .error (.name cause) := by
  have start : Speakable (canonicalStart path) := by
    rw [canonicalStart]
    split <;> exact speakable_of_no_names _
  have came :=
    (resolves_resolveWithin files resolveLevels
        (canonicalStart path) path.names []).keeps
        nameable.kept start (fun _ _ none => absurd none List.not_mem_nil)
          (speakable_iff.mp speakable)
  intro refused
  rw [resolve_eq] at refused
  split at refused
  · rename_i error resolved
    rw [resolved] at came
    obtain ⟨before, name, other, spoken, named, asked, -⟩ := came
    exact (linkAt_eq_error_iff.mp asked).not_speakable
      (speakable_child_iff.mpr ⟨spoken, named⟩)
  · rename_i reached resolved
    rw [resolved] at came
    have reachable : Speakable reached.path := by
      have end_ := came.2
      split at end_ <;> exact end_
    split at refused
    · cases refused
    · rename_i whole fromRoot
      have normal :=
        (speakable_of_fromRoot? nameable.workDirectory reachable
            fromRoot).normalize
      split at refused
      · cases refused
      · rename_i other status
        exact (status_eq_name_iff.mp status).not_speakable normal
      · cases refused

theorem isAbsolute_fromRoot?
    {files : FileSystem}
    {path whole : Path}
    (fromRoot : files.fromRoot? path = some whole) :
    whole.isAbsolute = true := by
  rw [fromRoot?] at fromRoot
  split at fromRoot
  · rename_i absolute
    cases fromRoot
    exact absolute
  · rename_i relative
    split at fromRoot
    · cases fromRoot
      rw [Path.join, if_neg relative]
      rfl
    · cases fromRoot

theorem fromRoot?_eq_none
    {files : FileSystem}
    {path : Path}
    (lost : files.fromRoot? path = none) :
    path.isAbsolute = false ∧
      ∃ place, files.workDirectory = .removed place := by
  rw [fromRoot?] at lost
  split at lost
  · cases lost
  · rename_i relative
    split at lost
    · cases lost
    · rename_i place removed
      exact ⟨Bool.eq_false_iff.mpr relative, place, removed⟩

theorem isAbsolute_resolve
    {files : FileSystem}
    {path found : Path}
    (resolved : files.resolve path = .ok found) :
    found.isAbsolute = true := by
  rw [resolve_eq] at resolved
  split at resolved
  · cases resolved
  · split at resolved
    · cases resolved
    · rename_i whole fromRoot
      split at resolved
      · cases resolved
      · cases resolved
      · cases resolved
        have absolute : whole.isAbsolute = true := isAbsolute_fromRoot? fromRoot
        exact absolute

/-- A path is absolute once it is made so. -/
theorem isAbsolute_absolutePath
    {files : FileSystem}
    {path found : Path}
    (made : files.absolutePath path = .ok found) :
    found.isAbsolute = true := by
  rw [absolutePath] at made
  split at made
  · rename_i canonical resolved
    cases made
    exact isAbsolute_resolve resolved
  · cases made
  · split at made
    · cases made
    · rename_i whole fromRoot
      cases made
      exact isAbsolute_fromRoot? fromRoot

end FileSystem

end SettingsStore
