import SettingsStore.Files.Walk
import SettingsStore.Proofs.Lookup

/-!
# What following a path depends on

`Walks` lists the ways in which following names can go, one constructor for
each; a walk is the one way that the entries on it allow.  From it come the
facts that later modules use: a walk that ends at an entry stays what it is when
entries are added, a walk to a free place leads to whatever is put there, and
the way to a directory is the beginning of every way through it.
-/

namespace SettingsStore

namespace FileSystem

/--
A name that is looked up in a directory, and not one by which a path stays where
it is or goes back.
-/
structure Plain (name : Text) : Prop where
  notHere : name ≠ "."
  notBack : name ≠ ".."
  short : octetCount name ≤ nameLimit

/-- A directory stands at a place. -/
def HasDirectory (files : FileSystem) (place : Place) : Prop :=
  ∃ mode, files.get? place = some (.directory mode)

/-- What stands somewhere is no link. -/
def NoLink (entry : Option Entry) : Prop :=
  ∀ target, entry ≠ some (.link target)

/-- The place from which a link in a directory leads on. -/
def linkStart (place : Place) (target : Text) : Place :=
  if (linkNames target).1 then [] else place

/--
The ways in which following names from a place through a number of links can go.
-/
inductive Walks (files : FileSystem) (followLast : Bool) :
    Nat → Place → List Text → Except FileError Spot → Prop where
  | arrived {links : Nat} {place : Place} :
      Walks files followLast links place [] (.ok ⟨place, files.get? place⟩)
  | missing {links : Nat} {place : Place} {name : Text} {rest : List Text}
      (nothing : files.get? place = none) :
      Walks files followLast links place (name :: rest) (.error .noEntry)
  | blocked {links : Nat} {place : Place} {name : Text} {rest : List Text}
    {entry : Entry}
      (here : files.get? place = some entry)
      (noDirectory : ∀ mode, entry ≠ .directory mode) :
      Walks files followLast links place (name :: rest) (.error .notDirectory)
  | stay {links : Nat} {place : Place} {rest : List Text}
    {result : Except FileError Spot}
      (here : files.HasDirectory place)
      (further : Walks files followLast links place rest result) :
      Walks files followLast links place ("." :: rest) result
  | back {links : Nat} {place : Place} {rest : List Text}
    {result : Except FileError Spot}
      (here : files.HasDirectory place)
      (further : Walks files followLast links place.dropLast rest result) :
      Walks files followLast links place (".." :: rest) result
  | long {links : Nat} {place : Place} {name : Text} {rest : List Text}
      (here : files.HasDirectory place)
      (notHere : name ≠ ".")
      (notBack : name ≠ "..")
      (tooLong : nameLimit < octetCount name) :
      Walks files followLast links place (name :: rest) (.error .nameTooLong)
  | absent {links : Nat} {place : Place} {name : Text}
      (here : files.HasDirectory place)
      (plain : Plain name)
      (nothing : files.get? (place ++ [name]) = none) :
      Walks files followLast links place [name] (.ok ⟨place ++ [name], none⟩)
  | lost {links : Nat} {place : Place} {name : Text} {rest : List Text}
      (here : files.HasDirectory place)
      (plain : Plain name)
      (nothing : files.get? (place ++ [name]) = none)
      (more : rest ≠ []) :
      Walks files followLast links place (name :: rest) (.error .noEntry)
  | linkItself {links : Nat} {place : Place} {name target : Text}
      (here : files.HasDirectory place)
      (plain : Plain name)
      (there : files.get? (place ++ [name]) = some (.link target))
      (leave : followLast = false) :
      Walks files followLast links place [name]
        (.ok ⟨place ++ [name], some (.link target)⟩)
  | loop {place : Place} {name : Text} {rest : List Text} {target : Text}
      (here : files.HasDirectory place)
      (plain : Plain name)
      (there : files.get? (place ++ [name]) = some (.link target))
      (follow : rest ≠ [] ∨ followLast = true) :
      Walks files followLast 0 place (name :: rest) (.error .linkLoop)
  | through {links : Nat} {place : Place} {name : Text} {rest : List Text}
    {target : Text}
      {result : Except FileError Spot}
      (here : files.HasDirectory place)
      (plain : Plain name)
      (there : files.get? (place ++ [name]) = some (.link target))
      (follow : rest ≠ [] ∨ followLast = true)
      (further :
        Walks files followLast links (linkStart place target)
          ((linkNames target).2 ++ rest) result) :
      Walks files followLast (links + 1) place (name :: rest) result
  | enter {links : Nat} {place : Place} {name : Text} {rest : List Text}
    {entry : Entry}
      {result : Except FileError Spot}
      (here : files.HasDirectory place)
      (plain : Plain name)
      (there : files.get? (place ++ [name]) = some entry)
      (noLink : NoLink (some entry))
      (further : Walks files followLast links (place ++ [name]) rest result) :
      Walks files followLast links place (name :: rest) result

/-- One round of following names, whatever is done at a link. -/
theorem walkNames_cons
    (files : FileSystem)
    (followLast : Bool)
    (atLink : Place → List Text → Except FileError Spot)
    (place : Place)
    (name : Text)
    (rest : List Text) :
    files.walkNames followLast atLink place (name :: rest) =
      match files.get? place with
      | none => .error .noEntry
      | some (.directory _) =>
        if name = "." then files.walkNames followLast atLink place rest
        else if name = ".." then
          files.walkNames followLast atLink place.dropLast rest
        else if nameLimit < octetCount name then .error .nameTooLong
        else
          match files.get? (place ++ [name]) with
          | none =>
              if rest.isEmpty then
                .ok ⟨place ++ [name], none⟩
              else .error .noEntry
          | some (.link target) =>
            if rest.isEmpty && !followLast then
              .ok ⟨place ++ [name], some (.link target)⟩
            else atLink (linkStart place target) ((linkNames target).2 ++ rest)
          | some _ => files.walkNames followLast atLink (place ++ [name]) rest
      | some _ => .error .notDirectory := by
  rw [walkNames]
  rfl

/-- Following names goes one of the ways, if what is done at a link does. -/
theorem walks_walkNames
    {files : FileSystem}
    {followLast : Bool}
    {links : Nat}
    {atLink : Place → List Text → Except FileError Spot}
    (onLink :
      ∀ place name rest target,
        files.HasDirectory place → Plain name →
        files.get? (place ++ [name]) = some (.link target) →
        (rest ≠ [] ∨ followLast = true) →
        Walks files followLast links place (name :: rest)
          (atLink (linkStart place target) ((linkNames target).2 ++ rest)))
    (place : Place)
    (names : List Text) :
    Walks files followLast links place names
      (files.walkNames followLast atLink place names) := by
  induction names generalizing place with
  | nil => exact .arrived
  | cons name rest induction =>
      rw [walkNames_cons]
      cases found : files.get? place with
      | none => exact .missing found
      | some entry =>
          cases entry with
          | file content mode => exact .blocked found (by simp)
          | link target => exact .blocked found (by simp)
          | directory mode =>
              have here : files.HasDirectory place := ⟨mode, found⟩
              by_cases isHere : name = "."
              · subst isHere
                simpa using Walks.stay here (induction place)
              by_cases isBack : name = ".."
              · subst isBack
                simpa [isHere] using Walks.back here (induction place.dropLast)
              by_cases tooLong : nameLimit < octetCount name
              · simpa [isHere, isBack, tooLong]
                  using Walks.long here isHere isBack tooLong
              have plain : Plain name := ⟨isHere, isBack, by omega⟩
              simp only [isHere, isBack, tooLong, if_false]
              cases there : files.get? (place ++ [name]) with
              | none =>
                  cases rest with
                  | nil => exact .absent here plain there
                  | cons next rest => exact .lost here plain there (by simp)
              | some entry =>
                  cases entry with
                  | file content mode =>
                      exact .enter here plain there (by simp [NoLink])
                        (induction _)
                  | directory mode =>
                      exact .enter here plain there (by simp [NoLink])
                        (induction _)
                  | link target =>
                      by_cases leave : rest = [] ∧ followLast = false
                      · obtain ⟨rfl, rfl⟩ := leave
                        exact .linkItself here plain there rfl
                      · have follow : rest ≠ [] ∨ followLast = true := by
                          cases rest <;> simp_all
                        have unfolded :
                            (rest.isEmpty && !followLast) = false := by
                          cases rest <;> simp_all
                        simpa [unfolded]
                          using onLink place name rest target here plain
                          there follow

/-- A walk goes one of the ways. -/
theorem walks_walk
    (files : FileSystem)
    (followLast : Bool)
    (links : Nat)
    (place : Place)
    (names : List Text) :
    Walks files followLast links place names
      (files.walk followLast links place names) := by
  induction links generalizing place names with
  | zero => exact walks_walkNames (fun _ _ _ _ here plain there follow =>
      .loop here plain there follow) place names
  | succ links induction =>
      exact walks_walkNames (fun _ _ _ _ here plain there follow =>
      .through here plain there follow (induction _ _)) place names

theorem walk_nil
    (files : FileSystem)
    (followLast : Bool)
    (links : Nat)
    (place : Place) :
    files.walk followLast links place [] = .ok ⟨place, files.get? place⟩ := by
  cases links <;> rfl

/-- One round of a walk. -/
theorem walk_cons
    (files : FileSystem)
    (followLast : Bool)
    (links : Nat)
    (place : Place)
    (name : Text)
    (rest : List Text) :
    files.walk followLast links place (name :: rest) =
      match files.get? place with
      | none => .error .noEntry
      | some (.directory _) =>
        if name = "." then files.walk followLast links place rest
        else if name = ".." then files.walk followLast links place.dropLast rest
        else if nameLimit < octetCount name then .error .nameTooLong
        else
          match files.get? (place ++ [name]) with
          | none =>
              if rest.isEmpty then
                .ok ⟨place ++ [name], none⟩
              else .error .noEntry
          | some (.link target) =>
            if rest.isEmpty && !followLast then
              .ok ⟨place ++ [name], some (.link target)⟩
            else
              match links with
              | 0 => .error .linkLoop
              | links + 1 =>
                files.walk followLast links (linkStart place target)
                  ((linkNames target).2 ++ rest)
          | some _ => files.walk followLast links (place ++ [name]) rest
      | some _ => .error .notDirectory := by
  cases links <;> exact walkNames_cons files followLast _ place name rest

theorem dots_ne : (".." : Text) ≠ ("." : Text) := by
  decide

/--
What a walk makes of a plain name in a directory is decided by what stands
there.
-/
theorem walk_plain
    {files : FileSystem}
    {place : Place}
    {name : Text}
    (here : files.HasDirectory place)
    (plain : Plain name)
    (followLast : Bool)
    (links : Nat)
    (rest : List Text) :
    files.walk followLast links place (name :: rest) =
      match files.get? (place ++ [name]) with
      | none =>
          if rest.isEmpty then .ok ⟨place ++ [name], none⟩ else .error .noEntry
      | some (.link target) =>
        if rest.isEmpty && !followLast then
          .ok ⟨place ++ [name], some (.link target)⟩
        else
          match links with
          | 0 => .error .linkLoop
          | links + 1 =>
            files.walk followLast links (linkStart place target)
              ((linkNames target).2 ++ rest)
      | some _ => files.walk followLast links (place ++ [name]) rest := by
  obtain ⟨mode, here⟩ := here
  rw [walk_cons, here]
  simp only [plain.notHere, plain.notBack, if_false,
    Nat.not_lt_of_le plain.short]

/-- A link at the end is left alone only if that is asked for. -/
theorem isEmpty_and_not_eq_false
    {rest : List Text}
    {followLast : Bool}
    (follow : rest ≠ [] ∨ followLast = true) :
    (rest.isEmpty && !followLast) = false := by
  rcases follow with more | follow
  · simp [more]
  · simp [follow]

/-- There is only one way for a walk to go. -/
theorem Walks.eq_walk
    {files : FileSystem}
    {followLast : Bool}
    {links : Nat}
    {place : Place}
    {names : List Text}
    {result : Except FileError Spot}
    (walks : Walks files followLast links place names result) :
    files.walk followLast links place names = result := by
  induction walks with
  | arrived => exact walk_nil files followLast _ _
  | missing nothing => simp [walk_cons, nothing]
  | @blocked _ _ _ _ entry here noDirectory =>
      cases entry with
      | directory mode => exact absurd rfl (noDirectory mode)
      | file content mode => simp [walk_cons, here]
      | link target => simp [walk_cons, here]
  | stay here _ induction =>
      obtain ⟨mode, here⟩ := here
      simp [walk_cons, here, induction]
  | back here _ induction =>
      obtain ⟨mode, here⟩ := here
      simp [walk_cons, here, induction, dots_ne]
  | long here notHere notBack tooLong =>
      obtain ⟨mode, here⟩ := here
      simp [walk_cons, here, notHere, notBack, tooLong]
  | absent here plain nothing => simp [walk_plain here plain, nothing]
  | lost here plain nothing more => simp [walk_plain here plain, nothing, more]
  | linkItself here plain there leave =>
      simp [walk_plain here plain, there, leave]
  | loop here plain there follow =>
      simp [walk_plain here plain, there, isEmpty_and_not_eq_false follow]
  | through here plain there follow _ induction =>
      simp [walk_plain here plain, there,
        isEmpty_and_not_eq_false follow, induction]
  | @enter _ _ _ _ entry _ here plain there noLink _ induction =>
      cases entry with
      | link target => exact absurd rfl (noLink target)
      | file content mode => simp [walk_plain here plain, there, induction]
      | directory mode => simp [walk_plain here plain, there, induction]

/-- A walk has a result if and only if it goes one of the ways to it. -/
theorem walk_eq_iff
    {files : FileSystem}
    {followLast : Bool}
    {links : Nat}
    {place : Place}
    {names : List Text}
    {result : Except FileError Spot} :
    files.walk followLast links place names = result ↔
      Walks files followLast links place names result := by
  constructor
  · rintro rfl
    exact walks_walk files followLast links place names
  · exact Walks.eq_walk

/-! ## Where a walk ends -/

/-- What a walk says stands at its end does stand there. -/
theorem Walks.entry_eq
    {files : FileSystem}
    {followLast : Bool}
    {links : Nat}
    {place : Place}
    {names : List Text}
    {result : Except FileError Spot}
    {spot : Spot}
    (walks : Walks files followLast links place names result)
    (found : result = .ok spot) :
    spot.entry = files.get? spot.place := by
  induction walks with
  | arrived =>
      cases found
      rfl
  | absent _ _ nothing =>
      cases found
      exact nothing.symm
  | linkItself _ _ there _ =>
      cases found
      exact there.symm
  | stay _ _ induction => exact induction found
  | back _ _ induction => exact induction found
  | through _ _ _ _ _ induction => exact induction found
  | enter _ _ _ _ _ induction => exact induction found
  | missing | blocked | long | lost | loop => cases found

/--
A walk to what is no link is the same whether links at the end are followed or
not.
-/
theorem Walks.followed
    {files : FileSystem}
    {followLast : Bool}
    {links : Nat}
    {place : Place}
    {names : List Text}
    {result : Except FileError Spot}
    {spot : Spot}
    (walks : Walks files followLast links place names result)
    (found : result = .ok spot)
    (noLink : NoLink spot.entry) :
    Walks files true links place names result := by
  induction walks with
  | arrived => exact .arrived
  | absent here plain nothing => exact .absent here plain nothing
  | @linkItself _ _ _ target _ _ _ _ =>
      cases found
      exact absurd rfl (noLink target)
  | stay here _ induction => exact .stay here (induction found)
  | back here _ induction => exact .back here (induction found)
  | through here plain there _ _ induction =>
      exact .through here plain there (Or.inr rfl) (induction found)
  | enter here plain there noLink _ induction =>
      exact .enter here plain there noLink (induction found)
  | missing | blocked | long | lost | loop => cases found

/-- That a walk loses its way has nothing to do with the link at its end. -/
theorem Walks.lost_otherwise
    {files : FileSystem}
    {followLast : Bool}
    {links : Nat}
    {place : Place}
    {names : List Text}
    {result : Except FileError Spot}
    (walks : Walks files followLast links place names result)
    (nowhere : result = .error .noEntry) :
    Walks files true links place names result := by
  induction walks with
  | missing nothing => exact .missing nothing
  | lost here plain nothing more => exact .lost here plain nothing more
  | stay here _ induction => exact .stay here (induction nowhere)
  | back here _ induction => exact .back here (induction nowhere)
  | through here plain there _ _ induction =>
      exact .through here plain there (Or.inr rfl) (induction nowhere)
  | enter here plain there noLink _ induction =>
      exact .enter here plain there noLink (induction nowhere)
  | arrived | blocked | long | absent | linkItself | loop => cases nowhere

/--
A walk that leaves the link at its end alone ends at a place of the last name.
-/
theorem Walks.getLast?_place
    {files : FileSystem}
    {links : Nat}
    {place : Place}
    {all names : List Text}
    {name : Text}
    {result : Except FileError Spot}
    {spot : Spot}
    (walks : Walks files false links place all result)
    (ending : all = names ++ [name])
    (notHere : name ≠ ".")
    (notBack : name ≠ "..")
    (found : result = .ok spot) :
    spot.place.getLast? = some name := by
  induction walks generalizing names with
  | arrived => simp at ending
  | absent _ _ _ =>
      cases found
      cases names with
      | nil => simp_all
      | cons first names => simp at ending
  | linkItself _ _ _ _ =>
      cases found
      cases names with
      | nil => simp_all
      | cons first names => simp at ending
  | stay _ _ induction =>
      cases names with
      | nil =>
          simp only [List.nil_append, List.cons.injEq] at ending
          exact absurd ending.1.symm notHere
      | cons first names => exact induction (List.cons.inj ending).2 found
  | back _ _ induction =>
      cases names with
      | nil =>
          simp only [List.nil_append, List.cons.injEq] at ending
          exact absurd ending.1.symm notBack
      | cons first names => exact induction (List.cons.inj ending).2 found
  | @through _ _ _ rest target _ _ _ _ follow _ induction =>
      cases names with
      | nil =>
          simp only [List.nil_append, List.cons.injEq] at ending
          simp [ending.2] at follow
      | cons first names =>
          refine @induction ((linkNames target).2 ++ names) ?_ found
          have remaining : rest = names ++ [name] := (List.cons.inj ending).2
          rw [remaining, List.append_assoc]
  | enter _ _ _ _ further induction =>
      cases names with
      | nil =>
          simp only [List.nil_append, List.cons.injEq] at ending
          obtain ⟨rfl, rfl⟩ := ending
          cases further
          cases found
          simp
      | cons first names => exact induction (List.cons.inj ending).2 found
  | missing | blocked | long | lost | loop => cases found

/--
In an empty directory the only name that leads to something is the one that
stays there.
-/
theorem Walks.place_eq_of_empty
    {files : FileSystem}
    {followLast : Bool}
    {links : Nat}
    {place goal : Place}
    {name : Text}
    {entry : Entry}
    (walks : Walks files followLast links place [name] (.ok ⟨goal, some entry⟩))
    (empty : ∀ name, files.get? (place ++ [name]) = none)
    (notBack : name ≠ "..") :
    goal = place := by
  cases walks with
  | stay _ further =>
      have stayed := further.eq_walk
      rw [walk_nil] at stayed
      exact (congrArg Spot.place (Except.ok.inj stayed)).symm
  | back => exact absurd rfl notBack
  | linkItself _ _ held =>
      rw [empty] at held
      cases held
  | through _ _ held =>
      rw [empty] at held
      cases held
  | enter _ _ held =>
      rw [empty] at held
      cases held

theorem Walks.not_of_file
    {files : FileSystem}
    {followLast : Bool}
    {links : Nat}
    {place goal : Place}
    {names : List Text}
    {content : ByteArray}
    {fileMode mode : Nat}
    (file : files.get? place = some (.file content fileMode)) :
    ¬ Walks files followLast links place names
      (.ok ⟨goal, some (.directory mode)⟩) := by
  intro walks
  have noDirectory : ¬ files.HasDirectory place := by
    rintro ⟨mode, here⟩
    rw [file] at here
    cases here
  generalize found :
    (.ok ⟨goal, some (.directory mode)⟩ : Except FileError Spot) =
    result at walks
  cases walks with
  | arrived => simp [file] at found
  | stay here _ | back here _ | absent here _ _ | linkItself here _ _ _
  | through here _ _ _ _
  | enter here _ _ _ _ => exact noDirectory here
  | missing | blocked | long | lost | loop => cases found

/-- A walk to a directory does not notice what becomes of a file. -/
theorem Walks.without_file
    {before after : FileSystem}
    {followLast : Bool}
    {links : Nat}
    {place goal file : Place}
    {names : List Text}
    {content : ByteArray}
    {fileMode mode : Nat}
    {result : Except FileError Spot}
    (walks : Walks before followLast links place names result)
    (there : before.get? file = some (.file content fileMode))
    (same : ∀ place, place ≠ file → after.get? place = before.get? place)
    (found : result = .ok ⟨goal, some (.directory mode)⟩) :
    Walks after followLast links place names result := by
  have kept :
      ∀ {place : Place} {entry : Entry}, before.get? place = some entry →
        entry ≠ .file content fileMode → after.get? place = some entry := by
    intro place entry held other
    rw [same place ?_, held]
    rintro rfl
    rw [there] at held
    exact other (Option.some.inj held).symm
  have directories :
      ∀ {place : Place}, before.HasDirectory place →
        after.HasDirectory place := by
    rintro place ⟨mode, here⟩
    exact ⟨mode, kept here (by simp)⟩
  induction walks with
  | @arrived _ place =>
      simp only [Except.ok.injEq, Spot.mk.injEq] at found
      rw [found.2, ← kept found.2 (by simp)]
      exact .arrived
  | linkItself => cases found
  | stay here _ induction => exact .stay (directories here) (induction found)
  | back here _ induction => exact .back (directories here) (induction found)
  | through here plain held follow _ induction =>
      exact .through (directories here) plain (kept held (by simp)) follow
        (induction found)
  | @enter _ place name _ entry _ here plain held noLink further induction =>
      refine .enter (directories here) plain (kept held ?_) noLink
        (induction found)
      rintro rfl
      rw [found] at further
      exact further.not_of_file held
  | absent => cases found
  | missing | blocked | long | lost | loop => cases found

/-! ## Adding entries -/

/-- Every entry of a file system is one of another one too. -/
structure Extends (before after : FileSystem) : Prop where
  kept : ∀ place entry, before.get? place = some entry →
    after.get? place = some entry
  workDirectory : after.workDirectory = before.workDirectory

theorem Extends.refl (files : FileSystem) : Extends files files :=
  ⟨fun _ _ found => found, rfl⟩

theorem Extends.trans
    {first second third : FileSystem}
    (left : Extends first second)
    (right : Extends second third) :
    Extends first third :=
  ⟨fun place entry found =>
      right.kept place entry (left.kept place entry found),
    right.workDirectory.trans left.workDirectory⟩

theorem Extends.hasDirectory
    {before after : FileSystem}
    (extends_ : Extends before after)
    {place : Place}
    (here : before.HasDirectory place) :
    after.HasDirectory place := by
  obtain ⟨mode, here⟩ := here
  exact ⟨mode, extends_.kept place _ here⟩

/-- A walk to an entry goes on to lead there when entries are added. -/
theorem Walks.extend
    {before after : FileSystem}
    (extends_ : Extends before after)
    {followLast : Bool}
    {links : Nat}
    {place goal : Place}
    {names : List Text}
    {entry : Entry}
    {result : Except FileError Spot}
    (walks : Walks before followLast links place names result)
    (found : result = .ok ⟨goal, some entry⟩) :
    Walks after followLast links place names result := by
  induction walks with
  | @arrived _ place =>
      simp only [Except.ok.injEq, Spot.mk.injEq] at found
      rw [found.2, ← extends_.kept place entry found.2]
      exact .arrived
  | linkItself here plain there leave =>
      exact .linkItself (extends_.hasDirectory here) plain
        (extends_.kept _ _ there) leave
  | stay here _ induction =>
      exact .stay (extends_.hasDirectory here) (induction found)
  | back here _ induction =>
      exact .back (extends_.hasDirectory here) (induction found)
  | through here plain there follow _ induction =>
      exact .through (extends_.hasDirectory here) plain
        (extends_.kept _ _ there) follow
        (induction found)
  | enter here plain there noLink _ induction =>
      exact .enter (extends_.hasDirectory here) plain
        (extends_.kept _ _ there) noLink
        (induction found)
  | absent => cases found
  | missing | blocked | long | lost | loop => cases found

/--
A walk to a free place leads to what is put there, be that followed or not.
-/
theorem Walks.fill
    {before after : FileSystem}
    (extends_ : Extends before after)
    {links : Nat}
    {place goal : Place}
    {names : List Text}
    {entry : Entry}
    {result : Except FileError Spot}
    (there : after.get? goal = some entry)
    (noLink : NoLink (some entry))
    (walks : Walks before false links place names result)
    (found : result = .ok ⟨goal, none⟩)
    (followLast : Bool) :
    Walks after followLast links place names (.ok ⟨goal, some entry⟩) := by
  induction walks with
  | arrived =>
      simp only [Except.ok.injEq, Spot.mk.injEq] at found
      rw [found.1, ← there]
      exact .arrived
  | absent here plain _ =>
      cases found
      refine .enter (extends_.hasDirectory here) plain there noLink ?_
      rw [← there]
      exact .arrived
  | stay here _ induction =>
      exact .stay (extends_.hasDirectory here) (induction found)
  | back here _ induction =>
      exact .back (extends_.hasDirectory here) (induction found)
  | through here plain held follow _ induction =>
      have more := follow.resolve_right (by simp)
      exact .through (extends_.hasDirectory here) plain (extends_.kept _ _ held)
        (Or.inl more)
        (induction found)
  | enter here plain held noLink _ induction =>
      exact .enter (extends_.hasDirectory here) plain
        (extends_.kept _ _ held) noLink
        (induction found)
  | linkItself => cases found
  | missing | blocked | long | lost | loop => cases found

/-! ## Going on -/

/--
The way to a directory begins every way through it, and goes on there with the
links that are left, also after entries were added.
-/
theorem Walks.append
    {before : FileSystem}
    {followLast : Bool}
    {links : Nat}
    {place goal : Place}
    {names : List Text}
    {mode : Nat}
    {result : Except FileError Spot}
    (walks : Walks before followLast links place names result)
    (found : result = .ok ⟨goal, some (.directory mode)⟩) :
    ∃ left, ∀ (after : FileSystem) (followLast : Bool) (rest : List Text),
      Extends before after → rest ≠ [] →
        after.walk followLast links place (names ++ rest) =
          after.walk followLast left goal rest := by
  induction walks with
  | @arrived links place =>
      simp only [Except.ok.injEq, Spot.mk.injEq] at found
      exact ⟨links, fun _ _ _ _ _ => by rw [found.1, List.nil_append]⟩
  | stay here _ induction =>
      obtain ⟨left, onward⟩ := induction found
      refine ⟨left, fun after followLast rest extends_ more => ?_⟩
      rw [← onward after followLast rest extends_ more]
      exact (Walks.stay (extends_.hasDirectory here)
          (walks_walk after followLast _ _ _)).eq_walk
  | back here _ induction =>
      obtain ⟨left, onward⟩ := induction found
      refine ⟨left, fun after followLast rest extends_ more => ?_⟩
      rw [← onward after followLast rest extends_ more]
      exact (Walks.back (extends_.hasDirectory here)
          (walks_walk after followLast _ _ _)).eq_walk
  | through here plain there _ _ induction =>
      obtain ⟨left, onward⟩ := induction found
      refine ⟨left, fun after followLast rest extends_ more => ?_⟩
      rw [← onward after followLast rest extends_ more, List.append_assoc]
      exact (Walks.through (extends_.hasDirectory here) plain
          (extends_.kept _ _ there)
          (Or.inl (by simp [more])) (walks_walk after followLast _ _ _)).eq_walk
  | enter here plain there noLink _ induction =>
      obtain ⟨left, onward⟩ := induction found
      refine ⟨left, fun after followLast rest extends_ more => ?_⟩
      rw [← onward after followLast rest extends_ more]
      exact (Walks.enter (extends_.hasDirectory here) plain
          (extends_.kept _ _ there) noLink
          (walks_walk after followLast _ _ _)).eq_walk
  | absent | linkItself => cases found
  | missing | blocked | long | lost | loop => cases found

/--
A walk that arrives has come through a directory before each of its names.
-/
theorem Walks.beginning
    {files : FileSystem}
    {followLast : Bool}
    {links : Nat}
    {place : Place}
    {all names rest : List Text}
    {result : Except FileError Spot}
    {spot : Spot}
    (walks : Walks files followLast links place all result)
    (parts : all = names ++ rest)
    (more : rest ≠ [])
    (found : result = .ok spot) :
    ∃ goal mode, Walks files true links place names
      (.ok ⟨goal, some (.directory mode)⟩) := by
  have arrived : ∀ {links : Nat} {place : Place}, files.HasDirectory place →
      ∃ goal mode, Walks files true links place []
        (.ok ⟨goal, some (.directory mode)⟩) := by
    rintro links place ⟨mode, here⟩
    refine ⟨place, mode, ?_⟩
    rw [← here]
    exact .arrived
  induction walks generalizing names with
  | arrived => exact absurd (List.append_eq_nil_iff.mp parts.symm).2 more
  | absent here _ _ | linkItself here _ _ _ =>
      cases names with
      | nil => exact arrived here
      | cons first names =>
          exact absurd
            (List.append_eq_nil_iff.mp (List.cons.inj parts).2.symm).2 more
  | stay here _ induction =>
      cases names with
      | nil => exact arrived here
      | cons first names =>
          obtain ⟨rfl, remaining⟩ := List.cons.inj parts
          obtain ⟨goal, mode, further⟩ := induction remaining found
          exact ⟨goal, mode, .stay here further⟩
  | back here _ induction =>
      cases names with
      | nil => exact arrived here
      | cons first names =>
          obtain ⟨rfl, remaining⟩ := List.cons.inj parts
          obtain ⟨goal, mode, further⟩ := induction remaining found
          exact ⟨goal, mode, .back here further⟩
  | @through _ _ _ _ target _ here plain there _ _ induction =>
      cases names with
      | nil => exact arrived here
      | cons first names =>
          obtain ⟨rfl, remaining⟩ := List.cons.inj parts
          have longer := congrArg ((linkNames target).2 ++ ·) remaining
          obtain ⟨goal, mode, further⟩ :=
            induction (longer.trans (List.append_assoc _ _ _).symm) found
          exact ⟨goal, mode, .through here plain there (Or.inr rfl) further⟩
  | enter here plain there noLink _ induction =>
      cases names with
      | nil => exact arrived here
      | cons first names =>
          obtain ⟨rfl, remaining⟩ := List.cons.inj parts
          obtain ⟨goal, mode, further⟩ := induction remaining found
          exact ⟨goal, mode, .enter here plain there noLink further⟩
  | missing | blocked | long | lost | loop => cases found

/-- Whether a walk ends where nothing is. -/
def LeadsNowhere : Except FileError Spot → Prop
  | .ok ⟨_, none⟩ => True
  | .error .noEntry => True
  | _ => False

/-- Nothing is found behind what is not there. -/
theorem Walks.append_eq_noEntry
    {files : FileSystem}
    {followLast : Bool}
    {links : Nat}
    {place : Place}
    {names : List Text}
    {result : Except FileError Spot}
    (walks : Walks files followLast links place names result)
    (nowhere : LeadsNowhere result)
    (otherwise : Bool)
    {rest : List Text}
    (more : rest ≠ []) :
    Walks files otherwise links place (names ++ rest) (.error .noEntry) := by
  induction walks with
  | @arrived _ place =>
      cases nothing : files.get? place with
      | none =>
          obtain ⟨name, rest, rfl⟩ := List.exists_cons_of_ne_nil more
          exact .missing nothing
      | some entry => simp [nothing, LeadsNowhere] at nowhere
  | missing nothing => exact .missing nothing
  | absent here plain nothing => exact .lost here plain nothing more
  | lost here plain nothing _ => exact .lost here plain nothing (by simp [more])
  | stay here _ induction => exact .stay here (induction nowhere)
  | back here _ induction => exact .back here (induction nowhere)
  | through here plain there _ _ induction =>
      have further := induction nowhere
      rw [List.append_assoc] at further
      exact .through here plain there (Or.inl (by simp [more])) further
  | enter here plain there noLink _ induction =>
      exact .enter here plain there noLink (induction nowhere)
  | blocked | long | linkItself | loop => exact nowhere.elim

/-! ## Well-formed file systems -/

/--
Whatever stands below the root stands in a directory, and so does a program at
work.
-/
structure WellFormed (files : FileSystem) : Prop where
  parents :
    ∀ place name entry, files.get? (place ++ [name]) = some entry →
      files.HasDirectory place
  workDirectory :
    ∀ place, files.workDirectory = .present place → files.HasDirectory place

theorem mem_entries_of_get?
    {files : FileSystem}
    {place : Place}
    {entry : Entry}
    (below : place ≠ [])
    (there : files.get? place = some entry) :
    (place, entry) ∈ files.entries := by
  rw [get?, if_neg below] at there
  exact mem_of_lookup there

/-- A list of entries is well-formed if each of them has its directory. -/
theorem wellFormed_of_entries
    {files : FileSystem}
    (parents : ∀ pair ∈ files.entries, files.HasDirectory pair.1.dropLast)
    (workDirectory :
      ∀ place, files.workDirectory = .present place →
        files.HasDirectory place) :
    files.WellFormed := by
  refine ⟨fun place name entry there => ?_, workDirectory⟩
  have member := mem_entries_of_get? (by simp) there
  simpa using parents _ member

theorem hasDirectory_root (files : FileSystem) : files.HasDirectory [] :=
  ⟨0o755, by simp [get?]⟩

theorem WellFormed.dropLast
    {files : FileSystem}
    (wellFormed : files.WellFormed)
    {place : Place}
    (here : files.HasDirectory place) :
    files.HasDirectory place.dropLast := by
  rcases List.eq_nil_or_concat place with rfl | ⟨before, name, rfl⟩
  · exact here
  · obtain ⟨mode, here⟩ := here
    simpa using wellFormed.parents before name _ (by simpa using here)

theorem HasDirectory.linkStart
    {files : FileSystem}
    {place : Place}
    (here : files.HasDirectory place)
    (target : Text) :
    files.HasDirectory (linkStart place target) := by
  unfold FileSystem.linkStart
  split
  · exact hasDirectory_root files
  · exact here

/-- A walk from a directory that ends where nothing is ends in a directory. -/
theorem Walks.parent
    {files : FileSystem}
    (wellFormed : files.WellFormed)
    {followLast : Bool}
    {links : Nat}
    {place goal : Place}
    {names : List Text}
    {result : Except FileError Spot}
    (walks : Walks files followLast links place names result)
    (start : ∃ entry, files.get? place = some entry)
    (found : result = .ok ⟨goal, none⟩) :
    ∃ before name, goal = before ++ [name] ∧ files.HasDirectory before := by
  induction walks with
  | arrived =>
      obtain ⟨entry, start⟩ := start
      simp [start] at found
  | @absent _ place name here _ _ =>
      cases found
      exact ⟨place, name, rfl, here⟩
  | stay here _ induction => exact induction start found
  | back here _ induction =>
      obtain ⟨mode, before⟩ := wellFormed.dropLast here
      exact induction ⟨_, before⟩ found
  | @through _ _ _ _ target _ here _ _ _ _ induction =>
      obtain ⟨mode, next⟩ := here.linkStart target
      exact induction ⟨_, next⟩ found
  | enter here _ there _ _ induction => exact induction ⟨_, there⟩ found
  | linkItself => cases found
  | missing | blocked | long | lost | loop => cases found

/-- A walk that follows every link ends at none. -/
theorem Walks.noLink
    {files : FileSystem}
    (wellFormed : files.WellFormed)
    {links : Nat}
    {place : Place}
    {names : List Text}
    {result : Except FileError Spot}
    {spot : Spot}
    (walks : Walks files true links place names result)
    (start : NoLink (files.get? place))
    (found : result = .ok spot) :
    NoLink spot.entry := by
  have directory :
      ∀ {place : Place}, files.HasDirectory place →
        NoLink (files.get? place) := by
    rintro place ⟨mode, here⟩
    simp [NoLink, here]
  induction walks with
  | arrived =>
      cases found
      exact start
  | absent =>
      cases found
      simp [NoLink]
  | linkItself _ _ _ leave => cases leave
  | stay _ _ induction => exact induction start found
  | back here _ induction =>
      exact induction (directory (wellFormed.dropLast here)) found
  | @through _ _ _ _ target _ here _ _ _ _ induction =>
      exact induction (directory (here.linkStart target)) found
  | enter _ _ there noLink _ induction => exact induction (there ▸ noLink) found
  | missing | blocked | long | lost | loop => cases found

/--
Putting something at a free place whose name is not on the way, in no link
either, changes nothing for a walk.
-/
theorem Walks.unaffected
    {before after : FileSystem}
    (wellFormed : before.WellFormed)
    {directory : Place}
    {free : Text}
    (nothing : before.get? (directory ++ [free]) = none)
    (same :
      ∀ place, place ≠ directory ++ [free] →
        after.get? place = before.get? place)
    (unmentioned :
      ∀ place target, before.get? place = some (.link target) →
        free ∉ (linkNames target).2)
    {followLast : Bool}
    {links : Nat}
    {place : Place}
    {names : List Text}
    {result : Except FileError Spot}
    (walks : Walks before followLast links place names result)
    (start : ∃ entry, before.get? place = some entry)
    (unnamed : free ∉ names) :
    Walks after followLast links place names result := by
  have existing :
      ∀ {place : Place} {entry : Entry},
        before.get? place = some entry → after.get? place = some entry := by
    intro place entry found
    rw [same place ?_, found]
    rintro rfl
    rw [nothing] at found
    cases found
  have directories :
      ∀ {place : Place}, before.HasDirectory place →
        after.HasDirectory place := by
    rintro place ⟨mode, here⟩
    exact ⟨mode, existing here⟩
  have absence :
      ∀ {place : Place} {name : Text}, free ≠ name →
        before.get? (place ++ [name]) = none →
          after.get? (place ++ [name]) = none := by
    intro place name other absent
    rw [same _ ?_, absent]
    intro equal
    have last : [name] = [free] := (List.append_inj' equal rfl).2
    exact other (List.cons.inj last).1.symm
  induction walks with
  | @arrived _ place =>
      obtain ⟨entry, start⟩ := start
      rw [start, ← existing start]
      exact .arrived
  | missing absent =>
      obtain ⟨entry, start⟩ := start
      rw [absent] at start
      cases start
  | blocked here noDirectory => exact .blocked (existing here) noDirectory
  | long here notHere notBack tooLong =>
      exact .long (directories here) notHere notBack tooLong
  | absent here plain absent =>
      exact .absent (directories here) plain
        (absence (by simpa using unnamed) absent)
  | lost here plain absent more =>
      simp only [List.mem_cons, not_or] at unnamed
      exact .lost (directories here) plain (absence unnamed.1 absent) more
  | linkItself here plain there leave =>
      exact .linkItself (directories here) plain (existing there) leave
  | loop here plain there follow =>
      exact .loop (directories here) plain (existing there) follow
  | stay here _ induction =>
      simp only [List.mem_cons, not_or] at unnamed
      exact .stay (directories here) (induction start unnamed.2)
  | back here _ induction =>
      simp only [List.mem_cons, not_or] at unnamed
      obtain ⟨mode, next⟩ := wellFormed.dropLast here
      exact .back (directories here) (induction ⟨_, next⟩ unnamed.2)
  | @through _ _ _ rest target _ here plain there follow _ induction =>
      simp only [List.mem_cons, not_or] at unnamed
      obtain ⟨mode, next⟩ := here.linkStart target
      refine .through (directories here) plain (existing there) follow
        (induction ⟨_, next⟩ ?_)
      simp only [List.mem_append, not_or]
      exact ⟨unmentioned _ _ there, unnamed.2⟩
  | enter here plain there noLink _ induction =>
      simp only [List.mem_cons, not_or] at unnamed
      exact .enter (directories here) plain (existing there) noLink
        (induction ⟨_, there⟩ unnamed.2)

end FileSystem

end SettingsStore
