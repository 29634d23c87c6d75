import SettingsStore.CommandLine.Dump
import SettingsStore.Proofs.Json.Printing
import SettingsStore.Proofs.Manager.Normalising
import SettingsStore.Proofs.Program.Writing

/-!
# What the command shows

The command comes to 0 once the documents were loaded and shown, and to 1 if an
error of the store stopped them.  What was loaded can always be printed, and it
is shown text by text: a heading and two sections.  Of these texts only the two
paths are more than ASCII, so that only they can be refused by an output; what
stands before such a path has been written then, and nothing else.
-/

namespace SettingsStore

/--
What a command line comes to that is carried out, by what loading comes to and
by what the output has against the paths.
-/
def Ending.ofLoading : Except Fault Unit → Option OutputError → Ending
  | .ok (), none => .code 0
  | .ok (), some error => .unwritten error
  | .error (.store _), _ => .code 1
  | .error other, _ => .fault other

section

variable {outcome : Except Fault Unit} {refusal : Option OutputError}

theorem Ending.ofLoading_ne_exit (exit : CommandLine.Exit) :
    ofLoading outcome refusal ≠ .exit exit := by
  rcases outcome with (_ | _ | _ | _ | _) | _
  case ok => cases refusal <;> exact nofun
  all_goals exact nofun

theorem Ending.ofLoading_ne_noText :
    ofLoading outcome refusal ≠ .noText := by
  rcases outcome with (_ | _ | _ | _ | _) | _
  case ok => cases refusal <;> exact nofun
  all_goals exact nofun

theorem Ending.ofLoading_eq_fault_iff {fault : Fault} :
    ofLoading outcome refusal = .fault fault ↔
      outcome = .error fault ∧ ∀ error, fault ≠ .store error := by
  constructor
  · intro ends
    rcases outcome with other | _
    · cases other with
      | store => cases ends
      | path | file | record | hugeInteger =>
          cases ends
          exact ⟨rfl, nofun⟩
    · cases refusal <;> cases ends
  · rintro ⟨rfl, other⟩
    cases fault with
    | store error => exact absurd rfl (other error)
    | path | file | record | hugeInteger => rfl

theorem Ending.ofLoading_eq_unwritten_iff {error : OutputError} :
    ofLoading outcome refusal = .unwritten error ↔
      outcome = .ok () ∧ refusal = some error := by
  rcases outcome with (_ | _ | _ | _ | _) | _
  case ok => cases refusal <;> simp [ofLoading]
  all_goals simp [ofLoading]

theorem Ending.ofLoading_eq_code_iff {code : Nat} :
    ofLoading outcome refusal = .code code ↔
      (code = 0 ∧ outcome = .ok () ∧ refusal = none) ∨
        (code = 1 ∧ ∃ error, outcome = .error (.store error)) := by
  rcases outcome with (_ | _ | _ | _ | _) | _
  case ok => cases refusal <;> simp [ofLoading, eq_comm]
  all_goals simp [ofLoading, eq_comm]

end

/-! ## What is shown -/

/-- A section of what is shown of a load. -/
structure Section where
  title : Text
  path : Option Path
  found : Bool
  /-- The text of the document that was loaded. -/
  document : Text
  ascii : ∀ point ∈ title ++ document, point.isAscii

namespace Section

/-- The line on the path, which is the one that an output may refuse. -/
def line (shown : Section) : Text :=
  Program.pathLine shown.title shown.path

/-- The path, and whether something is there. -/
def heading (shown : Section) : Text :=
  shown.line ++ Program.existenceLine shown.found

/--
The block with the contents, which is there only if something is at the path.
-/
def contents (shown : Section) : Text :=
  if shown.found then
    shown.title ++ " Contents:\n" ++ shown.document ++ "\n\n"
  else []

/-- The section, without the contents if only the paths are asked for. -/
def text (pathsOnly : Bool) (shown : Section) : Text :=
  shown.heading ++ if pathsOnly then [] else shown.contents

/-- The texts behind the path. -/
def rest (pathsOnly : Bool) (shown : Section) : List Text :=
  Program.existenceLine shown.found ::
    if !pathsOnly && shown.found then [shown.contents] else []

variable (shown : Section) (pathsOnly : Bool)

theorem flatten_rest :
    (shown.line :: shown.rest pathsOnly).flatten = shown.text pathsOnly := by
  rw [rest, text, heading, contents]
  cases pathsOnly <;> cases shown.found <;> simp

/-- Every output takes what stands behind the path. -/
theorem ascii_rest :
    ∀ text ∈ shown.rest pathsOnly, ∀ point ∈ text, point.isAscii := by
  obtain ⟨title, document⟩ := List.forall_mem_append.mp shown.ascii
  have constants : ∀ found,
      (Program.existenceLine found ++ " Contents:\n" ++ "\n\n").all
        CodePoint.isAscii = true := by
    decide
  have constant := List.all_eq_true.mp (constants shown.found)
  simp only [List.forall_mem_append] at constant
  obtain ⟨⟨existence, above⟩, below⟩ := constant
  rw [rest, contents]
  refine List.forall_mem_cons.mpr ⟨existence, fun text member => ?_⟩
  split at member
  · rename_i both
    rw [List.mem_singleton.mp member,
      if_pos (Bool.and_eq_true_iff.mp both).2]
    simp only [List.forall_mem_append]
    exact ⟨⟨⟨title, above⟩, document⟩, below⟩
  · cases member

end Section

/-- What is printed of a document is ASCII. -/
theorem Json.ascii_toIndented (document : Json) :
    ∀ point ∈ Text.ofString document.toIndented, point.isAscii := by
  intro point member
  rw [Text.ofString, toIndented, String.toList_ofList] at member
  obtain ⟨character, among, rfl⟩ := List.mem_map.mp member
  have small : character.toNat < 0x80 := by
    rcases printed_render .indented document character among with
      visible | ⟨-, rfl⟩
    · exact Nat.lt_of_le_of_lt visible.2 (by decide)
    · decide
  exact decide_eq_true small

/--
What comes of showing two sections on an output: the report on the first path
that it refuses, if it does, and what is written before.
-/
def Console.showing
    (console : Console)
    (app session : Section)
    (pathsOnly : Bool) :
    Option OutputError × Text :=
  match console.refusal? app.line, console.refusal? session.line with
  | some error, _ => (some error, Program.heading)
  | none, some error => (some error, Program.heading ++ app.text pathsOnly)
  | none, none =>
    (none, Program.heading ++ app.text pathsOnly ++ session.text pathsOnly)

/--
What an output has against the paths that are shown: the report on the first of
the two lines that it refuses, if it does.
-/
def Console.pathRefusal?
    (console : Console)
    (paths : ResolvedPaths) :
    Option OutputError :=
  (console.refusal? (Program.pathLine "App Config" paths.userConfig)).or
    (console.refusal? (Program.pathLine "Session Config" paths.session))

namespace Program

/-- What making a manager and loading its documents comes to. -/
def loading (program : Program) : Except Fault Unit :=
  match program.construct none .verbatim none with
  | (.error error, _) => .error (.path error)
  | (.ok manager, program) => (program.load manager).1

/-- What the output has against the paths of the manager that is made. -/
def pathRefusal? (program : Program) : Option OutputError :=
  match program.construct none .verbatim none with
  | (.error _, _) => none
  | (.ok manager, _) => program.console.pathRefusal? manager.paths

/-- A manager that was made has the codec that it was given. -/
theorem construct_codec
    {program after : Program}
    {source : Option DirectorySource}
    {codec : RecordCodec}
    {testMode : Option Bool}
    {manager : Manager}
    (constructed :
      program.construct source codec testMode = (.ok manager, after)) :
    manager.codec = codec := by
  unfold construct Manager.constructTelling at constructed
  dsimp only at constructed
  split at constructed
  · cases constructed
  · cases constructed
    rfl

/-- The records that the usual codec found can be copied. -/
theorem copyable_of_load
    {program : Program}
    {manager : Manager}
    (usual : manager.codec = .verbatim)
    (loaded : (program.load manager).1 = .ok ()) :
    (program.load manager).2.1.codec = .verbatim ∧
      ∀ record ∈ (program.load manager).2.1.session.notebooks,
        record.Copyable := by
  obtain ⟨outcome, after⟩ := program.load_eq manager
  rw [loaded] at outcome
  rw [after, (manager.concluded_kept _).2.2]
  refine ⟨usual, ?_⟩
  rw [usual] at outcome ⊢
  cases found : program.documents manager.paths .verbatim with
  | error fault =>
      rw [found] at outcome
      cases outcome
  | ok documents =>
      obtain ⟨config, session⟩ := documents
      unfold documents documentsIn at found
      dsimp only at found
      split at found
      · cases found
      · split at found
        · cases found
        · obtain ⟨-, copyable, rfl⟩ :=
            decode_verbatim_eq_ok_iff.mp ⟨config, found⟩
          exact copyable

section

variable {program : Program}

theorem documentSection_eq
    {shown : Section}
    {document : Json}
    (found : shown.found = program.finds shown.path)
    (printed : shown.document = document.toIndented)
    (pathsOnly : Bool) :
    program.documentSection shown.title shown.path
        (if pathsOnly then none else some document) =
      shown.line :: shown.rest pathsOnly := by
  rw [documentSection, Section.line, Section.rest, Section.contents, printed,
    found]
  cases pathsOnly <;> cases program.finds shown.path <;> rfl

/-- The section on the settings of the user. -/
def configSection (program : Program) (manager : Manager) : Section where
  title := "App Config"
  path := manager.paths.userConfig
  found := program.finds manager.paths.userConfig
  document := manager.config.toJson.toIndented
  ascii := List.forall_mem_append.mpr
    ⟨List.all_eq_true.mp rfl, Json.ascii_toIndented _⟩

/-- The section on the session. -/
def sessionSection (program : Program) (manager : Manager) : Section where
  title := "Session Config"
  path := manager.paths.session
  found := program.finds manager.paths.session
  document := (sessionDocument manager.session.notebooks).toIndented
  ascii := List.forall_mem_append.mpr
    ⟨List.all_eq_true.mp rfl, Json.ascii_toIndented _⟩

/--
A section is written behind texts that are taken, unless its path is refused.
-/
theorem printAll_section
    {front : List Text}
    (taken : ∀ text ∈ front, program.console.refusal? text = none)
    (shown : Section)
    (pathsOnly : Bool) :
    program.printAll (front ++ shown.line :: shown.rest pathsOnly) =
      match program.console.refusal? shown.line with
      | some error => (.error error, program.wrote front.flatten)
      | none =>
        (.ok (), program.wrote (front.flatten ++ shown.text pathsOnly)) := by
  cases refusal : program.console.refusal? shown.line with
  | some error => exact printAll_of_refused taken refusal _
  | none =>
      dsimp only
      rw [← Section.flatten_rest, ← List.flatten_append]
      refine printAll_of_taken (List.forall_mem_append.mpr ⟨taken, ?_⟩)
      refine List.forall_mem_cons.mpr ⟨refusal, fun text member => ?_⟩
      exact program.console.refusal?_ascii text
        (shown.ascii_rest pathsOnly text member)

/--
A manager whose records can be copied is shown in two sections, as far as the
output takes their paths.
-/
theorem display_eq
    {manager : Manager}
    (usual : manager.codec = .verbatim)
    (copyable : ∀ record ∈ manager.session.notebooks, record.Copyable)
    (pathsOnly : Bool) :
    program.display manager pathsOnly =
      let showing := program.console.showing (program.configSection manager)
        (program.sessionSection manager) pathsOnly
      (match showing.1 with
        | some error => .error (.unwritten error)
        | none => .ok (),
        program.wrote showing.2) := by
  have above : ∀ text ∈ [heading], program.console.refusal? text = none := by
    intro text member
    rw [List.mem_singleton.mp member]
    exact program.console.refusal?_ascii _ (List.all_eq_true.mp rfl)
  have app :
      program.documentSection "App Config" manager.paths.userConfig
          (if pathsOnly then none else some manager.config.toJson) =
        (program.configSection manager).line ::
          (program.configSection manager).rest pathsOnly :=
    @documentSection_eq program (program.configSection manager) _ rfl rfl
      pathsOnly
  have session : ∀ text,
      (program.wrote text).documentSection "Session Config"
          manager.paths.session
          (if pathsOnly then none
            else some (sessionDocument manager.session.notebooks)) =
        (program.sessionSection manager).line ::
          (program.sessionSection manager).rest pathsOnly :=
    fun text => @documentSection_eq (program.wrote text)
      (program.sessionSection manager) _ rfl rfl pathsOnly
  -- with the paths alone the records are not even turned into a document
  have document :
      (if pathsOnly then Except.ok none
        else (manager.session.toJson manager.codec).map some) =
        .ok (if pathsOnly then none
          else some (sessionDocument manager.session.notebooks)) := by
    rw [usual, toJson_of_copyable copyable]
    cases pathsOnly <;> rfl
  have behind : ∀ text,
      (program.wrote text).printAll
          ((program.sessionSection manager).line ::
            (program.sessionSection manager).rest pathsOnly) =
        match program.console.refusal?
          (program.sessionSection manager).line with
        | some error => (.error error, program.wrote text)
        | none =>
          (.ok (),
            program.wrote
              (text ++ (program.sessionSection manager).text pathsOnly)) := by
    intro text
    have written := @printAll_section (program.wrote text) [] nofun
      (program.sessionSection manager) pathsOnly
    rwa [wrote_wrote, wrote_wrote, List.flatten_nil, List.append_nil,
      List.nil_append] at written
  rw [display]
  dsimp only
  rw [app, document, ← List.singleton_append, printAll_section above,
    Console.showing]
  cases program.console.refusal? (program.configSection manager).line with
  | some error => rw [List.flatten_singleton]
  | none =>
      dsimp only
      rw [session, behind, List.flatten_singleton]
      cases program.console.refusal? (program.sessionSection manager).line <;>
        rfl

end

/-! ## The command -/

/-- A load leaves a manager its paths. -/
theorem paths_of_loaded
    {made after : Program}
    {manager loaded : Manager}
    (loads : made.load manager = (.ok (), loaded, after)) :
    loaded.paths = manager.paths := by
  have taken : loaded = _ :=
    Eq.trans (by rw [loads]) (made.load_eq manager).2
  rw [taken]
  exact (manager.concluded_kept _).1

/-- Only the paths of a manager can be refused. -/
theorem showing_fst
    (program : Program)
    (manager : Manager)
    (pathsOnly : Bool) :
    (program.console.showing (program.configSection manager)
        (program.sessionSection manager) pathsOnly).1 =
      program.console.pathRefusal? manager.paths := by
  change (Console.showing _ _ _ _).1 =
    (program.console.refusal? (program.configSection manager).line).or
      (program.console.refusal? (program.sessionSection manager).line)
  rw [Console.showing]
  cases program.console.refusal? (program.configSection manager).line with
  | some error => rfl
  | none =>
      cases program.console.refusal? (program.sessionSection manager).line <;>
        rfl

section

variable {program made after : Program} {manager loaded : Manager}
  (constructed : program.construct none .verbatim none = (.ok manager, made))
  (loads : made.load manager = (.ok (), loaded, after))

include constructed loads

/-- After a load the two sections are shown, as far as their paths are taken. -/
theorem dump_of_loaded (pathsOnly : Bool) :
    program.dump pathsOnly =
      let showing := after.console.showing (after.configSection loaded)
        (after.sessionSection loaded) pathsOnly
      (.ofLoading (.ok ()) showing.1, after.wrote showing.2) := by
  have taken := copyable_of_load (construct_codec constructed) (by rw [loads])
  rw [loads] at taken
  unfold dump
  rw [constructed]
  dsimp only
  rw [loads]
  dsimp only
  rw [display_eq taken.1 taken.2]
  dsimp only
  cases (after.console.showing _ _ pathsOnly).1 <;> rfl

/-- Making a manager and loading it leave the output what it was. -/
theorem told_of_loaded : program.Told after := by
  have making := program.told_construct none .verbatim none
  have loading := made.told_load manager
  rw [constructed] at making
  rw [loads] at loading
  exact making.trans loading

end

/--
The command comes to what loading comes to, unless a path that it is to show is
refused.
-/
theorem dump_fst
    (program : Program)
    (pathsOnly : Bool) :
    (program.dump pathsOnly).1 =
      .ofLoading program.loading program.pathRefusal? := by
  cases constructed : program.construct none .verbatim none with
  | mk outcome made =>
      cases outcome with
      | error error =>
          unfold dump loading pathRefusal?
          rw [constructed]
          rfl
      | ok manager =>
          cases loads : made.load manager with
          | mk outcome rest =>
              obtain ⟨loaded, after⟩ := rest
              cases outcome with
              | error fault =>
                  unfold dump loading pathRefusal?
                  rw [constructed]
                  dsimp only
                  rw [loads]
                  cases fault <;> rfl
              | ok =>
                  rw [dump_of_loaded constructed loads]
                  dsimp only
                  rw [showing_fst, (told_of_loaded constructed loads).console,
                    paths_of_loaded loads]
                  unfold loading pathRefusal?
                  rw [constructed]
                  dsimp only
                  rw [loads]

/--
An error of the store is told on the error output after what making the manager
and loading told.
-/
theorem dump_of_failed
    {program : Program}
    {error : StoreError}
    (failed : program.loading = .error (.store error))
    (pathsOnly : Bool) :
    ∃ told, program.Told told ∧
      program.dump pathsOnly =
          (.code 1, told.complain ("Error: " ++ error.text ++ "\n")) := by
  unfold loading at failed
  unfold dump
  have making := program.told_construct none .verbatim none
  cases constructed : program.construct none .verbatim none with
  | mk outcome made =>
      rw [constructed] at failed making
      cases outcome with
      | error error => cases failed
      | ok manager =>
          have loading := made.told_load manager
          dsimp only at failed ⊢
          cases loads : made.load manager with
          | mk outcome rest =>
              obtain ⟨loaded, after⟩ := rest
              rw [loads] at failed loading
              cases failed
              exact ⟨after, making.trans loading, rfl⟩

end Program

end SettingsStore
