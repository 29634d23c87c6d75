import SettingsStore.Files.Operations

/-!
# Running procedures

What a procedure does to a trail, step by step.  The equations below take a
procedure apart into its operations; `Continues` says that an operation, or many
of them, lead from one file system to another by way of file systems that stand
in one relation to the first.
-/

namespace SettingsStore

namespace Procedure

variable {Error Other Result Next : Type}

/-- What a procedure comes to on a trail, and the trail that it leaves. -/
def on
    (procedure : Procedure Error Result)
    (trail : Trail) :
    Except Error Result × Trail :=
  (procedure : Trail → Except Error Result × Trail) trail

theorem runOn_eq
    (procedure : Procedure Error Result)
    (files : FileSystem) :
    procedure.runOn files = procedure.on ⟨files, []⟩ :=
  rfl

@[simp]
theorem on_pure
    (result : Result)
    (trail : Trail) :
    (pure result : Procedure Error Result).on trail = (.ok result, trail) :=
  rfl

@[simp]
theorem on_bind
    (procedure : Procedure Error Result)
    (next : Result → Procedure Error Next)
    (trail : Trail) :
    (procedure >>= next).on trail =
      match procedure.on trail with
      | (.ok result, trail) => (next result).on trail
      | (.error error, trail) => (.error error, trail) := by
  change (match (procedure.on trail) with
    | (outcome, trail) =>
        (ExceptT.bindCont next outcome :
            StateM Trail (Except Error Next)) trail) = _
  obtain ⟨outcome, trail⟩ := procedure.on trail
  cases outcome <;> rfl

theorem on_bind_of_ok
    {procedure : Procedure Error Result}
    {trail after : Trail}
    {result : Result}
    (ran : procedure.on trail = (.ok result, after))
    (next : Result → Procedure Error Next) :
    (procedure >>= next).on trail = (next result).on after := by
  rw [on_bind, ran]

@[simp]
theorem on_attempt
    (procedure : Procedure Error Result)
    (trail : Trail) :
    (attempt procedure : Procedure Other (Except Error Result)).on trail =
      (.ok (procedure.on trail).1, (procedure.on trail).2) :=
  rfl

@[simp]
theorem on_ask
    (question : FileSystem → Except Error Result)
    (trail : Trail) :
    (ask question).on trail = (question trail.files, trail) :=
  rfl

theorem on_perform_of_ok
    {operation : FileSystem → Except Error FileSystem}
    {trail : Trail}
    {files : FileSystem}
    (done : operation trail.files = .ok files) :
    (perform operation).on trail =
      (.ok (), ⟨files, trail.files :: trail.earlier⟩) := by
  unfold on perform
  rw [done]

theorem on_perform_of_error
    {operation : FileSystem → Except Error FileSystem}
    {trail : Trail}
    {error : Error}
    (refused : operation trail.files = .error error) :
    (perform operation).on trail = (.error error, trail) := by
  unfold on perform
  rw [refused]

end Procedure

namespace Trail

/--
A trail goes on from another one, over file systems that are all related to the
first.
-/
structure Continues
    (relation : FileSystem → FileSystem → Prop)
    (before after : Trail) :
    Prop where
  files : relation before.files after.files
  earlier :
    ∃ passed, after.earlier = passed ++ before.earlier ∧
      ∀ files ∈ passed, relation before.files files

variable {relation : FileSystem → FileSystem → Prop}

theorem Continues.refl
    (reflexive : ∀ files, relation files files)
    (trail : Trail) :
    Continues relation trail trail :=
  ⟨reflexive trail.files, [], rfl, by simp⟩

theorem Continues.trans
    (transitive : ∀ first second third,
      relation first second → relation second third → relation first third)
    {first second third : Trail}
    (left : Continues relation first second)
    (right : Continues relation second third) :
    Continues relation first third := by
  obtain ⟨leftFiles, leftPassed, leftEarlier, leftRelated⟩ := left
  obtain ⟨rightFiles, rightPassed, rightEarlier, rightRelated⟩ := right
  refine ⟨transitive _ _ _ leftFiles rightFiles,
    rightPassed ++ leftPassed, ?_, ?_⟩
  · rw [rightEarlier, leftEarlier, List.append_assoc]
  · intro files passed
    rcases List.mem_append.mp passed with later | sooner
    · exact transitive _ _ _ leftFiles (rightRelated files later)
    · exact leftRelated files sooner

/-- One operation goes on from a trail. -/
theorem Continues.step
    (reflexive : ∀ files, relation files files)
    {trail : Trail}
    {files : FileSystem}
    (related : relation trail.files files) :
    Continues relation trail ⟨files, trail.files :: trail.earlier⟩ := by
  refine ⟨related, [trail.files], rfl, ?_⟩
  intro passed member
  rw [List.mem_singleton.mp member]
  exact reflexive trail.files

end Trail

end SettingsStore
