import ColumnChain.Ledger
import ColumnChain.Proofs.Disks

/-!
# Watching file operations

Files can be watched, so that it is known afterwards whether an operation on them has
failed. Work that stops at the first failure either ends with a failure that was seen, or
all of its operations have done what they are for.
-/

namespace ColumnChain

/-- An operation that cannot end in an error, in work that can. -/
theorem run_liftM {σ α ε : Type} {operation : StateM σ α} {state after : σ} {value : α}
    (done : operation.run state = (value, after)) :
    (liftM operation : ExceptT ε (StateM σ) α).run.run state = (.ok value, after) := by
  change (Except.ok <$> operation : StateM σ (Except ε α)).run state = _
  rw [StateT.run_map, done]
  rfl

section Steps

variable {σ α β ε : Type} {work : ExceptT ε (StateM σ) α} {next : α → ExceptT ε (StateM σ) β}
  {state between after : σ}

/-- Work goes on with a value. -/
theorem run_bind_of_ok {value : α} (worked : work.run.run state = (.ok value, between)) :
    (work >>= next).run.run state = (next value).run.run between := by
  rw [ExceptT.run_bind, StateT.run_bind, worked]
  rfl

/-- Work stops at an error. -/
theorem run_bind_of_error {error : ε} (failed : work.run.run state = (.error error, between)) :
    (work >>= next).run.run state = (.error error, between) := by
  rw [ExceptT.run_bind, StateT.run_bind, failed]
  rfl

/-- Work with a value has one in each of its steps. -/
theorem run_bind_eq_ok {result : β} :
    (work >>= next).run.run state = (.ok result, after) ↔
      ∃ value between, work.run.run state = (.ok value, between) ∧
        (next value).run.run between = (.ok result, after) := by
  obtain ⟨ended, between, run⟩ : ∃ ended between, work.run.run state = (ended, between) :=
    ⟨_, _, rfl⟩
  cases ended with
  | error error =>
      rw [run_bind_of_error run, run]
      constructor
      · intro impossible
        cases impossible
      · rintro ⟨value, between, impossible, -⟩
        cases impossible
  | ok value =>
      rw [run_bind_of_ok run, run]
      constructor
      · intro rest
        exact ⟨value, between, rfl, rest⟩
      · rintro ⟨_, _, same, rest⟩
        cases same
        exact rest

/-- Work that has a value, in a form that can be computed. -/
theorem run_eq_ok_getD (succeeds : (work.run.run state).1.toBool = true) (fallback : α) :
    work.run.run state =
      (.ok ((work.run.run state).1.toOption.getD fallback), (work.run.run state).2) := by
  generalize work.run.run state = run at succeeds ⊢
  obtain ⟨ended, after⟩ := run
  cases ended with
  | error error => cases succeeds
  | ok value => rfl

end Steps

namespace Ledger

variable {σ α : Type} {operation : StateM σ (Except DiskError α)} {state after : σ}

theorem run_attempt_ok {value : α} (done : operation.run state = (.ok value, after))
    (fault : DiskError → Fault) :
    (attempt operation fault).run.run state = (.ok value, after) := by
  rw [attempt, ExceptT.run_mk, StateT.run_bind, done]
  rfl

theorem run_attempt_error {error : DiskError} (failed : operation.run state = (.error error, after))
    (fault : DiskError → Fault) :
    (attempt operation fault).run.run state = (.error (fault error), after) := by
  rw [attempt, ExceptT.run_mk, StateT.run_bind, failed]
  rfl

end Ledger

/-- Files, and whether an operation on them has failed. -/
structure Watched (σ : Type) where
  files : σ
  failed : Bool

namespace Watched

variable {σ α β ε : Type}

/-- Do an operation, and note it when it fails. -/
def noting (operation : StateM σ (Except DiskError α)) :
    StateM (Watched σ) (Except DiskError α) := fun watched =>
  match operation.run watched.files with
  | (result, files) => (result, ⟨files, watched.failed || !result.toBool⟩)

/-- Do an operation that cannot fail. -/
def quietly (operation : StateM σ α) : StateM (Watched σ) α := fun watched =>
  match operation.run watched.files with
  | (result, files) => (result, ⟨files, watched.failed⟩)

instance [Files (StateM σ)] : Files (StateM (Watched σ)) where
  read path := noting (Files.read path)
  isPresent path := quietly (Files.isPresent path)
  names path := noting (Files.names path)
  makeDirectories path := noting (Files.makeDirectories path)
  create path := noting (Files.create path)
  write path contents := noting (Files.write path contents)
  rename source destination := noting (Files.rename source destination)

/-! ## How work ends -/

/-- Work on files on which nothing has failed ends in an error after a failed operation, or
nothing has failed and its result is as it should be. -/
def Ends (work : ExceptT ε (StateM (Watched σ)) α) (files : σ)
    (result : Except ε α → σ → Prop) : Prop :=
  (∃ error after, work.run.run ⟨files, false⟩ = (.error error, ⟨after, true⟩)) ∨
    ∃ value after, work.run.run ⟨files, false⟩ = (value, ⟨after, false⟩) ∧ result value after

/-- Work that has a value unless an operation fails. -/
def Succeeds (work : ExceptT ε (StateM (Watched σ)) α) (files : σ)
    (result : α → σ → Prop) : Prop :=
  Ends work files fun ended after => ∃ value, ended = .ok value ∧ result value after

section Rules

variable {work : ExceptT ε (StateM (Watched σ)) α} {next : α → ExceptT ε (StateM (Watched σ)) β}
  {files : σ}

/-- Work in which nothing failed has the result that it should have. -/
theorem Ends.of_run {result : Except ε α → σ → Prop} (ends : Ends work files result)
    {value : Except ε α} {watched : Watched σ}
    (run : work.run.run ⟨files, false⟩ = (value, watched)) (unfailed : watched.failed = false) :
    result value watched.files := by
  rcases ends with ⟨error, after, failed⟩ | ⟨other, after, worked, holds⟩
  · rw [failed] at run
    cases run
    cases unfailed
  · rw [worked] at run
    cases run
    exact holds

theorem Ends.mono {result weaker : Except ε α → σ → Prop} (ends : Ends work files result)
    (implies : ∀ value after, result value after → weaker value after) :
    Ends work files weaker := by
  rcases ends with failed | ⟨value, after, worked, holds⟩
  · exact Or.inl failed
  · exact Or.inr ⟨value, after, worked, implies value after holds⟩

theorem Succeeds.mono {result weaker : α → σ → Prop} (succeeds : Succeeds work files result)
    (implies : ∀ value after, result value after → weaker value after) :
    Succeeds work files weaker := by
  refine Ends.mono succeeds ?_
  rintro _ after ⟨value, rfl, holds⟩
  exact ⟨value, rfl, implies value after holds⟩

/-- Going on after work that succeeds. -/
theorem Succeeds.bind {between : α → σ → Prop} {result : Except ε β → σ → Prop}
    (first : Succeeds work files between)
    (second : ∀ value after, between value after → Ends (next value) after result) :
    Ends (work >>= next) files result := by
  rcases first with ⟨error, after, failed⟩ | ⟨_, after, worked, value, rfl, holds⟩
  · exact Or.inl ⟨error, after, run_bind_of_error failed⟩
  · rw [Ends, run_bind_of_ok worked]
    exact second value after holds

/-- Work whose value is turned into another one. -/
theorem Ends.map {result : Except ε α → σ → Prop} {mapped : Except ε β → σ → Prop} {f : α → β}
    (ends : Ends work files result)
    (maps : ∀ value after, result value after → mapped (value.map f) after) :
    Ends (work >>= fun value => pure (f value)) files mapped := by
  rcases ends with ⟨error, after, failed⟩ | ⟨ended, after, worked, holds⟩
  · exact Or.inl ⟨error, after, run_bind_of_error failed⟩
  · refine Or.inr ⟨ended.map f, after, ?_, maps ended after holds⟩
    cases ended with
    | error error => exact run_bind_of_error worked
    | ok value => exact run_bind_of_ok worked

theorem ends_pure {value : α} {result : Except ε α → σ → Prop} (holds : result (.ok value) files) :
    Ends (pure value) files result :=
  Or.inr ⟨.ok value, files, rfl, holds⟩

theorem ends_throw_bind {error : ε} {result : Except ε β → σ → Prop}
    (holds : result (.error error) files) : Ends (throw error >>= next) files result :=
  Or.inr ⟨.error error, files, rfl, holds⟩

theorem succeeds_pure {value : α} {result : α → σ → Prop} (holds : result value files) :
    Succeeds (pure value : ExceptT ε (StateM (Watched σ)) α) files result :=
  ends_pure ⟨value, rfl, holds⟩

/-- An operation that cannot fail, in work that can. -/
theorem succeeds_quietly {operation : StateM σ α} (result : α → σ → Prop)
    (holds : result (operation.run files).1 (operation.run files).2) :
    Succeeds (liftM (quietly operation) : ExceptT ε (StateM (Watched σ)) α) files result :=
  Or.inr ⟨.ok (operation.run files).1, (operation.run files).2, rfl, _, rfl, holds⟩

/-- An operation that does not fail is noted as one that has not failed. -/
theorem run_noting {operation : StateM σ (Except DiskError α)} {value : α} {after : σ}
    (done : operation.run files = (.ok value, after)) :
    (noting operation).run ⟨files, false⟩ = (.ok value, ⟨after, false⟩) := by
  simp only [noting, StateT.run] at done ⊢
  rw [done]
  rfl

/-- An operation whose failure becomes a fault. -/
theorem succeeds_attempt {operation : StateM σ (Except DiskError α)} {fault : DiskError → Fault}
    (result : α → σ → Prop)
    (holds : ∀ value after, operation.run files = (.ok value, after) → result value after) :
    Succeeds (Ledger.attempt (noting operation) fault) files result := by
  obtain ⟨ended, after, run⟩ : ∃ ended after, operation.run files = (ended, after) :=
    ⟨_, _, rfl⟩
  have noted : (noting operation).run ⟨files, false⟩ = (ended, ⟨after, !ended.toBool⟩) := by
    simp only [noting, StateT.run] at run ⊢
    rw [run]
    rfl
  cases ended with
  | error error => exact Or.inl ⟨fault error, after, Ledger.run_attempt_error noted fault⟩
  | ok value =>
      exact Or.inr ⟨.ok value, after, Ledger.run_attempt_ok noted fault, value, rfl,
        holds value after run⟩

end Rules
end Watched
end ColumnChain
