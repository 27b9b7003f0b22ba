import ColumnChain.Proofs.Answering
import ColumnChain.Proofs.Serving
import ColumnChain.Proofs.Watching

/-!
# Requests that fail

A request that is answered with a failure leaves the workspaces as they are. There is one
exception: a change that was made, and could then not be written to the ledger, stays.
-/

namespace ColumnChain

/-! ## The faults of saving -/

/-- Work that ends in faults of one kind only. -/
def FailsAs {σ α : Type} (kind : FaultKind) (work : ExceptT Fault (StateM σ) α) : Prop :=
  ∀ state fault after, work.run.run state = (.error fault, after) → fault.kind = kind

namespace FailsAs

variable {σ α β : Type} {kind : FaultKind} {work : ExceptT Fault (StateM σ) α}
  {next : α → ExceptT Fault (StateM σ) β}

theorem bind (first : FailsAs kind work) (second : ∀ value, FailsAs kind (next value)) :
    FailsAs kind (work >>= next) := by
  intro state fault after run
  obtain ⟨ended, between, ran⟩ : ∃ ended between, work.run.run state = (ended, between) :=
    ⟨_, _, rfl⟩
  cases ended with
  | error other =>
      rw [run_bind_of_error ran] at run
      cases run
      exact first _ _ _ ran
  | ok value =>
      rw [run_bind_of_ok ran] at run
      exact second value _ _ _ run

theorem pure (value : α) : FailsAs kind (pure value : ExceptT Fault (StateM σ) α) := by
  intro state fault after run
  cases run

theorem throw {fault : Fault} (same : fault.kind = kind) :
    FailsAs kind (throw fault : ExceptT Fault (StateM σ) α) := by
  intro state other after run
  cases run
  exact same

theorem liftM (operation : StateM σ α) :
    FailsAs kind (liftM operation : ExceptT Fault (StateM σ) α) := by
  intro state fault after run
  obtain ⟨value, between, ran⟩ : ∃ value between, operation.run state = (value, between) :=
    ⟨_, _, rfl⟩
  rw [run_liftM ran] at run
  cases run

theorem attempt {operation : StateM σ (Except DiskError α)} {fault : DiskError → Fault}
    (same : ∀ error, (fault error).kind = kind) :
    FailsAs kind (Ledger.attempt operation fault) := by
  intro state other after run
  obtain ⟨ended, between, ran⟩ : ∃ ended between, operation.run state = (ended, between) :=
    ⟨_, _, rfl⟩
  cases ended with
  | ok value =>
      rw [Ledger.run_attempt_ok ran] at run
      cases run
  | error error =>
      rw [Ledger.run_attempt_error ran] at run
      cases run
      exact same error

end FailsAs

section Saving

variable {σ : Type} [Files (StateM σ)]

theorem Ledger.failsAs_makeParent (path : String) :
    FailsAs .persistence (makeParent path : ExceptT Fault (StateM σ) Unit) := by
  simp only [makeParent]
  split
  next => exact .pure ()
  next =>
    split
    next => exact .pure ()
    next =>
      refine .bind (.liftM _) fun present => ?_
      split
      next => exact .pure ()
      next => exact .attempt fun _ => rfl

theorem Ledger.failsAs_save (ledger : Ledger) (path : String) :
    FailsAs .persistence (ledger.save path : ExceptT Fault (StateM σ) Unit) :=
  .bind (failsAs_makeParent path) fun _ =>
    .bind (.attempt fun _ => rfl) fun _ =>
      .bind (.attempt fun _ => rfl) fun _ => .attempt fun _ => rfl

theorem Ledger.failsAs_load (path : String) :
    FailsAs .persistence (load path : ExceptT Fault (StateM σ) Ledger) := by
  refine .bind (.attempt fun error => ?_) fun bytes => ?_
  · cases error <;> rfl
  · split
    next => exact .pure _
    next => exact .throw rfl

/-- Saving a workspace fails as keeping it does. -/
theorem Workspace.failsAs_save (workspace : Workspace) (now : Instant) :
    FailsAs .persistence (workspace.save now : ExceptT Fault (StateM σ) Unit) := by
  refine .bind (.liftM _) fun present => ?_
  dsimp only
  split
  next =>
    exact .bind (Ledger.failsAs_load _) fun previous =>
      .bind (previous.failsAs_save _) fun _ => Ledger.failsAs_save _ _
  next => exact Ledger.failsAs_save _ _

end Saving

namespace Service

section Failing

variable {σ : Type} [Files (StateM σ)] {workspaces : Workspaces} {workspace : Workspace}
  {store : Store} {now : Instant} {response : Response} {state : σ}

theorem status_of_persistence {fault : Fault} (kind : fault.kind = .persistence) :
    (Response.ofFault fault).status = 500 := by
  simp only [Response.ofFault, kind]
  rfl

/-- How a commit ends. -/
theorem run_commit :
    (commit workspaces workspace store now response : StateM σ (Response × Workspaces)).run
        state =
      match ((Workspace.save { workspace with store } now :
          ExceptT Fault (StateM σ) Unit).run.run state) with
      | (.ok (), after) => ((response, workspaces.put { workspace with store }), after)
      | (.error fault, after) =>
          ((.ofFault fault, workspaces.put { workspace with store }), after) := by
  obtain ⟨ended, after, ran⟩ : ∃ ended after, (Workspace.save { workspace with store } now :
      ExceptT Fault (StateM σ) Unit).run.run state = (ended, after) := ⟨_, _, rfl⟩
  rw [commit, StateT.run_bind, ran]
  cases ended <;> rfl

/-- A request whose response does not report success leaves the workspaces as they are,
unless it made a call that was accepted, and the save of the changed workspace ended in a fault.
Then the response has the status 500 and tells the fault, and the workspaces are those that the
request leaves, with success, on any files where this save succeeds. -/
theorem workspaces_of_failure (engine : Engine) (workspaces : Workspaces) (moment : Moment)
    (request : Request) (state : σ)
    (fails : ¬ (serve engine workspaces moment request state).1.1.IsSuccess) :
    (serve engine workspaces moment request state).1.2 = workspaces ∨
      ∃ workspace ∈ workspaces.entries, ∃ call : Store.Operation, ∃ fault : Fault,
        let changed := { workspace with store := call.perform workspace.store }
        request.call? workspaces moment = some (workspace, call) ∧
        call.IsAt moment.now ∧ call.fault? workspace.store = none ∧
        ((changed.save moment.now : ExceptT Fault (StateM σ) Unit).run.run state).1 =
          .error fault ∧
        (serve engine workspaces moment request state).1.1 = .ofFault fault ∧
        (serve engine workspaces moment request state).1.1.status = 500 ∧
        (serve engine workspaces moment request state).1.2 = workspaces.put changed ∧
        ∀ (τ : Type) [Files (StateM τ)] (other : τ),
          ((changed.save moment.now : ExceptT Fault (StateM τ) Unit).run.run other).1 = .ok () →
            (serve engine workspaces moment request other).1.1.IsSuccess ∧
              (serve engine workspaces moment request other).1.2 = workspaces.put changed := by
  cases comesTo_handle engine workspaces moment request with
  | unchanged response same => exact Or.inl (congrArg (fun served => served.1.2) (same σ state))
  | @committed workspace response call makes member made accepted succeeds same =>
      -- On all files the request commits the call; they differ in how the save ends.
      have served (τ : Type) [Files (StateM τ)] (other : τ) :
          serve engine workspaces moment request other = _ := (same τ other).trans run_commit
      right
      rw [served] at fails ⊢
      split at fails
      next after ran => exact absurd succeeds fails
      next fault after ran =>
        have kind := Workspace.failsAs_save _ _ _ _ _ ran
        refine ⟨workspace, member, call, fault, makes, made, accepted, ?_, ?_, ?_, ?_, ?_⟩
        · rw [ran]
        · rfl
        · exact status_of_persistence kind
        · rfl
        · intro τ _ other saved
          rw [served]
          split
          next => exact ⟨succeeds, rfl⟩
          next unsaved =>
            rw [unsaved] at saved
            cases saved

end Failing

/-! ## A change that cannot be written -/

/-- A disk with a directory where a ledger is to be written. -/
def blockedDisk : Disk :=
  ⟨Keyed.empty.put ([".people.transforms.json.tmp"], .directory), []⟩

/-- A request that deletes a transformation. -/
def sampleDeletion : Request :=
  ⟨"DELETE", "/api/transformations/a?hard=true", none, ""⟩

/-- The sample fails to delete a transformation, and has deleted it. -/
theorem workspaces_of_failed_deletion :
    let served := serve Store.sampleEngine sampleWorkspaces sampleMoment sampleDeletion blockedDisk
    ¬ served.1.1.IsSuccess ∧
      ∃ workspace ∈ sampleWorkspaces.entries, ∃ call : Store.Operation, ∃ fault : Fault,
        let changed := { workspace with store := call.perform workspace.store }
        sampleDeletion.call? sampleWorkspaces sampleMoment = some (workspace, call) ∧
        call.IsAt sampleMoment.now ∧ call.fault? workspace.store = none ∧
        ((changed.save sampleMoment.now : ExceptT Fault (StateM Disk) Unit).run.run
          blockedDisk).1 = .error fault ∧
        served.1.1 = .ofFault fault ∧ served.1.1.status = 500 ∧
        served.1.2 = sampleWorkspaces.put changed ∧
        ∀ (τ : Type) [Files (StateM τ)] (other : τ),
          ((changed.save sampleMoment.now : ExceptT Fault (StateM τ) Unit).run.run other).1 =
            .ok () →
          let elsewhere := serve Store.sampleEngine sampleWorkspaces sampleMoment sampleDeletion
            other
          elsewhere.1.1.IsSuccess ∧ elsewhere.1.2 = sampleWorkspaces.put changed := by
  intro served
  have fails : ¬ served.1.1.IsSuccess := by decide +kernel
  have fewer : served.1.2.entries.map (fun workspace => workspace.store.size) ≠
      sampleWorkspaces.entries.map fun workspace => workspace.store.size := by decide +kernel
  have differ : served.1.2 ≠ sampleWorkspaces := fun same => fewer (by rw [same])
  exact ⟨fails, (workspaces_of_failure _ _ _ _ _ fails).resolve_left differ⟩

/-- A request for the list of transformations. -/
def sampleList : Request :=
  ⟨"GET", "/api/datasets/people/transformations", none, ""⟩

theorem asksList_sample : AsksList sampleList "people" where
  method := rfl
  route := ⟨"people".toList, nameOf_people, route_transformations⟩

/-- How many transformations a list of the sample has. -/
theorem length_listed {workspaces : Workspaces} {count : Nat}
    (stored : (workspaces.find? "people").map
      (fun workspace => (workspace.store.ofDataset "people").length) = some count)
    (disk : Disk) :
    ((serve Store.sampleEngine workspaces sampleMoment sampleList disk).1.1.body.getD
      .null).items.length = count := by
  obtain ⟨workspace, found, rfl⟩ := Option.map_eq_some_iff.1 stored
  rw [serve_list asksList_sample found]
  simp [Response.ok, Response.of, recordsJson, Json.items, Store.list]

/-- A change that was answered with a failure is served afterwards. -/
theorem listed_after_failure :
    let earlier := serve Store.sampleEngine sampleWorkspaces sampleMoment sampleList blockedDisk
    let failed := serve Store.sampleEngine earlier.1.2 sampleMoment sampleDeletion earlier.2
    let later := serve Store.sampleEngine failed.1.2 sampleMoment sampleList failed.2
    failed.1.1.status = 500 ∧ (earlier.1.1.body.getD .null).items.length = 2 ∧
      (later.1.1.body.getD .null).items.length = 1 := by
  have shown : serve Store.sampleEngine sampleWorkspaces sampleMoment sampleList blockedDisk =
      _ := serve_list asksList_sample find?_sampleWorkspaces blockedDisk
  intro earlier failed later
  have same : earlier.1.2 = sampleWorkspaces ∧ earlier.2 = blockedDisk := by
    simp only [earlier, shown]
    trivial
  simp only [later, failed, same]
  exact ⟨by decide +kernel, length_listed (by decide) blockedDisk,
    length_listed (by decide +kernel) _⟩

end Service
end ColumnChain
