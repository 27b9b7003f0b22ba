import ColumnChain.Proofs.Calls
import ColumnChain.Proofs.Extent

/-!
# What requests come to

A request leaves the workspaces and the files as they are, or it commits the call that it
makes, where this call succeeds, to the workspace that the call is for. Which of the two does
not depend on the files. So a request that is answered with a failure changes something only
where a commit cannot be written.
-/

namespace ColumnChain.Service

/-- Whether a response reports success. -/
def Response.IsSuccess (response : Response) : Prop :=
  200 ≤ response.status ∧ response.status < 300

instance (response : Response) : Decidable response.IsSuccess :=
  inferInstanceAs (Decidable (_ ∧ _))

theorem Response.isSuccess_ok (body : Json) : (Response.ok body).IsSuccess :=
  ⟨Nat.le_refl 200, by simp [ok, of]⟩

theorem Response.isSuccess_created (body : Json) : (Response.of 201 body).IsSuccess :=
  ⟨by simp [of], by simp [of]⟩

/-! ## The call that a request makes -/

/-- The call that an action makes on the store of a workspace, if the action is understood, is
one that makes a call, and finds the workspace. -/
def Action.call? (workspaces : Workspaces) (moment : Moment) (target : Target)
    (request : Request) : Action → Option (Workspace × Store.Operation)
  | .createTransformation dataset => do
      let id ← (nameOf dataset).toOption
      let proposal ← (readBody request.mediaType request.body (asProposalFor id)).toOption
      let workspace ← workspaces.find? id
      return (workspace, .create proposal (Transformation.freshId moment.token) moment.now)
  | .updateTransformation id => do
      let id ← (nameOf id).toOption
      let change ← (readBody request.mediaType request.body Json.asChange).toOption
      let workspace ← workspaces.owner? id
      return (workspace, .update id change moment.now)
  | .deleteTransformation id => do
      let id ← (nameOf id).toOption
      let hard ← target.flag? "hard"
      let workspace ← workspaces.owner? id
      return (workspace, .delete id (if hard then .hard else .soft) moment.now)
  | .reorderColumn dataset column => do
      let id ← (nameOf dataset).toOption
      let column ← (nameOf column).toOption
      let ids ← (readBody request.mediaType request.body asOrder).toOption
      let workspace ← workspaces.find? id
      return (workspace, .reorder id column ids moment.now)
  | .cleanUp dataset => do
      let id ← (nameOf dataset).toOption
      let workspace ← workspaces.find? id
      return (workspace, .cleanup id)
  | .listFunctions | .listDatasets | .listTransformations _ | .showPreview _ | .showDerived _ =>
      none

/-- The call that a request makes on the store of a workspace, if it makes one. -/
def Request.call? (request : Request) (workspaces : Workspaces) (moment : Moment) :
    Option (Workspace × Store.Operation) := do
  let target := Target.read request.target.toList
  let route ← Route.ofParts? target.parts
  let action ← route.action? request.method
  action.call? workspaces moment target request

/-! ## What is done on any files -/

/-- Something that a service does, on whatever files there are. -/
abbrev Handling := (σ : Type) → [Files (StateM σ)] → StateM σ (Response × Workspaces)

/-- What handling a request can come to, where the request makes a call: nothing is changed, or
the call is committed. -/
inductive ComesTo (workspaces : Workspaces) (now : Instant)
    (call? : Option (Workspace × Store.Operation)) (handling : Handling) : Prop where
  | unchanged (response : Response)
      (same : ∀ (σ : Type) [Files (StateM σ)] (state : σ),
        (handling σ).run state = ((response, workspaces), state))
  | committed {workspace : Workspace} {response : Response} {call : Store.Operation}
      (makes : call? = some (workspace, call)) (member : workspace ∈ workspaces.entries)
      (made : call.IsAt now) (accepted : call.fault? workspace.store = none)
      (succeeds : response.IsSuccess)
      (same : ∀ (σ : Type) [Files (StateM σ)] (state : σ), (handling σ).run state =
        (commit workspaces workspace (call.perform workspace.store) now response :
          StateM σ (Response × Workspaces)).run state)

theorem ComesTo.congr {workspaces : Workspaces} {now : Instant}
    {call? : Option (Workspace × Store.Operation)} {left right : Handling}
    (comesTo : ComesTo workspaces now call? left)
    (same : ∀ (σ : Type) [Files (StateM σ)] (state : σ),
      (right σ).run state = (left σ).run state) :
    ComesTo workspaces now call? right := by
  cases comesTo with
  | unchanged response before =>
      exact .unchanged response fun σ _ state => (same σ state).trans (before σ state)
  | committed makes member made accepted succeeds before =>
      exact .committed makes member made accepted succeeds fun σ _ state =>
        (same σ state).trans (before σ state)

section Handling

variable {engine : Engine} {workspaces : Workspaces} {workspace : Workspace} {moment : Moment}
  {request : Request} {now : Instant} {call? : Option (Workspace × Store.Operation)}

/-- The outcome of a call is committed, or it changes nothing. -/
theorem comesTo_commitOutcome {α : Type} {outcome : Store.Outcome α} {respond : α → Response}
    {call : Store.Operation} (makes : call? = some (workspace, call))
    (member : workspace ∈ workspaces.entries) (made : call.IsAt now) (short : call.IsShort)
    (fault : outcome.fault? = call.fault? workspace.store)
    (performed : outcome.2 = call.perform workspace.store)
    (succeeds : ∀ value, (respond value).IsSuccess) :
    ComesTo workspaces now call? fun _ =>
      commitOutcome workspaces workspace now respond outcome := by
  obtain ⟨answer, store⟩ := outcome
  dsimp only at performed
  subst performed
  cases answer with
  | ok value => exact .committed makes member made fault.symm (succeeds value) fun _ _ _ => rfl
  | error other =>
      have kept : call.perform workspace.store = workspace.store :=
        (Store.perform_of_fault fault.symm).resolve_right fun ⟨long, _⟩ => long short
      have same : workspaces.put { workspace with store := call.perform workspace.store } =
          workspaces := by
        rw [kept]
        exact Keyed.put_of_mem member
      refine .unchanged (.ofFault other) fun σ _ state => ?_
      rw [commitOutcome, same]
      rfl

theorem comesTo_withWorkspace {id : String} {act : Workspace → Handling}
    (acts : ∀ workspace, workspaces.find? id = some workspace →
      workspace ∈ workspaces.entries → ComesTo workspaces now call? (act workspace)) :
    ComesTo workspaces now call? fun σ _ =>
      withWorkspace workspaces id fun workspace => act workspace σ := by
  simp only [withWorkspace]
  cases found : workspaces.find? id with
  | some workspace => exact acts workspace found (Keyed.find?_eq_some_iff.1 found).1
  | none => exact .unchanged _ fun _ _ _ => rfl

theorem comesTo_withOwner {id : String} {act : Workspace → Handling}
    (acts : ∀ workspace, workspaces.owner? id = some workspace →
      workspace ∈ workspaces.entries → ComesTo workspaces now call? (act workspace)) :
    ComesTo workspaces now call? fun σ _ =>
      withOwner workspaces id fun workspace => act workspace σ := by
  simp only [withOwner]
  cases found : workspaces.owner? id with
  | some workspace => exact acts workspace found (List.mem_of_find?_eq_some found)
  | none => exact .unchanged _ fun _ _ _ => rfl

/-- What only shows something of a workspace changes nothing. -/
theorem comesTo_showing {id : String} {respond : Workspace → Response} :
    ComesTo workspaces now call? fun _ => showing workspaces id respond :=
  comesTo_withWorkspace fun workspace _ _ => .unchanged (respond workspace) fun _ _ _ => rfl

/-! ## What is prepared on any files -/

/-- What is prepared is rejected on all files, or is on all of them something to do that comes
to what a request can come to. -/
def Prepares (workspaces : Workspaces) (now : Instant)
    (call? : Option (Workspace × Store.Operation))
    (prepared : (σ : Type) → [Files (StateM σ)] →
      Except Rejection (StateM σ (Response × Workspaces))) : Prop :=
  (∃ rejection, ∀ (σ : Type) [Files (StateM σ)], prepared σ = .error rejection) ∨
    ∃ handling : Handling, (∀ (σ : Type) [Files (StateM σ)], prepared σ = .ok (handling σ)) ∧
      ComesTo workspaces now call? handling

namespace Prepares

theorem ok {handling : Handling} (comesTo : ComesTo workspaces now call? handling) :
    Prepares workspaces now call? fun σ _ => .ok (handling σ) :=
  Or.inr ⟨handling, fun _ _ => rfl, comesTo⟩

theorem bind {α : Type} {check : Except Rejection α}
    {next : α → (σ : Type) → [Files (StateM σ)] →
      Except Rejection (StateM σ (Response × Workspaces))}
    (rest : ∀ value, check = .ok value → Prepares workspaces now call? (next value)) :
    Prepares workspaces now call? fun σ _ => check >>= fun value => next value σ := by
  cases checked : check with
  | error rejection => exact Or.inl ⟨rejection, fun _ _ => rfl⟩
  | ok value => exact rest value checked

end Prepares

/-- What an action is prepared to do. -/
theorem prepares_prepare (engine : Engine) (workspaces : Workspaces) (moment : Moment)
    (target : Target) (request : Request) (action : Action) :
    Prepares workspaces moment.now (action.call? workspaces moment target request)
      fun _ => prepare engine workspaces moment target request action := by
  cases action with
  | listFunctions => exact .ok (.unchanged _ fun _ _ _ => rfl)
  | listDatasets => exact .ok (.unchanged _ fun _ _ _ => rfl)
  | listTransformations dataset => exact .bind fun id _ => .ok comesTo_showing
  | showPreview dataset =>
      exact .bind fun id _ => .bind fun body _ => .ok comesTo_showing
  | showDerived dataset =>
      refine .bind fun id _ => ?_
      cases target.count? "limit" with
      | none => exact Or.inl ⟨_, fun _ _ => rfl⟩
      | some limit => exact .ok comesTo_showing
  | createTransformation dataset =>
      refine .bind fun id named => .bind fun proposal understood =>
        .ok (comesTo_withWorkspace fun workspace found member => ?_)
      have makes : Action.call? workspaces moment target request (.createTransformation dataset) =
          some (workspace,
            .create proposal (Transformation.freshId moment.token) moment.now) := by
        simp [Action.call?, Except.toOption, named, understood, found]
      split
      next =>
        exact comesTo_commitOutcome makes member rfl trivial rfl rfl fun _ =>
          Response.isSuccess_created _
      next => exact .unchanged _ fun _ _ _ => rfl
  | updateTransformation part =>
      refine .bind fun id named => .bind fun change understood =>
        .ok (comesTo_withOwner fun workspace found member => ?_)
      have makes : Action.call? workspaces moment target request (.updateTransformation part) =
          some (workspace, .update id change moment.now) := by
        simp [Action.call?, Except.toOption, named, understood, found]
      exact comesTo_commitOutcome makes member rfl trivial rfl rfl fun _ =>
        Response.isSuccess_ok _
  | deleteTransformation part =>
      refine .bind fun id named => ?_
      cases flag : target.flag? "hard" with
      | none => exact Or.inl ⟨_, fun _ _ => rfl⟩
      | some hard =>
          refine .ok (comesTo_withOwner fun workspace found member => ?_)
          have makes : Action.call? workspaces moment target request (.deleteTransformation part) =
              some (workspace, .delete id (if hard then .hard else .soft) moment.now) := by
            simp [Action.call?, Except.toOption, named, flag, found]
          exact comesTo_commitOutcome makes member rfl trivial rfl rfl fun _ =>
            Response.isSuccess_ok _
  | reorderColumn dataset column =>
      refine .bind fun id named => .bind fun name namedColumn => .bind fun ids understood =>
        .ok (comesTo_withWorkspace fun workspace found member => ?_)
      have makes : Action.call? workspaces moment target request (.reorderColumn dataset column) =
          some (workspace, .reorder id name ids moment.now) := by
        simp [Action.call?, Except.toOption, named, namedColumn, understood, found]
      exact comesTo_commitOutcome makes member rfl
        ((length_of_readBody understood).trans_le (Nat.sub_le _ _)) rfl rfl fun _ =>
          Response.isSuccess_ok _
  | cleanUp dataset =>
      refine .bind fun id named =>
        .ok (comesTo_withWorkspace fun workspace found member => ?_)
      have makes : Action.call? workspaces moment target request (.cleanUp dataset) =
          some (workspace, .cleanup id) := by
        simp [Action.call?, Except.toOption, named, found]
      cases removed : (workspace.store.cleanup id).1 with
      | zero =>
          refine .unchanged (.ok (.object [("deleted", Json.ofNat 0)])) fun σ _ state => ?_
          simp only [removed, if_true]
          rfl
      | succ count =>
          refine .committed makes member trivial rfl (Response.isSuccess_ok
            (.object [("deleted", Json.ofNat (count + 1))])) fun σ _ state => ?_
          simp only [removed, Nat.succ_ne_zero, if_false]
          rfl

/-- What is asked for with `GET` makes no call. -/
theorem call?_of_get {route : Route} {action : Action} {target : Target}
    (acts : route.action? "GET" = some action) :
    action.call? workspaces moment target request = none := by
  cases route <;> simp [Route.action?] at acts <;> subst acts <;> rfl

/-- What any request comes to. -/
theorem comesTo_handle (engine : Engine) (workspaces : Workspaces) (moment : Moment)
    (request : Request) :
    ComesTo workspaces moment.now (request.call? workspaces moment) fun _ =>
      handle engine workspaces moment request := by
  by_cases options : request.method = "OPTIONS"
  · exact .unchanged ⟨200, none⟩ fun σ _ state => by
      rw [handle, if_pos options]
      rfl
  cases routed : Route.ofParts? (Target.read request.target.toList).parts with
  | none =>
      exact .unchanged (.ofRejection .noRoute) fun σ _ state => by
        simp only [handle, if_neg options, routed]
        rfl
  | some route =>
      cases acts : route.action?
          (if request.method = "HEAD" then "GET" else request.method) with
      | none =>
          exact .unchanged (.ofRejection .badMethod) fun σ _ state => by
            simp only [handle, if_neg options, routed, acts]
            rfl
      | some action =>
          rcases prepares_prepare engine workspaces moment (Target.read request.target.toList)
            request action with ⟨rejection, rejected⟩ | ⟨handling, prepared, comesTo⟩
          · exact .unchanged (.ofRejection rejection) fun σ _ state => by
              simp only [handle, if_neg options, routed, acts, rejected]
              rfl
          have handled (σ : Type) [Files (StateM σ)] :=
            run_handle options routed acts (prepared σ)
          by_cases isHead : request.method = "HEAD"
          · rw [if_pos isHead] at acts
            cases comesTo with
            | unchanged response same =>
                exact .unchanged { response with body := none } fun σ _ state => by
                  rw [handled, same]
                  simp only [isHead, if_true]
            | committed makes =>
                rw [call?_of_get acts] at makes
                cases makes
          · rw [if_neg isHead] at acts
            have makes : request.call? workspaces moment =
                action.call? workspaces moment (Target.read request.target.toList) request := by
              simp [Request.call?, routed, acts]
            rw [makes]
            refine comesTo.congr fun σ _ state => ?_
            simp only [handled, isHead, if_false]
            rfl

end Handling
end ColumnChain.Service
