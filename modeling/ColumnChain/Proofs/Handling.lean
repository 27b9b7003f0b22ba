import ColumnChain.Proofs.Operations
import ColumnChain.Service.Handling

/-!
# Handling requests

What the service does with requests that are understood: a request that shows something
leaves the workspaces as they are, and a creation that succeeds leaves the store with the
created record in its workspace, whatever the disk does.
-/

namespace ColumnChain

/-! ## Reading responses -/

namespace Json

/-- The value of a member of an object; null where there is none. -/
def part : Json → String → Json
  | .object members, key => (member? members key).getD .null
  | _, _ => .null

/-- The items of a list. -/
def items : Json → List Json
  | .list items => items
  | _ => []

end Json

/-- A row as JSON has the cells of the row; a column it does not have is null in both. -/
theorem Row.part_toJson (row : Row) (name : String) :
    (Row.toJson row).part name = (Row.get row name).toJson := by
  simp only [Row.toJson, Json.part, Json.member?, Row.get, Row.get?, Keyed.find?,
    List.find?_map, Option.map_map]
  cases found : row.entries.find? fun entry => entry.1 == name with
  | none => simp [Function.comp_def, found, Cell.toJson]
  | some entry => simp [Function.comp_def, found]

namespace Service

/-- A part of the body of a response. -/
def Response.part (response : Response) (key : String) : Json :=
  (response.body.getD .null).part key

/-! ## Requests that are understood -/

section Requests

variable {request : Request} {id : String}

/-- A request for a preview on a dataset. -/
structure AsksPreview (request : Request) (id : String) (body : PreviewBody) : Prop where
  method : request.method = "POST"
  route : ∃ dataset, nameOf dataset = .ok id ∧
    Route.ofParts? (Target.read request.target.toList).parts = some (.preview dataset)
  body : readBody request.mediaType request.body asPreviewBody = .ok body

/-- A request to attach an expression to a column of a dataset. -/
structure AsksCreation (request : Request) (id : String) (proposal : Proposal) : Prop where
  method : request.method = "POST"
  route : ∃ dataset, nameOf dataset = .ok id ∧
    Route.ofParts? (Target.read request.target.toList).parts = some (.transformations dataset)
  body : readBody request.mediaType request.body (asProposalFor id) = .ok proposal

/-- A request for the transformations of a dataset. -/
structure AsksList (request : Request) (id : String) : Prop where
  method : request.method = "GET"
  route : ∃ dataset, nameOf dataset = .ok id ∧
    Route.ofParts? (Target.read request.target.toList).parts = some (.transformations dataset)

/-- A request for the derived rows of a dataset. -/
structure AsksDerived (request : Request) (id : String) (limit : Option Nat) : Prop where
  method : request.method = "GET"
  route : ∃ dataset, nameOf dataset = .ok id ∧
    Route.ofParts? (Target.read request.target.toList).parts = some (.derived dataset)
  limit : (Target.read request.target.toList).count? "limit" = some limit

end Requests

/-! ## What the service does -/

/-- The response to a request, with the workspaces and the state of the files afterwards. -/
def serve {σ : Type} [Files (StateM σ)] (engine : Engine) (workspaces : Workspaces)
    (moment : Moment) (request : Request) (state : σ) : (Response × Workspaces) × σ :=
  (handle engine workspaces moment request : StateM σ (Response × Workspaces)).run state

section Handling

variable {σ : Type} [Files (StateM σ)] {engine : Engine} {workspaces : Workspaces}
  {workspace : Workspace} {moment : Moment} {request : Request} {id : String}

/-- A request is handled by doing what its action is prepared to do. The response to a request
for the head is that of the whole without its body. -/
theorem run_handle {route : Route} {action : Action} {act : StateM σ (Response × Workspaces)}
    (notOptions : request.method ≠ "OPTIONS")
    (routed : Route.ofParts? (Target.read request.target.toList).parts = some route)
    (acts : route.action? (if request.method = "HEAD" then "GET" else request.method) =
      some action)
    (prepared : prepare engine workspaces moment (Target.read request.target.toList) request
      action = .ok act) (state : σ) :
    (handle engine workspaces moment request : StateM σ (Response × Workspaces)).run state =
      let ((response, later), files) := act.run state
      ((if request.method = "HEAD" then { response with body := none } else response, later),
        files) := by
  simp only [handle, notOptions, if_false, routed, acts, prepared, StateT.run_bind]
  rfl

theorem serve_of_prepare {route : Route} {action : Action}
    {act : StateM σ (Response × Workspaces)}
    (method : request.method = "POST" ∨ request.method = "GET")
    (routed : Route.ofParts? (Target.read request.target.toList).parts = some route)
    (acts : route.action? request.method = some action)
    (prepared : prepare engine workspaces moment (Target.read request.target.toList) request
      action = .ok act) (state : σ) :
    serve engine workspaces moment request state = act.run state := by
  have notOptions : request.method ≠ "OPTIONS" := by
    rcases method with same | same <;> simp [same]
  have notHead : request.method ≠ "HEAD" := by
    rcases method with same | same <;> simp [same]
  rw [serve, run_handle notOptions routed (by rwa [if_neg notHead]) prepared]
  simp only [if_neg notHead]
  rfl

/-- What only shows something of a workspace changes nothing. -/
theorem serve_showing {route : Route} {action : Action} (respond : Workspace → Response)
    (method : request.method = "POST" ∨ request.method = "GET")
    (routed : Route.ofParts? (Target.read request.target.toList).parts = some route)
    (acts : route.action? request.method = some action)
    (prepared : prepare engine workspaces moment (Target.read request.target.toList) request
      action = .ok (showing workspaces id respond : StateM σ (Response × Workspaces)))
    (stored : workspaces.find? id = some workspace) (state : σ) :
    serve engine workspaces moment request state = ((respond workspace, workspaces), state) := by
  rw [serve_of_prepare method routed acts prepared]
  simp only [showing, withWorkspace, stored]
  rfl

theorem serve_preview {body : PreviewBody} (asks : AsksPreview request id body)
    (stored : workspaces.find? id = some workspace) (state : σ) :
    serve engine workspaces moment request state =
      ((previewOf engine moment.draws workspace body, workspaces), state) := by
  obtain ⟨method, ⟨dataset, named, routed⟩, understood⟩ := asks
  have acts : (Route.preview dataset).action? request.method = some (.showPreview dataset) := by
    simp [Route.action?, method]
  refine serve_showing (fun workspace => previewOf engine moment.draws workspace body)
    (Or.inl method) routed acts ?_ stored state
  simp only [prepare, named, understood]
  rfl

theorem serve_list (asks : AsksList request id) (stored : workspaces.find? id = some workspace)
    (state : σ) :
    serve engine workspaces moment request state =
      ((.ok (recordsJson (workspace.store.list id)), workspaces), state) := by
  obtain ⟨method, dataset, named, routed⟩ := asks
  have acts : (Route.transformations dataset).action? request.method =
      some (.listTransformations dataset) := by
    simp [Route.action?, method]
  refine serve_showing (fun workspace => .ok (recordsJson (workspace.store.list id)))
    (Or.inr method) routed acts ?_ stored state
  simp only [prepare, named]
  rfl

theorem serve_derived {limit : Option Nat} (asks : AsksDerived request id limit)
    (stored : workspaces.find? id = some workspace) (state : σ) :
    serve engine workspaces moment request state =
      ((derivedOf engine moment.draws workspace (limit.getD defaultRows), workspaces),
        state) := by
  obtain ⟨method, ⟨dataset, named, routed⟩, understood⟩ := asks
  have acts : (Route.derived dataset).action? request.method = some (.showDerived dataset) := by
    simp [Route.action?, method]
  refine serve_showing
    (fun workspace => derivedOf engine moment.draws workspace (limit.getD defaultRows))
    (Or.inr method) routed acts ?_ stored state
  simp only [prepare, named, understood]
  rfl

theorem serve_creation {proposal : Proposal} (asks : AsksCreation request id proposal)
    (stored : workspaces.find? id = some workspace) (state : σ) :
    serve engine workspaces moment request state =
      (if workspace.dataset.hasColumn proposal.column then
        commitOutcome workspaces workspace moment.now
          (fun t => .of 201 (Transformation.toJson t))
          (workspace.store.create proposal (Transformation.freshId moment.token) moment.now)
      else return (.noColumn proposal.column id, workspaces) :
        StateM σ (Response × Workspaces)).run state := by
  obtain ⟨method, ⟨dataset, named, routed⟩, understood⟩ := asks
  have acts : (Route.transformations dataset).action? request.method =
      some (.createTransformation dataset) := by
    simp [Route.action?, method]
  have prepared : prepare engine workspaces moment (Target.read request.target.toList) request
      (.createTransformation dataset) = .ok (withWorkspace workspaces id fun workspace =>
        if workspace.dataset.hasColumn proposal.column then
          commitOutcome workspaces workspace moment.now
            (fun t => .of 201 (Transformation.toJson t))
            (workspace.store.create proposal (Transformation.freshId moment.token) moment.now)
        else return (.noColumn proposal.column id, workspaces) :
          StateM σ (Response × Workspaces)) := by
    simp only [prepare, named, bind, Except.bind, understood]
    rfl
  rw [serve_of_prepare (Or.inl method) routed acts prepared]
  simp only [withWorkspace, stored]

/-- A commit keeps the changed store, also when it cannot be written. -/
theorem workspaces_commit (store : Store) (now : Instant) (response : Response) (state : σ) :
    ((commit workspaces workspace store now response :
      StateM σ (Response × Workspaces)).run state).1.2 =
        workspaces.put { workspace with store } := by
  simp only [commit, StateT.run_bind]
  generalize StateT.run (ExceptT.run (Workspace.save { workspace with store } now) :
    StateM σ (Except Fault Unit)) state = saved
  obtain ⟨result, files⟩ := saved
  cases result <;> rfl

theorem status_ofFault_ne (fault : Fault) : (Response.ofFault fault).status ≠ 201 := by
  simp only [Response.ofFault]
  cases fault.kind <;> simp [Response.failure, Response.of, Response.missing]

/-- A proposal in a body is one for the dataset of the path. -/
theorem dataset_of_asProposalFor {json : Json} {proposal : Proposal}
    (understood : asProposalFor id json = .ok proposal) : proposal.dataset = id := by
  obtain ⟨fields, -, withColumn⟩ := Store.bind_eq_ok.1 understood
  obtain ⟨column, -, withExpression⟩ := Store.bind_eq_ok.1 withColumn
  obtain ⟨expression, -, withStatus⟩ := Store.bind_eq_ok.1 withExpression
  obtain ⟨status, -, withOutput⟩ := Store.bind_eq_ok.1 withStatus
  obtain ⟨output, -, complete⟩ := Store.bind_eq_ok.1 withOutput
  cases complete
  rfl

/-- A body that is understood is not too long, and it describes what is understood. -/
theorem decode_of_readBody {α : Type} {mediaType : Option String} {body : String}
    {decode : Json.Decoder α} {value : α}
    (understood : readBody mediaType body decode = .ok value) :
    body.utf8ByteSize ≤ longestBody ∧ decode (Json.read body.toList).1 = .ok value := by
  simp only [readBody] at understood
  split at understood
  next => cases understood
  next =>
    split at understood
    next => cases understood
    next short =>
      refine ⟨Nat.le_of_not_lt short, ?_⟩
      split at understood
      next decoded =>
        cases understood
        exact decoded
      next => cases understood
      next => cases understood

theorem AsksCreation.dataset {proposal : Proposal} (asks : AsksCreation request id proposal) :
    proposal.dataset = id :=
  dataset_of_asProposalFor (decode_of_readBody asks.body).2

/-- A creation that the store accepts is committed. -/
theorem serve_creation_of_ok {proposal : Proposal} (asks : AsksCreation request id proposal)
    (stored : workspaces.find? id = some workspace)
    (inDataset : workspace.dataset.hasColumn proposal.column = true) {t : Transformation}
    {committed : Store}
    (created : workspace.store.create proposal (Transformation.freshId moment.token)
      moment.now = (.ok t, committed)) (state : σ) :
    serve engine workspaces moment request state =
      (commit workspaces workspace committed moment.now (.of 201 t.toJson) :
        StateM σ (Response × Workspaces)).run state := by
  rw [serve_creation asks stored, if_pos inDataset, created]
  rfl

/-- Where a creation succeeds, the store has the created record from then on. -/
theorem created_of_status {proposal : Proposal} (asks : AsksCreation request id proposal)
    (stored : workspaces.find? id = some workspace) {state : σ}
    (succeeds : (serve engine workspaces moment request state).1.1.status = 201) :
    ∃ t committed,
      workspace.store.create proposal (Transformation.freshId moment.token) moment.now =
        (.ok t, committed) ∧
      (serve engine workspaces moment request state).1.2 =
        workspaces.put { workspace with store := committed } := by
  rw [serve_creation asks stored] at succeeds ⊢
  split at succeeds
  next inDataset =>
    rw [if_pos inDataset]
    cases created : workspace.store.create proposal (Transformation.freshId moment.token)
        moment.now with
    | mk answer committed =>
        rw [created] at succeeds
        cases answer with
        | error fault => exact absurd succeeds (status_ofFault_ne fault)
        | ok t => exact ⟨t, committed, rfl, workspaces_commit _ _ _ _⟩
  next =>
    change 400 = 201 at succeeds
    omega

end Handling

end Service
end ColumnChain
