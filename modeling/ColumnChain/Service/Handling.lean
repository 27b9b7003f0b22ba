import ColumnChain.Service.Body
import ColumnChain.Service.Route
import ColumnChain.Service.Workspaces

/-!
# Handling requests

What the service answers, and what its workspaces and ledgers are afterwards. A change
of a store is made first and written to the ledger then. A response has a body that is
JSON, or none: a request that does not get as far as an action has a response without a
body.
-/

namespace ColumnChain.Service

/-- A request. -/
structure Request where
  method : String
  target : String
  mediaType : Option String
  body : String

/-- A response. -/
structure Response where
  status : Nat
  body : Option Json

namespace Response

/-- A response of a status. -/
def of (status : Nat) (body : Json) : Response :=
  ⟨status, some body⟩

/-- A successful response. -/
def ok (body : Json) : Response :=
  of 200 body

/-- The response to a request that is not understood. -/
def ofRejection (rejection : Rejection) : Response :=
  ⟨rejection.status, none⟩

/-- A response that says what is wrong. -/
def failure (status : Nat) (error message : String) : Response :=
  of status (.object [("error", .text error), ("message", .text message)])

/-- The response when there is nothing of this kind with this name. -/
def notFound (kind name : String) : Response :=
  failure 404 "not_found" (kind ++ " not found: " ++ name)

/-- The response when a dataset does not have a column. -/
def noColumn (column dataset : String) : Response :=
  failure 400 "bad_request"
    ("Column '" ++ column ++ "' not found in dataset '" ++ dataset ++ "'")

/-- What stands for a response where the program breaks off: there is none, and the
connection is closed. The service goes on with the next request. -/
def missing : Response :=
  ⟨0, none⟩

/-- The response to a fault. -/
def ofFault (fault : Fault) : Response :=
  match fault.kind with
  | .notFound => failure 404 "not_found" fault.message
  | .duplicateFunction => failure 409 "duplicate_function" fault.message
  | .incompleteReorder => failure 422 "incomplete_reorder" fault.message
  | .invalidUpdate => failure 422 "invalid_update" fault.message
  | .io | .csv | .json | .emptyData | .persistence | .config =>
      failure 500 "internal" fault.message
  | .breakdown => missing

end Response

/-- How many derived rows are shown when a request does not say. -/
def defaultRows : Nat := 100

/-- The JSON value of what is listed about a workspace. -/
def summary (workspace : Workspace) : Json :=
  .object [
    ("id", .text workspace.id),
    ("row_count", Json.ofNat workspace.dataset.rows.length),
    ("columns", .list (workspace.dataset.columns.map Column.toJson)),
    ("transformations", Json.ofNat (workspace.store.ofDataset workspace.id).length)]

/-- The JSON value of transformations. -/
def recordsJson (records : List Transformation) : Json :=
  .list (records.map Transformation.toJson)

/-- The preview that a request asks for. -/
def previewOf (engine : Engine) (draws : Draws) (workspace : Workspace)
    (body : PreviewBody) : Response :=
  let trial : Trial := {
    column := body.column
    expression := body.expression
    samples := body.samples.getD []
    context := if body.samples.isSome then [] else workspace.dataset.rows
    output := body.output }
  if body.samples.isNone && !workspace.dataset.hasColumn body.column then
    .noColumn body.column workspace.id
  else
    let preview :=
      if body.standalone then Preview.alone engine draws trial
      else Preview.onChain engine draws (workspace.store.pipeline workspace.id body.column)
        trial
    .ok preview.toJson

/-- The derived rows that a request asks for. -/
def derivedOf (engine : Engine) (draws : Draws) (workspace : Workspace)
    (limit : Nat) : Response :=
  let rows := workspace.dataset.derive workspace.store engine draws
  .ok (.object [
    ("columns", .list ((workspace.derivedColumns rows).map Json.text)),
    ("rows", .list ((rows.take limit).map Row.toJson)),
    ("total_rows", Json.ofNat rows.length),
    ("truncated", .bool (limit < rows.length))])

variable {m : Type → Type} [Monad m] [Files m]

/-- Keep a changed store in its workspace and write it to the ledger. The change stays
also when it cannot be written. -/
def commit (workspaces : Workspaces) (workspace : Workspace) (store : Store)
    (now : Instant) (response : Response) : m (Response × Workspaces) := do
  let workspace := { workspace with store }
  let workspaces := workspaces.put workspace
  match ← (workspace.save now).run with
  | .ok () => return (response, workspaces)
  | .error fault => return (.ofFault fault, workspaces)

/-- Commit the outcome of a change, unless it is a fault. A store that was changed before
the fault is kept, but not written. -/
def commitOutcome {α : Type} (workspaces : Workspaces) (workspace : Workspace)
    (now : Instant) (respond : α → Response) :
    Store.Outcome α → m (Response × Workspaces)
  | (.ok value, store) => commit workspaces workspace store now (respond value)
  | (.error fault, store) =>
      return (.ofFault fault, workspaces.put { workspace with store })

/-- The text of a part of a path. -/
def nameOf (part : List Char) : Except Rejection String :=
  match unescapePart? part with
  | some name => .ok name
  | none => .error .badRequest

/-- Go on with a workspace, if there is one of this id. -/
def withWorkspace (workspaces : Workspaces) (id : String)
    (act : Workspace → m (Response × Workspaces)) : m (Response × Workspaces) :=
  match workspaces.find? id with
  | some workspace => act workspace
  | none => return (.notFound "Dataset" id, workspaces)

/-- Go on with the workspace that holds a transformation, if there is one. -/
def withOwner (workspaces : Workspaces) (id : String)
    (act : Workspace → m (Response × Workspaces)) : m (Response × Workspaces) :=
  match workspaces.owner? id with
  | some workspace => act workspace
  | none => return (.notFound "Transformation" id, workspaces)

/-- Answer with what a workspace shows. -/
def showing (workspaces : Workspaces) (id : String) (respond : Workspace → Response) :
    m (Response × Workspaces) :=
  withWorkspace workspaces id fun workspace => return (respond workspace, workspaces)

/-- Understand an action and the body that goes with it; the result is what to do. -/
def prepare (engine : Engine) (workspaces : Workspaces) (moment : Moment) (target : Target)
    (request : Request) :
    Action → Except Rejection (m (Response × Workspaces))
  | .listFunctions =>
      return pure (.ok (.list (Catalog.entries.map Entry.toJson)), workspaces)
  | .listDatasets =>
      return pure (.ok (.list (workspaces.entries.map summary)), workspaces)
  | .listTransformations dataset => do
      let id ← nameOf dataset
      return showing workspaces id fun workspace =>
        .ok (recordsJson (workspace.store.list id))
  | .createTransformation dataset => do
      let id ← nameOf dataset
      let proposal ← readBody request.mediaType request.body (asProposalFor id)
      return withWorkspace workspaces id fun workspace =>
        if workspace.dataset.hasColumn proposal.column then
          commitOutcome workspaces workspace moment.now
            (fun t => .of 201 (Transformation.toJson t))
            (workspace.store.create proposal (Transformation.freshId moment.token) moment.now)
        else return (.noColumn proposal.column id, workspaces)
  | .updateTransformation id => do
      let id ← nameOf id
      let change ← readBody request.mediaType request.body Json.asChange
      return withOwner workspaces id fun workspace =>
        commitOutcome workspaces workspace moment.now
          (fun t => .ok (Transformation.toJson t))
          (workspace.store.update id change moment.now)
  | .deleteTransformation id => do
      let id ← nameOf id
      match target.flag? "hard" with
      | none => throw .badRequest
      | some hard =>
          return withOwner workspaces id fun workspace =>
            commitOutcome workspaces workspace moment.now
              (fun t => .ok (Transformation.toJson t))
              (workspace.store.delete id (if hard then .hard else .soft) moment.now)
  | .reorderColumn dataset column => do
      let id ← nameOf dataset
      let column ← nameOf column
      let ids ← readBody request.mediaType request.body asOrder
      return withWorkspace workspaces id fun workspace =>
        commitOutcome workspaces workspace moment.now (fun chain => .ok (recordsJson chain))
          (workspace.store.reorder id column ids moment.now)
  | .cleanUp dataset => do
      let id ← nameOf dataset
      return withWorkspace workspaces id fun workspace =>
        let (removed, store) := workspace.store.cleanup id
        let response := Response.ok (.object [("deleted", Json.ofNat removed)])
        if removed = 0 then return (response, workspaces)
        else commit workspaces workspace store moment.now response
  | .showPreview dataset => do
      let id ← nameOf dataset
      let body ← readBody request.mediaType request.body asPreviewBody
      return showing workspaces id fun workspace =>
        previewOf engine moment.draws workspace body
  | .showDerived dataset => do
      let id ← nameOf dataset
      match target.count? "limit" with
      | none => throw .badRequest
      | some limit =>
          return showing workspaces id fun workspace =>
            derivedOf engine moment.draws workspace (limit.getD defaultRows)

/-- Answer a request. The head of a response is asked for like the response, but comes
without its body; asking for the options is always granted. -/
def handle (engine : Engine) (workspaces : Workspaces) (moment : Moment)
    (request : Request) : m (Response × Workspaces) := do
  if request.method = "OPTIONS" then return (⟨200, none⟩, workspaces)
  let target := Target.read request.target.toList
  let isHead := request.method = "HEAD"
  let method := if isHead then "GET" else request.method
  match Route.ofParts? target.parts with
  | none => return (.ofRejection .noRoute, workspaces)
  | some route =>
      match route.action? method with
      | none => return (.ofRejection .badMethod, workspaces)
      | some action =>
          match prepare engine workspaces moment target request action with
          | .error rejection => return (.ofRejection rejection, workspaces)
          | .ok act =>
              let (response, workspaces) ← act
              return (if isHead then { response with body := none } else response, workspaces)

end ColumnChain.Service
