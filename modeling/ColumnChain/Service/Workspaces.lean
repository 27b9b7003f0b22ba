import ColumnChain.Workspace

/-!
# Workspaces by id

The workspaces that are served together. They are found by the id of their dataset, and
listed in the order of the ids.
-/

namespace ColumnChain.Service

/-- Workspaces by id. -/
abbrev Workspaces := Keyed Workspace Workspace.id

namespace Workspaces

variable {m : Type → Type} [Monad m] [Files m]

/-- The first id that is in a list for a second time. -/
def repeated? (seen : List String) : List String → Option String
  | [] => none
  | id :: rest => if seen.contains id then some id else repeated? (id :: seen) rest

/-- Workspaces in the order of their ids, which have to be different. -/
def ofList (workspaces : List Workspace) : Except Fault Workspaces :=
  match repeated? [] (workspaces.map Workspace.id) with
  | some id => .error (.sharedDataset id)
  | none => .ok (Keyed.ofList (workspaces.mergeSort fun left right => left.id ≤ right.id))

/-- The workspaces of some data files. -/
def ofFiles (now : Instant) (paths : List String) : ExceptT Fault m Workspaces := do
  let workspaces ← paths.mapM (Workspace.ofFile now)
  ExceptT.mk (pure (ofList workspaces))

/-- The workspace that holds a transformation. -/
def owner? (workspaces : Workspaces) (id : String) : Option Workspace :=
  workspaces.entries.find? fun workspace => workspace.store.contains id

end Workspaces
end ColumnChain.Service
