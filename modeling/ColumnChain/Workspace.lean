import ColumnChain.Delimited.File
import ColumnChain.Ledger

/-!
# Workspaces

A dataset together with its store of transformations, which is kept in a ledger beside
the data file.
-/

namespace ColumnChain

/-- What work finds besides the data: the time, and what the random source yields. -/
structure Moment where
  now : Instant
  token : Token 12
  draws : Draws

/-- A dataset and its store. -/
structure Workspace where
  dataset : Dataset
  store : Store
  /-- The path of the ledger. -/
  ledger : String

namespace Workspace

variable {m : Type → Type} [Monad m] [Files m]

/-- The id of a workspace is that of its dataset. -/
def id (workspace : Workspace) : String :=
  workspace.dataset.id

/-- The workspace of a data file. -/
def ofFile (now : Instant) (path : String) : ExceptT Fault m Workspace := do
  let dataset ← Delimited.loadFile {} path now
  let ledger := Ledger.pathFor path
  return { dataset, store := ← Store.loadOrEmpty ledger, ledger }

/-- Write the store to the ledger, and the ledger that was there to its history. -/
def save (workspace : Workspace) (now : Instant) : ExceptT Fault m Unit :=
  workspace.store.saveWithHistory workspace.ledger now

/-- The columns of derived rows: those of the dataset, and then the new ones. -/
def derivedColumns (workspace : Workspace) (rows : List Row) : List String :=
  rows.foldl (fun names row => Dataset.addNames names row.keys) workspace.dataset.columnNames

end Workspace
end ColumnChain
