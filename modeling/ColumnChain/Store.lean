import ColumnChain.Keyed
import ColumnChain.Pipeline

/-!
# Stores of transformations

The records that are kept, by id, in the order in which they came in. The chain of a
column and everything derived by it are views of a store; they do not depend on the
order in which the records are kept.
-/

namespace ColumnChain

/-- Transformations by id, oldest first. -/
abbrev Store := Keyed Transformation Transformation.id

namespace Store

/-- Replace a record; there is a fault where none has its id. -/
def replace (store : Store) (t : Transformation) : Except Fault Store :=
  if store.contains t.id then .ok (store.put t) else .error (.unknownTransformation t.id)

/-- The record with an id; there is a fault where none has it. -/
def require (store : Store) (id : String) : Except Fault Transformation :=
  match store.find? id with
  | some t => .ok t
  | none => .error (.unknownTransformation id)

/-- The records of a dataset, in the order of the store. -/
def ofDataset (store : Store) (dataset : String) : List Transformation :=
  store.entries.filter fun t => t.dataset == dataset

/-- The live transformations of a column, in chain order. -/
def chain (store : Store) (dataset column : String) : List Transformation :=
  ((ofDataset store dataset).filter fun t => t.isLive && t.column == column).mergeSort
    Transformation.precedes

/-- The order of a listing: by column, then by the order of a chain. -/
def listedBefore (left right : Transformation) : Bool :=
  ((Ord.compare left.column right.column).then (left.compare right)).isLE

/-- Every record of a dataset, grouped by column. -/
def list (store : Store) (dataset : String) : List Transformation :=
  (ofDataset store dataset).mergeSort listedBefore

/-- The committed chain of a column. -/
def pipeline (store : Store) (dataset column : String) : Pipeline :=
  Pipeline.ofTransformations column (ofDataset store dataset)

/-- The rows derived by the chain of one column. -/
def apply (store : Store) (engine : Engine) (draws : Draws) (dataset column : String)
    (rows : List Row) : List Row :=
  (pipeline store dataset column).apply engine draws rows

/-- The rows derived by the chains of columns, one column after the other; `place` is the
number of the first of them. -/
def applyColumns (store : Store) (engine : Engine) (draws : Draws) (dataset : String) :
    Nat → List String → List Row → List Row
  | _, [], rows => rows
  | place, column :: columns, rows =>
      applyColumns store engine draws dataset (place + 1) columns
        (apply store engine (draws.under place) dataset column rows)

end Store
end ColumnChain
