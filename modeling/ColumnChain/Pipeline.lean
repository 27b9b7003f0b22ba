import ColumnChain.Evaluation
import ColumnChain.Transformation
import ColumnChain.Workers

/-!
# Pipelines

The chain of a column as steps to be taken one after the other. This is the only place
where expressions are evaluated against rows: committed chains and previews both come
here. The rows given are never changed; every step makes new ones.

How a step is to be taken is planned once for all rows, by looking at the first of them.
A token in the first place of a call is the subject, the cell that the function works on,
if it is the column of the pipeline or any other column, or if the call has more
arguments than the function has parameters.
-/

namespace ColumnChain

/-- One step of a chain. -/
structure Step where
  expression : Expression
  output : Output
  deriving DecidableEq

namespace Step

/-- The step of an expression text. -/
def read (text : String) (output : Output) : Step :=
  ⟨Expression.read text, output⟩

end Step

/-- The step that a transformation stands for. -/
def Transformation.step (t : Transformation) : Step :=
  Step.read t.expression t.output

/-- An ordered chain of steps for one column. -/
structure Pipeline where
  column : String
  steps : List Step
  deriving DecidableEq

/-- How a step is taken. -/
inductive Plan where
  /-- Nothing changes. -/
  | identity
  /-- The cells of another column are taken over. -/
  | copy (column : String)
  /-- A function is called. -/
  | call (entry : Entry) (subject : Option String) (parameters : List Argument)

namespace Plan

/-- Whether a call has more arguments than its function has a use for. -/
def hasSpare (entry : Entry) (args : List Argument) : Bool :=
  !entry.variadic && entry.parameters.length < args.length

/-- The plan of an expression for a column, where `isColumn` tells what the columns of
the first row are. -/
def ofExpression (column : String) (isColumn : String → Bool) : Expression → Plan
  | .opaqueText _ => identity
  | .call invocation =>
      match Catalog.find? invocation.function with
      | none => identity
      | some entry =>
          let (subject, parameters) := invocation.splitSubject fun name =>
            name == column || isColumn name || hasSpare entry invocation.args
          call entry subject parameters
  | .bare name =>
      if name = column then identity
      else if isColumn name then copy name
      else match Catalog.find? name with
        | some entry => call entry none []
        | none => identity

end Plan

namespace Step

/-- The plan of a step over some rows. -/
def plan (step : Step) (column : String) (rows : List Row) : Plan :=
  Plan.ofExpression column (fun name => rows.head?.any fun row => row.contains name)
    step.expression

end Step

namespace Row

/-- The cell a call works on: that of the subject where the row has such a column, and
otherwise that of the chain. -/
def input (row : Row) (column : String) (subject : Option String) : Cell :=
  match subject with
  | some name => (Row.get? row name).getD (Row.get row column)
  | none => Row.get row column

/-- Write a result. An empty cell makes no new column. -/
def write (row : Row) (target : String) (cell : Cell) : Row :=
  if cell.isNull && !row.contains target then row else Row.set row target cell

end Row

namespace Engine

/-- Map the rows of a table, with their places, sharing the work out. -/
def mapShared {α : Type} (engine : Engine) (f : Nat → α → Cell) (items : List α) :
    List Cell :=
  Workers.map engine.workers engine.settings.parallelThreshold
    (fun (item, place) => f place item) items.zipIdx

/-- The cells that a plan makes of the rows; nothing when it changes none. -/
def results? (engine : Engine) (draws : Draws) (column : String) (rows : List Row) :
    Plan → Option (List Cell)
  | .identity => none
  | .copy name => some (rows.map fun row => Row.get row name)
  | .call entry subject parameters =>
      let inputs := rows.map fun row => Row.input row column subject
      if entry.isAggregate then
        match entry.prepare? inputs (parameters.map Argument.literal) with
        | none => some inputs
        | some change =>
            some (engine.mapShared (fun _ cell => (change cell).getD cell) inputs)
      else
        some <| engine.mapShared (fun place row =>
            entry.apply (engine.context (draws [place])) (Row.input row column subject)
              (parameters.map (Argument.resolve row)))
          rows

/-- Take one step. -/
def applyStep (engine : Engine) (draws : Draws) (column : String) (step : Step)
    (rows : List Row) : List Row :=
  match engine.results? draws column rows (step.plan column rows) with
  | none => rows
  | some cells =>
      List.zipWith (fun row cell => Row.write row (step.output.target column) cell) rows cells

/-- Take steps one after the other; `place` is the number of the first of them. -/
def applySteps (engine : Engine) (draws : Draws) (column : String) :
    Nat → List Step → List Row → List Row
  | _, [], rows => rows
  | place, step :: steps, rows =>
      engine.applySteps draws column (place + 1) steps
        (engine.applyStep (draws.under place) column step rows)

end Engine

namespace Pipeline

/-- The rows that the pipeline derives. -/
def apply (pipeline : Pipeline) (engine : Engine) (draws : Draws) (rows : List Row) :
    List Row :=
  engine.applySteps draws pipeline.column 0 pipeline.steps rows

/-- The cells that the pipeline derives from cells of its column alone. -/
def applyValues (pipeline : Pipeline) (engine : Engine) (draws : Draws)
    (cells : List Cell) : List Cell :=
  (pipeline.apply engine draws (cells.map (Row.single pipeline.column))).map fun row =>
    Row.get row pipeline.column

/-- The committed chain of a column: its live transformations in chain order. -/
def ofTransformations (column : String) (records : List Transformation) : Pipeline :=
  let chain := (records.filter fun t => t.isLive && t.column == column).mergeSort
    Transformation.precedes
  ⟨column, chain.map Transformation.step⟩

end Pipeline
end ColumnChain
