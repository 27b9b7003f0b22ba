import ColumnChain.Pipeline

/-!
# Previews

What a transformation would do, shown on some rows before it is attached. The chain that
is already there runs first. Both run over all the rows, so that statistics are those of
the whole column; only the pairs that are shown are limited in number.
-/

namespace ColumnChain

/-- A candidate and the data to try it on. -/
structure Trial where
  column : String
  expression : String
  /-- Cells of the column. -/
  samples : List Cell := []
  /-- Whole rows. Where there are any, the samples do not count. -/
  context : List Row := []
  output : Output := .overwrite

/-- A cell before and after the candidate. -/
structure Pair where
  before : Cell
  after : Cell

/-- Whether the candidate changes the cell. -/
def Pair.isChanged (pair : Pair) : Bool :=
  !pair.before.same pair.after

/-- The outcome of a trial. -/
structure Preview where
  pairs : List Pair
  /-- How many of the pairs differ. -/
  changed : Nat
  /-- The upper-case name the candidate starts with. -/
  function : Option String
  /-- Whether the same trial would have the same outcome again. -/
  deterministic : Bool

namespace Trial

/-- The samples when none are given. -/
def placeholders : List Cell :=
  [.text "Sample Text", .text "12345", .text "2024-01-15"]

/-- The rows of the trial. -/
def rows (trial : Trial) : List Row :=
  if trial.context.isEmpty then
    let cells := if trial.samples.isEmpty then placeholders else trial.samples
    cells.map (Row.single trial.column)
  else trial.context

/-- The candidate as a pipeline of its own. -/
def pipeline (trial : Trial) : Pipeline :=
  ⟨trial.column, [Step.read trial.expression trial.output]⟩

/-- The cells of every row before and after the candidate. -/
def pairs (trial : Trial) (before after : List Row) : List Pair :=
  List.zipWith (fun row derived =>
      ⟨Row.get row trial.column, Row.get derived (trial.output.target trial.column)⟩)
    before after

end Trial

namespace Preview

/-- The pairs that are shown: rows with something to show come first, and only where
there are none, the others. -/
def shown (limit : Nat) (pairs : List Pair) : List Pair :=
  let filled := (pairs.filter fun pair => !pair.before.isBlank).take limit
  if filled.isEmpty then pairs.take limit else filled

/-- What the candidate does to rows. -/
def ofRows (engine : Engine) (draws : Draws) (trial : Trial) (rows : List Row) : Preview :=
  let after := trial.pipeline.apply engine draws rows
  let pairs := shown engine.settings.previewLimit (trial.pairs rows after)
  let function := Expression.leadingName? trial.expression
  { pairs
    changed := pairs.countP Pair.isChanged
    function
    deterministic := function.all Catalog.isDeterministic }

/-- The preview of a candidate on its own. -/
def alone (engine : Engine) (draws : Draws) (trial : Trial) : Preview :=
  ofRows engine (draws.under 1) trial trial.rows

/-- The preview of a candidate on top of a chain. -/
def onChain (engine : Engine) (draws : Draws) (chain : Pipeline) (trial : Trial) : Preview :=
  ofRows engine (draws.under 1) trial (chain.apply engine (draws.under 0) trial.rows)

end Preview
end ColumnChain
