import ColumnChain.Catalog

/-!
# Evaluating functions

Calling a function of the catalogue by name on a cell or on a column. Every call has an
answer: a name that calls nothing, and a function that has no answer, leave the cell as
it was.
-/

namespace ColumnChain

namespace Engine

/-- What scalar functions depend on when the engine evaluates them for one cell. -/
def context (engine : Engine) (token : Token 8) : Function.Context :=
  { today := engine.today, truthiness := engine.settings.truthiness, token }

end Engine

namespace Entry

/-- The statistic of a column, where the function needs one and finds it. -/
def prepare? (entry : Entry) (cells args : List Cell) : Option (Cell → Option Cell) :=
  match entry.evaluator with
  | .scalar _ => none
  | .aggregate prepare => prepare cells (entry.withDefaults args)

/-- Call the function on one cell; a statistic is that of the cell alone, and is given the
arguments with their defaults. -/
def apply (entry : Entry) (context : Function.Context) (cell : Cell) (args : List Cell) :
    Cell :=
  let filled := entry.withDefaults args
  let answer := match entry.evaluator with
    | .scalar run => run context cell filled
    | .aggregate _ => (entry.prepare? [cell] filled).bind fun statistic => statistic cell
  answer.getD cell

end Entry

namespace Engine

/-- Call a function by name on one cell. -/
def apply (engine : Engine) (token : Token 8) (name : String) (cell : Cell)
    (args : List Cell) : Cell :=
  match Catalog.find? name with
  | none => cell
  | some entry => entry.apply (engine.context token) cell args

end Engine

/-- Change cells by a statistic; where there is none they stay. -/
def mapStatistic (statistic : Option (Cell → Option Cell)) (cells : List Cell) : List Cell :=
  match statistic with
  | none => cells
  | some change => cells.map fun cell => (change cell).getD cell

/-- The statistic that a function named like this finds in a column. -/
def Catalog.prepare? (name : String) (cells args : List Cell) :
    Option (Cell → Option Cell) :=
  (find? name).bind fun entry => entry.prepare? cells args

/-- Call a function by name on every cell of a column; each cell has its own address in
the random source. -/
def Engine.applyColumn (engine : Engine) (draws : Draws) (name : String)
    (cells args : List Cell) : List Cell :=
  if Catalog.isAggregate name then mapStatistic (Catalog.prepare? name cells args) cells
  else cells.mapIdx fun place cell => engine.apply (draws [place]) name cell args

end ColumnChain
