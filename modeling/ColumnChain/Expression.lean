import ColumnChain.Row
import ColumnChain.Text.Casing

/-!
# Expressions

An expression is a call of a function, a bare name, or text that is neither. Calls give
the upper-case name of the function and its arguments in order; an unquoted argument is
a number or a token that stands for a column where there is one of that name.
-/

namespace ColumnChain

/-- An argument of a call. -/
inductive Argument where
  /-- A quoted text. -/
  | text (value : String)
  /-- An unquoted number. -/
  | number (value : Float)
  /-- Any other unquoted token. -/
  | column (name : String)
  deriving DecidableEq

namespace Argument

/-- The cell an argument stands for in a row: a token is the cell of the column it names,
and its own text where the row has no such column. -/
def resolve (row : Row) : Argument → Cell
  | .text value => .text value
  | .number value => Cell.ofNumber value
  | .column name => (Row.get? row name).getD (.text name)

/-- The cell an argument stands for outside any row. -/
def literal : Argument → Cell
  | .text value | .column value => .text value
  | .number value => Cell.ofNumber value

end Argument

/-- A call of a function. -/
structure Call where
  /-- The name, in upper case. -/
  function : String
  args : List Argument
  deriving DecidableEq

namespace Call

/-- Split off the subject. Only a token in the first place can be the subject, and only
when it is accepted as one; otherwise all arguments are parameters. -/
def splitSubject (call : Call) (accepts : String → Bool) : Option String × List Argument :=
  match call.args with
  | .column name :: rest => if accepts name then (some name, rest) else (none, call.args)
  | args => (none, args)

end Call

/-- What an expression text says. -/
inductive Expression where
  /-- A well-formed call. -/
  | call (invocation : Call)
  /-- A name alone: a column, or a call without arguments where no column has the name. -/
  | bare (name : String)
  /-- Anything else. It leaves every row as it is. -/
  | opaqueText (text : String)
  deriving DecidableEq

namespace Expression

/-- The upper-case name of the function an expression can name. -/
def functionName? : Expression → Option String
  | .call invocation => some invocation.function
  | .bare name => some (Text.uppercased name)
  | .opaqueText _ => none

end Expression
end ColumnChain
