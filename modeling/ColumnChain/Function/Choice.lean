import ColumnChain.Function.Basic
import ColumnChain.Text.Casing

/-!
# Choice functions

Functions that choose between the cell and their arguments, copy the cell, or make a new
identifier.
-/

namespace ColumnChain.Function

/-- `COALESCE`: the first of the cell and the arguments that is not blank; the last
argument when all are blank. -/
def coalesce : Scalar := fun _ cell args =>
  if cell.isBlank then (args.find? fun arg => !arg.isBlank).or args.getLast?
  else some cell

/-- `IF_EMPTY`. -/
def ifEmpty : Scalar := fun _ cell args =>
  if cell.isBlank then args[0]? else some cell

/-- Whether a cell counts as true. -/
def isTruthy (truthiness : Truthiness) (cell : Cell) : Bool :=
  !cell.isBlank && match truthiness with
    | .existence => true
    | .strict =>
        match cell with
        | .null => false
        | .bool value => value
        | .number value => value != 0.0
        | .text value =>
            let word := Text.trim value.toList
            word != ['0'] && !Text.equalIgnoringAsciiCase word "false".toList

/-- `IF`. -/
def ifTruthy : Scalar := fun context cell args =>
  if isTruthy context.truthiness cell then args[0]? else args[1]?

/-- `GENERATE_ID`: a random token, after the prefix and an underscore if there is a
prefix. -/
def generateId : Scalar := fun context _ args =>
  let start := (textAt? args 0).getD []
  let separator := if start.isEmpty then [] else ['_']
  some (ofChars (start ++ separator ++ context.token.chars))

/-- `DUPLICATE`. -/
def duplicate : Scalar := fun _ cell _ =>
  some cell

end ColumnChain.Function
