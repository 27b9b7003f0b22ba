import ColumnChain.Cell
import ColumnChain.Settings
import ColumnChain.Token

/-!
# Functions

What the functions of the library have in common. A scalar function makes a cell of a
cell, its arguments and a context; a statistic is computed from the cells of a whole
column first and gives a function on cells then. Either may have no answer, which leaves
the cell as it was.
-/

namespace ColumnChain.Function

/-- What a scalar function depends on besides the cell and the arguments. -/
structure Context where
  today : Date
  truthiness : Truthiness
  /-- What the random source yields for this cell. -/
  token : Token 8

/-- A function on single cells. -/
abbrev Scalar := Context → Cell → List Cell → Option Cell

/-- A function that looks at a whole column before it changes any of its cells. -/
abbrev Statistic := List Cell → List Cell → Option (Cell → Option Cell)

/-- The number an argument denotes. -/
def numberAt? (args : List Cell) (place : Nat) : Option Float :=
  args[place]?.bind Cell.asNumber?

/-- The number an argument denotes, without its fraction. -/
def integerAt? (args : List Cell) (place : Nat) : Option Int :=
  (numberAt? args place).bind Number.truncated?

/-- The number an argument denotes, without its fraction, if it is not negative. -/
def countAt? (args : List Cell) (place : Nat) : Option Nat :=
  (integerAt? args place).bind fun n => if 0 ≤ n then some n.toNat else none

/-- The text of an argument. -/
def textAt? (args : List Cell) (place : Nat) : Option (List Char) :=
  args[place]?.map fun cell => cell.toText.toList

/-- An argument that is present and not blank. -/
def filledAt? (args : List Cell) (place : Nat) : Option Cell :=
  args[place]?.filter fun cell => !cell.isBlank

/-- A text cell of characters. -/
def ofChars (text : List Char) : Cell :=
  .text (String.ofList text)

/-- A numeric cell, unless the number is not finite. -/
def ofFinite? (x : Float) : Option Cell :=
  if x.isFinite then some (Cell.ofNumber x) else none

end ColumnChain.Function
