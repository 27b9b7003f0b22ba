import ColumnChain.Function.Basic

/-!
# Arithmetic functions

Functions on the number a cell denotes. There is no answer for a cell that denotes none,
for a missing argument, and where the result is not finite. Dividing by zero gives zero.
-/

namespace ColumnChain.Function

/-- A function on numbers as a function on cells. -/
def mapNumber (f : Float → Float) : Scalar := fun _ cell _ =>
  cell.asNumber?.bind fun x => ofFinite? (f x)

/-- A function of the cell's number and the first argument's. -/
def combineNumbers (f : Float → Float → Float) : Scalar := fun _ cell args =>
  cell.asNumber?.bind fun x => (numberAt? args 0).bind fun y => ofFinite? (f x y)

/-- `ADD`. -/
def add : Scalar :=
  combineNumbers fun x y => x + y

/-- `SUBTRACT`. -/
def subtract : Scalar :=
  combineNumbers fun x y => x - y

/-- `MULTIPLY`. -/
def multiply : Scalar :=
  combineNumbers fun x y => x * y

/-- `DIVIDE`. -/
def divide : Scalar :=
  combineNumbers fun x y => if y == 0.0 then 0.0 else x / y

/-- `MOD`: the remainder with the sign of the cell's number. -/
def modulo : Scalar :=
  combineNumbers fun x y => (Number.remainder? x y).getD 0.0

/-- `MIN`. -/
def minimum : Scalar :=
  combineNumbers fun x y => if y < x then y else x

/-- `MAX`. -/
def maximum : Scalar :=
  combineNumbers fun x y => if x < y then y else x

/-- `POWER`. -/
def power : Scalar :=
  combineNumbers Float.pow

/-- The most places that rounding keeps or drops. -/
def mostPlaces : Nat := 15

/-- Round to so many places after the point, or before it if the number is negative.
The number is scaled to an integer and back, in binary64 arithmetic. -/
def roundTo (places : Int) (x : Float) : Float :=
  let factor := Number.powerOfTen (min mostPlaces places.natAbs)
  if places < 0 then Number.round (x / factor) * factor
  else Number.round (x * factor) / factor

/-- `ROUND`; a half goes away from zero. The number of places has to fit in 32 bits. -/
def round : Scalar := fun context cell args =>
  (integerAt? args 0).bind fun places =>
    if -2 ^ 31 ≤ places && places < 2 ^ 31 then mapNumber (roundTo places) context cell args
    else none

/-- `CEIL`. -/
def ceil : Scalar :=
  mapNumber Number.ceil

/-- `FLOOR`. -/
def floor : Scalar :=
  mapNumber Number.floor

/-- `ABS`. -/
def abs : Scalar :=
  mapNumber Float.abs

/-- `SQRT`. A negative number has none. -/
def sqrt : Scalar := fun context cell args =>
  mapNumber (fun x => if x < 0 then 0.0 / 0.0 else x.sqrt) context cell args

end ColumnChain.Function
