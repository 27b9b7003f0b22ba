import ColumnChain.Json.Basic
import ColumnChain.Cell

/-!
# Numbers in JSON

What a number literal denotes. An integer literal that fits into 64 bits denotes itself,
but a negative zero is not an integer. Any other literal denotes a binary64 number, found
quickly rather than precisely: the digits are collected as long as they fit into 64 bits,
and the number nearest to them is multiplied or divided by a power of ten. A number that
gets too large by that denotes nothing.
-/

namespace ColumnChain.Json

/-- A literal taken apart. Digits are values below ten; there is no exponent where its
digits are missing. -/
structure NumberText where
  negative : Bool
  whole : List Nat
  fraction : List Nat
  exponentNegative : Bool
  exponent : List Nat

namespace NumberText

/-- Collect digits as long as the result fits into 64 bits; the second number tells how
many have been taken. -/
def collect (significand : Nat) : List Nat → Nat × Nat
  | [] => (significand, 0)
  | digit :: rest =>
      let next := 10 * significand + digit
      if next < 2 ^ 64 then
        let (final, taken) := collect next rest
        (final, taken + 1)
      else (significand, 0)

/-- Multiply by a power of ten, if the result is finite. Division by a power beyond the
largest one is done in two steps, and by one beyond twice the largest gives zero. -/
def scale? (x : Float) (exponent : Int) : Option Float :=
  if 0 ≤ exponent then
    if exponent ≤ 308 then Cell.finite? (x * Number.powerOfTen exponent.toNat)
    else if x == 0.0 then some x
    else none
  else
    let places := (-exponent).toNat
    if places ≤ 308 then some (x / Number.powerOfTen places)
    else some (x / 1e308 / Number.powerOfTen (min 308 (places - 308)))

/-- The number of a list of digits. -/
def ofDigits (digits : List Nat) : Nat :=
  digits.foldl (fun value digit => 10 * value + digit) 0

/-- The exponent as written. -/
def exponentValue (literal : NumberText) : Int :=
  let value := ofDigits literal.exponent
  if literal.exponentNegative then -(value : Int) else value

/-- What the literal denotes. -/
def value (literal : NumberText) : Json :=
  let (collected, taken) := collect 0 literal.whole
  let isInteger := literal.fraction.isEmpty && literal.exponent.isEmpty &&
    taken == literal.whole.length
  if isInteger && !literal.negative then .integer collected
  else if isInteger && collected != 0 && decide (collected ≤ 2 ^ 63) then
    .integer (-(collected : Int))
  else
    let (collected, fractionTaken) := collect collected literal.fraction
    let exponent : Int := literal.whole.length - taken - fractionTaken + literal.exponentValue
    match scale? (Float.ofScientific collected false 0) exponent with
    | some x => .real (Number.signed literal.negative x)
    | none => .void

end NumberText
end ColumnChain.Json
