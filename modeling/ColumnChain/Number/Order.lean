import ColumnChain.Number.Exact

/-!
# The order of all numbers

One order in which any two numbers have a place, also those that no comparison of numbers
puts anywhere: by sign first, then by the distance from zero. The negative zero comes right
before the positive one.
-/

namespace ColumnChain.Number

/-- The place of a number in the order, read off its bits: those below the sign count up
from the positive zero, or down from the negative one. -/
def place (x : Float) : Int :=
  let distance : Nat := x.toBits.toNat % 2 ^ 63
  if x.toBits.toNat < 2 ^ 63 then distance else -(distance : Int) - 1

/-- Whether a number comes before another one in the order, or has the same place. -/
def precedes (x y : Float) : Bool :=
  decide (place x ≤ place y)

end ColumnChain.Number
