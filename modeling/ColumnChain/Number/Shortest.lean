import ColumnChain.Number.Exact

/-!
# Shortest decimals

The decimal with the fewest digits that reads back as a given number. The reals that
round to a number form an interval around it; the answer is the multiple of the largest
power of ten that lies in this interval, and of two such multiples the nearer one. Every
comparison is made between natural numbers, so nothing is rounded on the way.
-/

namespace ColumnChain.Number

/-- The decimal `digits · 10^exponent`. -/
structure Decimal where
  digits : Nat
  exponent : Int
  deriving Repr, DecidableEq

/-- Which of two equally near neighbours is taken. -/
inductive Tie where
  | upward
  | even
  deriving DecidableEq

/-- The reals that read back as one number: its value and the two ends, all in units of
`2^exponent`. The ends belong to the interval when `closed` holds. -/
structure Interval where
  low : Nat
  value : Nat
  high : Nat
  exponent : Int
  closed : Bool

/-- Below a power of two the neighbouring numbers are twice as dense as above it, except
at the bottom of the range. -/
def Parts.interval (p : Parts) : Interval :=
  let value := 4 * p.significand
  let dense := p.significand == 2 ^ 52 && decide (-1074 < p.exponent)
  { low := if dense then value - 1 else value - 2
    value
    high := value + 2
    exponent := p.exponent - 2
    closed := p.significand % 2 == 0 }

namespace Interval

/-- Whether `count · unit` lies in the interval whose numbers are multiplied by `scale`. -/
def holds (i : Interval) (scale unit count : Nat) : Bool :=
  if i.closed then
    decide (i.low * scale ≤ count * unit) && decide (count * unit ≤ i.high * scale)
  else
    decide (i.low * scale < count * unit) && decide (count * unit < i.high * scale)

/-- The multiple of `10^place` in the interval that is nearest to the value. -/
def onGrid? (i : Interval) (tie : Tie) (place : Int) : Option Nat :=
  let scale := 2 ^ i.exponent.toNat * 10 ^ (-place).toNat
  let unit := 2 ^ (-i.exponent).toNat * 10 ^ place.toNat
  let below := i.value * scale / unit
  let rest := i.value * scale % unit
  match i.holds scale unit below, i.holds scale unit (below + 1) with
  | false, false => none
  | true, false => some below
  | false, true => some (below + 1)
  | true, true =>
      if 2 * rest < unit then some below
      else if unit < 2 * rest then some (below + 1)
      else match tie with
        | .upward => some (below + 1)
        | .even => some (if below % 2 = 0 then below else below + 1)

/-- The number of digits before the point; at most zero for a value below one. -/
def leadingPlace (i : Interval) : Int :=
  let length (n : Nat) : Int := (Nat.toDigits 10 n).length
  if 0 ≤ i.exponent then length (i.value * 2 ^ i.exponent.toNat)
  else length (i.value * 10 ^ 330 / 2 ^ (-i.exponent).toNat) - 330

/-- Search the grids from coarse to fine. -/
def search (i : Interval) (tie : Tie) : Nat → Int → Decimal
  | 0, _ => ⟨0, 0⟩
  | steps + 1, place =>
      match i.onGrid? tie place with
      | some digits => ⟨digits, place⟩
      | none => search i tie steps (place - 1)

/-- Seventeen digits tell any two numbers apart, so eighteen grids are enough. -/
def shortest (i : Interval) (tie : Tie) : Decimal :=
  i.search tie 19 i.leadingPlace

end Interval

/-- The shortest decimal of the distance from zero. -/
def Parts.shortest (p : Parts) (tie : Tie) : Decimal :=
  if p.significand = 0 then ⟨0, 0⟩ else p.interval.shortest tie

end ColumnChain.Number
