/-!
# Exact values of binary64 numbers

A finite number is a sign, a natural significand and a power of two. This module
decodes that form, rebuilds a number from it, and defines the operations that are exact
on it: the integer part, rounding to an integer, and the remainder. They are written on
natural numbers so that they can be evaluated and reasoned about, and none of them
rounds except where its name says so.
-/

-- Powers are those of core also where a library has powers of its own.
attribute [instance (high), default_instance 10001] instPowNat

namespace ColumnChain.Number

/-- A finite number `(-1)^negative · significand · 2^exponent`. -/
structure Parts where
  negative : Bool
  significand : Nat
  exponent : Int
  deriving Repr, DecidableEq

/-- The exact value of a finite number; nothing for the other three. -/
def parts? (x : Float) : Option Parts :=
  match x.toModel.unpack with
  | .infinity _ => none
  | .notANumber => none
  | .zero sign => some ⟨sign == .negative, 0, 0⟩
  | .finite sign significand exponent _ => some ⟨sign == .negative, significand, exponent⟩

/-- Give a non-negative number a sign. -/
def signed (negative : Bool) (x : Float) : Float :=
  if negative then -x else x

namespace Parts

/-- The number nearest to these parts; equal to them when they came from a number. -/
def toFloat (p : Parts) : Float :=
  signed p.negative <|
    if 0 ≤ p.exponent then
      Float.ofScientific (p.significand * 2 ^ p.exponent.toNat) false 0
    else
      Float.ofScientific (p.significand * 5 ^ (-p.exponent).toNat) true (-p.exponent).toNat

/-- The distance from zero, without its fraction. -/
def whole (p : Parts) : Nat :=
  if 0 ≤ p.exponent then p.significand * 2 ^ p.exponent.toNat
  else p.significand / 2 ^ (-p.exponent).toNat

/-- What the integer part leaves, as a numerator over `2 ^ (-exponent)`. -/
def fraction (p : Parts) : Nat :=
  if 0 ≤ p.exponent then 0 else p.significand % 2 ^ (-p.exponent).toNat

/-- Whether the number is an integer. -/
def isWhole (p : Parts) : Bool :=
  p.fraction == 0

/-- The integer part, toward zero. -/
def truncated (p : Parts) : Int :=
  if p.negative then -(p.whole : Int) else p.whole

end Parts

/-- Whether the number is finite and an integer. -/
def isWhole (x : Float) : Bool :=
  match parts? x with
  | some p => p.isWhole
  | none => false

/-- Replace a number that has a fraction by the integer chosen for it; the sign of a
zero result is the sign of the argument. -/
def toWhole (choose : Parts → Nat) (x : Float) : Float :=
  match parts? x with
  | none => x
  | some p => if p.isWhole then x else signed p.negative (Float.ofNat (choose p))

/-- The largest integer that is not above. -/
def floor (x : Float) : Float :=
  toWhole (fun p => if p.negative then p.whole + 1 else p.whole) x

/-- The smallest integer that is not below. -/
def ceil (x : Float) : Float :=
  toWhole (fun p => if p.negative then p.whole else p.whole + 1) x

/-- The nearest integer; a half goes away from zero. -/
def round (x : Float) : Float :=
  toWhole (fun p =>
    if 2 ^ (-p.exponent).toNat ≤ 2 * p.fraction then p.whole + 1 else p.whole) x

/-- The exact remainder of two finite numbers, with the sign of the dividend; nothing
when the divisor is zero or one of the two is not finite. -/
def remainder? (x y : Float) : Option Float :=
  match parts? x, parts? y with
  | some dividend, some divisor =>
      if divisor.significand = 0 then none
      else
        let exponent := min dividend.exponent divisor.exponent
        let scaled (p : Parts) := p.significand * 2 ^ (p.exponent - exponent).toNat
        some (Parts.toFloat ⟨dividend.negative, scaled dividend % scaled divisor, exponent⟩)
  | _, _ => none

/-- The integer part of a finite number. -/
def truncated? (x : Float) : Option Int :=
  (parts? x).map Parts.truncated

/-- Ten to a small power, exact up to twenty-two. -/
def powerOfTen (exponent : Nat) : Float :=
  Float.ofScientific 1 false exponent

end ColumnChain.Number
