import ColumnChain.Number.Exact

/-!
# Reading numbers

Decimal literals: an optional sign, digits with an optional point, an optional exponent,
and the three names of the numbers that are not finite. A literal denotes the nearest
number. Integer literals are digits with an optional sign, within a range.
-/

namespace ColumnChain.Number

/-- The value of a digit. -/
def digit? (c : Char) : Option Nat :=
  if c.isDigit then some (c.toNat - '0'.toNat) else none

/-- The digits that a text starts with, and the rest. -/
def spanDigits (text : List Char) : List Char × List Char :=
  text.span Char.isDigit

/-- The number written by a list of digits. -/
def ofDigits (digits : List Char) : Nat :=
  digits.foldl (fun value c => 10 * value + (c.toNat - '0'.toNat)) 0

/-- Split off a sign; the flag tells whether it is a minus. -/
def splitSign : List Char → Bool × List Char
  | '-' :: rest => (true, rest)
  | '+' :: rest => (false, rest)
  | text => (false, text)

/-- The number nearest to `digits · 10^exponent`. Far outside the range the answer is
known without the power: 400 places exceed the largest number and the smallest. -/
def nearest (digits : Nat) (exponent : Int) : Float :=
  let place := exponent + (Nat.toDigits 10 digits).length
  if digits = 0 || decide (place < -400) then 0.0
  else if 400 < place then 1.0 / 0.0
  else if 0 ≤ exponent then Float.ofScientific digits false exponent.toNat
  else Float.ofScientific digits true (-exponent).toNat

/-- An exponent: nothing at all, or `e`, an optional sign and digits. -/
def exponent? : List Char → Option Int
  | [] => some 0
  | c :: rest =>
      if c = 'e' || c = 'E' then
        let (negative, digits) := splitSign rest
        if digits.isEmpty || !digits.all Char.isDigit then none
        else some (if negative then -(ofDigits digits : Int) else ofDigits digits)
      else none

/-- An unsigned decimal literal. -/
def decimal? (text : List Char) : Option Float :=
  let (whole, rest) := spanDigits text
  let (fraction, rest) := match rest with
    | '.' :: rest => spanDigits rest
    | _ => ([], rest)
  if whole.isEmpty && fraction.isEmpty then none
  else (exponent? rest).map fun exponent =>
    nearest (ofDigits (whole ++ fraction)) (exponent - fraction.length)

/-- The names of the numbers that are not finite, in any letter case. -/
def named? (text : List Char) : Option Float :=
  let name := String.ofList (text.map Char.toLower)
  if name = "nan" then some (0.0 / 0.0)
  else if name = "inf" || name = "infinity" then some (1.0 / 0.0)
  else none

/-- Read a number. -/
def read? (text : List Char) : Option Float :=
  let (negative, rest) := splitSign text
  ((named? rest).or (decimal? rest)).map (signed negative)

/-- Read an integer of any size. -/
def integer? (text : List Char) : Option Int :=
  let (negative, digits) := splitSign text
  if digits.isEmpty || !digits.all Char.isDigit then none
  else some (if negative then -(ofDigits digits : Int) else ofDigits digits)

/-- Read an integer that fits in 64 bits with a sign. -/
def int64? (text : List Char) : Option Int :=
  (integer? text).filter fun n => -2 ^ 63 ≤ n && n < 2 ^ 63

/-- Read a natural number that fits in `bits` bits. A plus sign is allowed. -/
def natural? (bits : Nat) (text : List Char) : Option Nat :=
  let digits := match text with
    | '+' :: rest => rest
    | _ => text
  if digits.isEmpty || !digits.all Char.isDigit then none
  else if ofDigits digits < 2 ^ bits then some (ofDigits digits) else none

end ColumnChain.Number
