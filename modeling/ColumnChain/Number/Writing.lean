import ColumnChain.Number.Shortest

/-!
# Written numbers

Three ways of writing a number, all with the fewest digits that read back: positional
notation for every magnitude, the notation of cells, which writes integers of moderate
size without a sign on zero, and the notation of JSON, which always shows that the
number is not an integer literal and switches to an exponent outside a fixed range.
-/

namespace ColumnChain.Number

/-- The decimal digits of a natural number. -/
def naturalText (n : Nat) : List Char :=
  Nat.toDigits 10 n

/-- The decimal digits of an integer, with a minus sign below zero. -/
def integerText (n : Int) : List Char :=
  if n < 0 then '-' :: naturalText n.natAbs else naturalText n.natAbs

/-- Digits with a point before the last `places` of them, zeros being added in front
where there are too few. -/
def withPoint (digits : List Char) (places : Nat) : List Char :=
  let padded := List.replicate (places + 1 - digits.length) '0' ++ digits
  let cut := padded.length - places
  padded.take cut ++ '.' :: padded.drop cut

/-- Positional notation, with no point when there is no fraction. -/
def Decimal.positional (d : Decimal) : List Char :=
  if 0 ≤ d.exponent then naturalText d.digits ++ List.replicate d.exponent.toNat '0'
  else withPoint (naturalText d.digits) (-d.exponent).toNat

/-- Put a minus sign in front. -/
def withSign (negative : Bool) (text : List Char) : List Char :=
  if negative then '-' :: text else text

/-- Positional notation of every number; a negative zero keeps its sign. -/
def positional (x : Float) : String :=
  match parts? x with
  | some p => String.ofList (withSign p.negative (p.shortest .upward).positional)
  | none => if x.isNaN then "NaN" else if x < 0 then "-inf" else "inf"

/-- Integers below this magnitude are written as integers in cells. -/
def integerLimit : Nat := 10 ^ 15

/-- How a cell shows a number. -/
def cellText (x : Float) : String :=
  match parts? x with
  | some p =>
      if p.isWhole && p.whole < integerLimit then String.ofList (integerText p.truncated)
      else positional x
  | none => positional x

/-- Scientific notation with one digit before the point. -/
def Decimal.scientific (d : Decimal) : List Char :=
  let digits := naturalText d.digits
  let exponent := integerText (d.exponent + digits.length - 1)
  match digits with
  | [single] => single :: 'e' :: exponent
  | lead :: rest => lead :: '.' :: rest ++ 'e' :: exponent
  | [] => []

/-- The JSON notation of a decimal: positional while the point falls less than five
places before the first digit and at most sixteen after it. -/
def Decimal.json (d : Decimal) : List Char :=
  let point := (naturalText d.digits).length + d.exponent
  if 0 ≤ d.exponent ∧ point ≤ 16 then d.positional ++ ['.', '0']
  else if -5 < point ∧ point ≤ 16 then d.positional
  else d.scientific

/-- The JSON notation of a number; JSON has none for the numbers that are not finite. -/
def json? (x : Float) : Option (List Char) :=
  (parts? x).map fun p => withSign p.negative (p.shortest .even).json

end ColumnChain.Number
