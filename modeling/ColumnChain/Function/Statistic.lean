import ColumnChain.Function.Basic
import ColumnChain.Number.Order
import ColumnChain.Text.Casing

/-!
# Column statistics

Functions that look at the numbers of a whole column first. Cells that denote no number
take no part and are left as they are. A column without numbers has no statistic.

Ranks and percentiles are found by searching the sorted numbers of the column. The search
halves an interval of places; for a property that the numbers have up to some place and
not from there on, it finds that place.
-/

namespace ColumnChain.Function

/-- The numbers of a column. -/
def numbers (cells : List Cell) : List Float :=
  cells.filterMap Cell.asNumber?

/-- A function on numbers as a function on cells. -/
def onNumber (f : Float → Cell) (cell : Cell) : Option Cell :=
  cell.asNumber?.map f

/-- The smallest and the largest number. -/
def bounds? : List Float → Option (Float × Float)
  | [] => none
  | x :: rest =>
      some (rest.foldl (fun low y => if y < low then y else low) x,
        rest.foldl (fun high y => if high < y then y else high) x)

/-- Map one range of numbers onto another. A range without extent goes to the lower end
of the other one. -/
def rescale (low high newLow newHigh x : Float) : Cell :=
  let span := high - low
  if span == 0.0 then Cell.ofNumber newLow
  else Cell.ofNumber (newLow + (x - low) / span * (newHigh - newLow))

/-- The number of an argument that is present and not blank. -/
def givenNumber? (args : List Cell) (place : Nat) : Option Float :=
  (filledAt? args place).bind Cell.asNumber?

/-- `NORMALIZE`: into the range from zero to one. -/
def normalize : Statistic := fun cells args =>
  (bounds? (numbers cells)).map fun (low, high) =>
    onNumber <|
      rescale ((givenNumber? args 0).getD low) ((givenNumber? args 1).getD high) 0.0 1.0

/-- `SCALE`: into a range of one's own. -/
def scale : Statistic := fun cells args =>
  (bounds? (numbers cells)).bind fun (low, high) =>
    (numberAt? args 0).bind fun newLow =>
      (numberAt? args 1).map fun newHigh => onNumber (rescale low high newLow newHigh)

/-- The mean of some numbers. -/
def mean (xs : List Float) : Float :=
  xs.foldl (· + ·) 0.0 / Float.ofNat xs.length

/-- `STANDARDIZE`: the distance from the mean in standard deviations of the column. -/
def standardize : Statistic := fun cells _ =>
  let xs := numbers cells
  if xs.isEmpty then none
  else
    let center := mean xs
    let deviation := (mean (xs.map fun x => (x - center) * (x - center))).sqrt
    some <| onNumber fun x =>
      if deviation == 0.0 then Cell.ofNumber 0.0
      else Cell.ofNumber ((x - center) / deviation)

/-- The numbers of a column in ascending order, the zeros by their signs. -/
def sortedNumbers (cells : List Cell) : Array Float :=
  ((numbers cells).mergeSort Number.precedes).toArray

/-- The place in an interval of places up to which a property holds, found by halving the
interval. -/
def searchPlace (holds : Float → Bool) (sorted : Array Float) (low high : Nat) : Nat :=
  if h : low < high then
    let middle := low + (high - low) / 2
    if (sorted[middle]?).any holds then searchPlace holds sorted (middle + 1) high
    else searchPlace holds sorted low middle
  else low
termination_by high - low

/-- How many of the sorted numbers come before the place from which on a property no
longer holds. -/
def placeAfter (holds : Float → Bool) (sorted : Array Float) : Nat :=
  searchPlace holds sorted 0 sorted.size

/-- How many of the sorted numbers are smaller. -/
def countBelow (sorted : Array Float) (x : Float) : Nat :=
  placeAfter (fun y => decide (y < x)) sorted

/-- How many of the sorted numbers are smaller or equal. -/
def countUpTo (sorted : Array Float) (x : Float) : Nat :=
  placeAfter (fun y => decide (y ≤ x)) sorted

/-- The rank of a number: one more than the count of those before it. -/
def rankOf (descending : Bool) (sorted : Array Float) (x : Float) : Nat :=
  (if descending then sorted.size - countUpTo sorted x else countBelow sorted x) + 1

/-- Whether an order is descending, by its name. -/
def descending? (name : String) : Option Bool :=
  match name with
  | "asc" | "ascending" => some false
  | "desc" | "descending" => some true
  | _ => none

/-- `RANK`: equal numbers share a rank, and the ranks they would fill are left out. -/
def rank : Statistic := fun cells args =>
  ((textAt? args 0).bind fun order =>
      descending? (String.ofList (Text.lower (Text.trim order)))).bind fun descending =>
    let sorted := sortedNumbers cells
    if sorted.isEmpty then none
    else some (onNumber fun x => Cell.ofCount (rankOf descending sorted x))

/-- The label of the bucket that a number falls in. -/
def bucketLabel (size x : Float) : String :=
  let low := Number.floor (x / size) * size
  Number.cellText low ++ "-" ++ Number.cellText (low + size)

/-- `BUCKET`: buckets of one size, one of them starting at zero. -/
def bucket : Statistic := fun cells args =>
  (numberAt? args 0).bind fun size =>
    if 0.0 < size && !(numbers cells).isEmpty then
      some (onNumber fun x => .text (bucketLabel size x))
    else none

/-- The part of so many out of a total in percent, to two places. -/
def percent (count total : Nat) : Float :=
  let share := Float.ofNat count / Float.ofNat total * 100.0
  Number.round (share * 100.0) / 100.0

/-- `PERCENTILE`: how much of the column is at a number or below it. -/
def percentile : Statistic := fun cells _ =>
  let sorted := sortedNumbers cells
  if sorted.isEmpty then none
  else some (onNumber fun x => Cell.ofNumber (percent (countUpTo sorted x) sorted.size))

end ColumnChain.Function
