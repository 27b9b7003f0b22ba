import ColumnChain.Calendar.Layout
import ColumnChain.Function.Basic
import ColumnChain.Text.Casing

/-!
# Date functions

Functions on the date that a text cell denotes in any of the accepted layouts. Other
cells denote no date, and there is no answer for them. Dates are written as year, month
and day joined by hyphens.
-/

namespace ColumnChain.Function

/-- The date of a text cell. -/
def dateOf? : Cell → Option Date
  | .text value => Calendar.readDate? value.toList
  | .null | .bool _ | .number _ => none

/-- The cell of a date. -/
def ofDate (d : Date) : Cell :=
  ofChars d.iso

/-- The cell of an integer. -/
def ofInteger (n : Int) : Cell :=
  Cell.ofNumber (Float.ofInt n)

/-- The ways of writing a date that can be asked for. -/
def dateLayout? (name : String) (d : Date) : Option (List Char) :=
  match name with
  | "YYYY-MM-DD" => some d.iso
  | "MM/DD/YYYY" => some (d.monthText ++ '/' :: d.dayText ++ '/' :: Date.yearText d.year)
  | "DD/MM/YYYY" => some (d.dayText ++ '/' :: d.monthText ++ '/' :: Date.yearText d.year)
  | "YYYY" => some (Date.yearText d.year)
  | "MM" => some d.monthText
  | "DD" => some d.dayText
  | _ => none

/-- `FORMAT_DATE`. -/
def formatDate : Scalar := fun _ cell args =>
  (dateOf? cell).bind fun d =>
    (textAt? args 0).bind fun layout =>
      (dateLayout? (String.ofList (Text.upper (Text.trim layout))) d).map ofChars

/-- `EXTRACT_YEAR`. -/
def extractYear : Scalar := fun _ cell _ =>
  (dateOf? cell).map fun d => ofInteger d.year

/-- `EXTRACT_MONTH`. -/
def extractMonth : Scalar := fun _ cell _ =>
  (dateOf? cell).map fun d => Cell.ofCount d.month

/-- `EXTRACT_DAY`. -/
def extractDay : Scalar := fun _ cell _ =>
  (dateOf? cell).map fun d => Cell.ofCount d.day

/-- A date shifted by an amount of a unit. The unit's name is in lower case and without
the letters `s` at its end. -/
def shiftDate? (d : Date) (amount : Int) (unit : String) : Option Date :=
  match unit with
  | "day" | "d" => d.addDays? amount
  | "week" | "w" => d.addDays? (7 * amount)
  | "month" | "m" => d.addMonths? amount
  | "year" | "y" => d.addMonths? (12 * amount)
  | _ => none

/-- The name of a unit as `shiftDate?` expects it. -/
def unitName (text : List Char) : String :=
  let lower := Text.lower (Text.trim text)
  String.ofList (lower.reverse.dropWhile (· == 's')).reverse

/-- `DATE_ADD`. -/
def dateAdd : Scalar := fun _ cell args =>
  (dateOf? cell).bind fun d =>
    (integerAt? args 0).bind fun amount =>
      (textAt? args 1).bind fun unit =>
        (shiftDate? d amount (unitName unit)).map ofDate

/-- `WEEKDAY`. -/
def weekday : Scalar := fun _ cell _ =>
  (dateOf? cell).map fun d => .text d.weekday

/-- `DAYS_BETWEEN`. An end that is left out or blank is today. -/
def daysBetween : Scalar := fun context cell args =>
  (dateOf? cell).bind fun start =>
    let finish? := match filledAt? args 0 with
      | some finish => dateOf? finish
      | none => some context.today
    finish?.map fun finish => ofInteger (start.daysUntil finish)

/-- `AGE_IN_YEARS`. -/
def ageInYears : Scalar := fun context cell _ =>
  (dateOf? cell).map fun born => ofInteger (born.age context.today)

end ColumnChain.Function
