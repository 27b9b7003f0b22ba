import ColumnChain.Number.Writing

/-!
# Calendar dates

Dates of the proleptic Gregorian calendar within a fixed range of years. A date is a
year, a month and a day that exist; every date also has an ordinal, the number of days
since the end of the year before year one, and shifting by days, telling the distance of
two dates and naming weekdays are arithmetic on ordinals.
-/

namespace ColumnChain

/-- The range of years. -/
def firstYear : Int := -262143

@[inherit_doc firstYear]
def lastYear : Int := 262142

/-- Every fourth year, but of the hundredth years only every fourth. -/
def isLeapYear (year : Int) : Bool :=
  year % 4 == 0 && (year % 100 != 0 || year % 400 == 0)

/-- The number of days of a month; zero for a number that is not a month. -/
def monthLength (year : Int) : Nat → Nat
  | 1 | 3 | 5 | 7 | 8 | 10 | 12 => 31
  | 4 | 6 | 9 | 11 => 30
  | 2 => if isLeapYear year then 29 else 28
  | _ => 0

/-- Whether a year, a month and a day make a date. -/
def IsDate (year : Int) (month day : Nat) : Prop :=
  firstYear ≤ year ∧ year ≤ lastYear ∧ 1 ≤ day ∧ day ≤ monthLength year month

instance (year : Int) (month day : Nat) : Decidable (IsDate year month day) :=
  inferInstanceAs (Decidable (_ ∧ _))

/-- A date that exists. -/
structure Date where
  year : Int
  month : Nat
  day : Nat
  isDate : IsDate year month day
  deriving DecidableEq

namespace Date

/-- The date of a year, a month and a day, if it exists. -/
def of? (year : Int) (month day : Nat) : Option Date :=
  if h : IsDate year month day then some ⟨year, month, day, h⟩ else none

/-- The first day of the year 1970, from which clocks count. -/
def epoch : Date :=
  ⟨1970, 1, 1, by decide⟩

instance : Inhabited Date :=
  ⟨epoch⟩

/-- The days before a year, counted from the start of year one. -/
def daysBeforeYear (year : Int) : Int :=
  let past := year - 1
  365 * past + past / 4 - past / 100 + past / 400

/-- The days of a year before a month. -/
def daysBeforeMonth (year : Int) : Nat → Nat
  | 0 => 0
  | month + 1 => daysBeforeMonth year month + monthLength year month

/-- The number of the day, one being the first day of year one. -/
def ordinal (d : Date) : Int :=
  daysBeforeYear d.year + daysBeforeMonth d.year d.month + d.day

/-- The year a day falls in. Four hundred years have 146097 days, so the first guess is
off by at most one. -/
def yearOf (ordinal : Int) : Int :=
  let guess := ordinal * 400 / 146097 + 1
  if ordinal ≤ daysBeforeYear guess then guess - 1
  else if daysBeforeYear (guess + 1) < ordinal then guess + 1
  else guess

/-- The month and day of the `day`-th day of a year, looked for from `month` on, that
many months being left. -/
def monthAndDay (year : Int) : Nat → Nat → Nat → Nat × Nat
  | 0, month, day => (month, day)
  | left + 1, month, day =>
      if day ≤ monthLength year month then (month, day)
      else monthAndDay year left (month + 1) (day - monthLength year month)

/-- The date with an ordinal, if it lies in the range of years. -/
def ofOrdinal? (ordinal : Int) : Option Date :=
  let year := yearOf ordinal
  let (month, day) := monthAndDay year 11 1 (ordinal - daysBeforeYear year).toNat
  of? year month day

/-- Shift by days; nothing outside the range of years. -/
def addDays? (d : Date) (days : Int) : Option Date :=
  ofOrdinal? (d.ordinal + days)

/-- Shift by months; a day that the month does not have becomes its last day. -/
def addMonths? (d : Date) (months : Int) : Option Date :=
  let count := 12 * d.year + (d.month - 1 : Nat) + months
  let year := count / 12
  let month := (count % 12).toNat + 1
  of? year month (min d.day (monthLength year month))

/-- The days from one date to another. -/
def daysUntil (start finish : Date) : Int :=
  finish.ordinal - start.ordinal

/-- The English names of the weekdays, from Monday. -/
def weekdayNames : List String :=
  ["Monday", "Tuesday", "Wednesday", "Thursday", "Friday", "Saturday", "Sunday"]

/-- The English name of the weekday. The first day of year one is a Monday. -/
def weekday (d : Date) : String :=
  weekdayNames.getD ((d.ordinal - 1) % 7).toNat ""

/-- Whole years from a birth date to a day: the last birthday may be still to come. -/
def age (born today : Date) : Int :=
  let years := today.year - born.year
  if today.month < born.month || (today.month == born.month && today.day < born.day) then
    years - 1
  else years

/-- A number with zeros in front up to a width. -/
def padded (width n : Nat) : List Char :=
  let digits := Number.naturalText n
  List.replicate (width - digits.length) '0' ++ digits

/-- A year of four digits; beyond them it has a sign and at least four digits. -/
def yearText (year : Int) : List Char :=
  if 0 ≤ year ∧ year ≤ 9999 then padded 4 year.toNat
  else (if year < 0 then '-' else '+') :: padded 4 year.natAbs

/-- The month in two digits. -/
def monthText (d : Date) : List Char :=
  padded 2 d.month

/-- The day in two digits. -/
def dayText (d : Date) : List Char :=
  padded 2 d.day

/-- Year, month and day, joined by hyphens. -/
def iso (d : Date) : List Char :=
  yearText d.year ++ '-' :: d.monthText ++ '-' :: d.dayText

end Date
end ColumnChain
