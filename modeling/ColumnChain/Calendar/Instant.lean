import ColumnChain.Calendar.Layout

/-!
# Instants

A moment in universal time, to the nanosecond: a date, a second of the day and the
nanoseconds since that second began. A leap second is the second before it with a
thousand million nanoseconds more. Instants are written as time stamps ending in `Z`
with as many digits of the fraction, in groups of three, as are needed.
-/

namespace ColumnChain

/-- A moment in universal time. -/
structure Instant where
  date : Date
  second : Nat
  nanosecond : Nat
  deriving DecidableEq, Inhabited

namespace Instant

/-- The later of two instants is the greater one. -/
def compare (left right : Instant) : Ordering :=
  (Ord.compare left.date.ordinal right.date.ordinal).then <|
    (Ord.compare left.second right.second).then <|
      Ord.compare left.nanosecond right.nanosecond

/-- The instant so many nanoseconds after the beginning of the year 1970. -/
def ofNanoseconds? (count : Int) : Option Instant := do
  let seconds := count / 1000000000
  let date ← Date.epoch.addDays? (seconds / 86400)
  return {
    date
    second := (seconds % 86400).toNat
    nanosecond := (count % 1000000000).toNat }

/-- The fraction of a second: nothing, or a point and three, six or nine digits. -/
def fractionText (nanosecond : Nat) : List Char :=
  if nanosecond = 0 then []
  else if nanosecond % 1000000 = 0 then '.' :: Date.padded 3 (nanosecond / 1000000)
  else if nanosecond % 1000 = 0 then '.' :: Date.padded 6 (nanosecond / 1000)
  else '.' :: Date.padded 9 nanosecond

/-- Hours, minutes and seconds in two digits each, with a character between them. -/
def clockText (separator : Char) (i : Instant) : List Char :=
  let extra := i.nanosecond / 1000000000
  Date.padded 2 (i.second / 3600) ++ separator :: Date.padded 2 (i.second / 60 % 60) ++
    separator :: Date.padded 2 (i.second % 60 + extra)

/-- The time stamp. -/
def stamp (i : Instant) : String :=
  String.ofList <| i.date.iso ++ 'T' :: i.clockText ':' ++
    fractionText (i.nanosecond % 1000000000) ++ ['Z']

/-- A form of the time stamp, to the millisecond, that can be a file name. -/
def fileStamp (i : Instant) : String :=
  String.ofList <| i.date.iso ++ 'T' :: i.clockText '-' ++
    '.' :: Date.padded 3 (i.nanosecond % 1000000000 / 1000000)

/-- The instant that many seconds earlier. -/
def earlier? (i : Instant) (seconds : Int) : Option Instant := do
  let total := (i.second : Int) - seconds
  let date ← i.date.addDays? (total / 86400)
  return { i with date, second := (total % 86400).toNat }

/-- The items of a time stamp that may have blanks and short numbers in it. -/
def dateItems : List Calendar.Item :=
  [.number .year, .blanks, .literal '-', .number .month, .blanks, .literal '-', .number .day]

@[inherit_doc dateItems]
def timeItems : List Calendar.Item :=
  [.timeMark, .number .hour, .blanks, .literal ':', .number .minute, .blanks, .literal ':',
    .number .second, .fraction, .blanks]

/-- Read the distance from universal time, in seconds: `Z`, `UTC`, or a sign, two digits
of hours and two of minutes with colons or blanks between them. -/
def readOffset? (text : List Char) : Option (Int × List Char) :=
  match Calendar.afterWord? ['u', 't', 'c'] text with
  | some rest => some (0, rest)
  | none =>
      match text with
      | 'Z' :: rest | 'z' :: rest => some (0, rest)
      | sign :: h₁ :: h₂ :: rest =>
          let rest := rest.dropWhile fun c => c == ':' || Text.isBlank c
          match rest with
          | m₁ :: m₂ :: rest =>
              if (sign == '+' || sign == '-' || sign == '−') && h₁.isDigit && h₂.isDigit &&
                  m₁.isDigit && m₂.isDigit && Number.ofDigits [m₁, m₂] ≤ 59 then
                let seconds : Int :=
                  3600 * Number.ofDigits [h₁, h₂] + 60 * Number.ofDigits [m₁, m₂]
                some (if sign == '+' then seconds else -seconds, rest)
              else none
          | _ => none
      | _ => none

/-- Read a time stamp. -/
def read? (text : List Char) : Option Instant := do
  let (fields, rest) ← Calendar.readItems? (dateItems ++ timeItems) {} text
  let (offset, rest) ← readOffset? rest
  let date ← fields.date?
  let (second, nanosecond) ← fields.timeOfDay?
  if Text.allBlank rest && offset.natAbs < 86400 then
    Instant.earlier? ⟨date, second, nanosecond⟩ offset
  else none

end Instant

/-- Read a date written as year, month and day; blanks may stand around them. -/
def Date.read? (text : List Char) : Option Date :=
  (Calendar.readAll? (Instant.dateItems ++ [.blanks]) text).bind Calendar.Fields.date?

end ColumnChain
