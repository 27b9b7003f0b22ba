import ColumnChain.Calendar.Date
import ColumnChain.Number.Reading
import ColumnChain.Text.Blank

/-!
# Reading dates and times

A layout is a list of items that a text is read against from left to right. Numbers may
have blanks before them and fewer digits than their width, and a year with a sign may
have any number of digits. What the items read is collected by field; a date or a time
of day is made of the fields afterwards, if there is one with these values.
-/

namespace ColumnChain.Calendar

/-- What a number in a layout stands for. -/
inductive Field where
  | year
  | month
  | day
  | hour
  | minute
  | second
  deriving DecidableEq

namespace Field

/-- The largest number of digits. -/
def width : Field → Nat
  | year => 4
  | _ => 2

end Field

/-- One item of a layout. -/
inductive Item where
  /-- A number, with blanks before it and at most its width in digits. -/
  | number (field : Field)
  /-- A number of exactly its width, with nothing before it. -/
  | digits (field : Field)
  /-- An English month name: three letters, or the whole name too. -/
  | monthName (whole : Bool)
  /-- This very character. -/
  | literal (c : Char)
  /-- A `T` in either case, or a space. -/
  | timeMark
  /-- Any number of blanks. -/
  | blanks
  /-- A point and a fraction of the second, or nothing. -/
  | fraction

/-- The fields read so far. -/
structure Fields where
  year : Int := 0
  month : Nat := 0
  day : Nat := 0
  hour : Nat := 0
  minute : Nat := 0
  second : Nat := 0
  nanosecond : Nat := 0

namespace Fields

/-- Record a number; only the year may be negative. -/
def record (fields : Fields) (value : Int) : Field → Fields
  | .year => { fields with year := value }
  | .month => { fields with month := value.toNat }
  | .day => { fields with day := value.toNat }
  | .hour => { fields with hour := value.toNat }
  | .minute => { fields with minute := value.toNat }
  | .second => { fields with second := value.toNat }

/-- The date these fields make. -/
def date? (fields : Fields) : Option Date :=
  Date.of? fields.year fields.month fields.day

/-- The second of the day and its nanoseconds. The sixty-first second of a minute is the
sixtieth with a second's worth of nanoseconds more. -/
def timeOfDay? (fields : Fields) : Option (Nat × Nat) :=
  if fields.hour ≤ 23 ∧ fields.minute ≤ 59 ∧ fields.second ≤ 60 then
    let start := 3600 * fields.hour + 60 * fields.minute
    if fields.second = 60 then some (start + 59, 1000000000 + fields.nanosecond)
    else some (start + fields.second, fields.nanosecond)
  else none

end Fields

/-- Read between one and `most` digits. -/
def readDigits? (most : Nat) (text : List Char) : Option (Nat × List Char) :=
  let digits := (text.take most).takeWhile Char.isDigit
  if digits.isEmpty then none
  else some (Number.ofDigits digits, text.drop digits.length)

/-- Read every digit there is, at least one. -/
def readAllDigits? (text : List Char) : Option (Nat × List Char) :=
  let (digits, rest) := Number.spanDigits text
  if digits.isEmpty then none else some (Number.ofDigits digits, rest)

/-- Read a number that may have fewer digits than its field is wide. -/
def readNumber? (field : Field) (text : List Char) : Option (Int × List Char) :=
  match field, Text.trimStart text with
  | .year, '-' :: rest => (readAllDigits? rest).map fun (n, rest) => (-(n : Int), rest)
  | .year, '+' :: rest => (readAllDigits? rest).map fun (n, rest) => ((n : Int), rest)
  | _, text => (readDigits? field.width text).map fun (n, rest) => ((n : Int), rest)

/-- Read a number of exactly the width of its field. -/
def readExact? (field : Field) (text : List Char) : Option (Int × List Char) :=
  let digits := text.take field.width
  if digits.length = field.width ∧ digits.all Char.isDigit then
    some ((Number.ofDigits digits : Int), text.drop field.width)
  else none

/-- The month names, as their first three letters and the others. -/
def monthNames : List (String × String) :=
  [("jan", "uary"), ("feb", "ruary"), ("mar", "ch"), ("apr", "il"), ("may", ""),
    ("jun", "e"), ("jul", "y"), ("aug", "ust"), ("sep", "tember"), ("oct", "ober"),
    ("nov", "ember"), ("dec", "ember")]

/-- What follows a word in lower-case letters, in any letter case. -/
def afterWord? (word : List Char) (text : List Char) : Option (List Char) :=
  if (text.take word.length).map Char.toLower = word then some (text.drop word.length)
  else none

/-- Read a month name; of a whole name the letters after the third may be missing. -/
def readMonthName? (whole : Bool) (text : List Char) : Option (Nat × List Char) :=
  let rec look : Nat → List (String × String) → Option (Nat × List Char)
    | _, [] => none
    | month, (short, others) :: names =>
        match afterWord? short.toList text with
        | some rest =>
            some (month, if whole then (afterWord? others.toList rest).getD rest else rest)
        | none => look (month + 1) names
  look 1 monthNames

/-- Read a fraction of a second: nine digits count, further ones are passed over. -/
def readFraction? (text : List Char) : Option (Nat × List Char) :=
  let (digits, rest) := Number.spanDigits text
  let counted := digits.take 9
  if digits.isEmpty then none
  else some (Number.ofDigits counted * 10 ^ (9 - counted.length), rest)

/-- Read one item. -/
def Item.read? (fields : Fields) (text : List Char) : Item → Option (Fields × List Char)
  | .number field =>
      (readNumber? field text).map fun (value, rest) => (fields.record value field, rest)
  | .digits field =>
      (readExact? field text).map fun (value, rest) => (fields.record value field, rest)
  | .monthName whole =>
      (readMonthName? whole text).map fun (month, rest) => (fields.record month .month, rest)
  | .literal c =>
      match text with
      | first :: rest => if first = c then some (fields, rest) else none
      | [] => none
  | .timeMark =>
      match text with
      | first :: rest =>
          if first = 'T' ∨ first = 't' ∨ first = ' ' then some (fields, rest) else none
      | [] => none
  | .blanks => some (fields, Text.trimStart text)
  | .fraction =>
      match text with
      | '.' :: rest =>
          (readFraction? rest).map fun (value, rest) =>
            ({ fields with nanosecond := value }, rest)
      | _ => some (fields, text)

/-- Read a text against a layout, with what is left of it. -/
def readItems? : List Item → Fields → List Char → Option (Fields × List Char)
  | [], fields, text => some (fields, text)
  | item :: items, fields, text => do
      let (fields, rest) ← item.read? fields text
      readItems? items fields rest

/-- Read the whole of a text against a layout. -/
def readAll? (items : List Item) (text : List Char) : Option Fields := do
  let (fields, rest) ← readItems? items {} text
  if rest.isEmpty then return fields else none

/-- Year, month and day with the same character between them. -/
def yearFirst (separator : Char) : List Item :=
  [.number .year, .literal separator, .number .month, .literal separator, .number .day]

@[inherit_doc yearFirst]
def monthFirst (separator : Char) : List Item :=
  [.number .month, .literal separator, .number .day, .literal separator, .number .year]

@[inherit_doc yearFirst]
def dayFirst (separator : Char) : List Item :=
  [.number .day, .literal separator, .number .month, .literal separator, .number .year]

/-- Month name, day and year. -/
def named (whole : Bool) : List Item :=
  [.monthName whole, .blanks, .number .day, .literal ',', .blanks, .number .year]

/-- The layouts of a date alone, in the order in which they are tried. Between slashes
the month comes first wherever that makes a date. -/
def dateLayouts : List (List Item) :=
  [yearFirst '-', yearFirst '/', monthFirst '/', dayFirst '/', dayFirst '.', named false,
    named true]

/-- Hours, minutes and seconds. -/
def timeItems : List Item :=
  [.number .hour, .literal ':', .number .minute, .literal ':', .number .second, .fraction]

/-- The layouts of a date with a time of day. -/
def dateTimeLayouts : List (List Item) :=
  [yearFirst '-' ++ .literal 'T' :: timeItems, yearFirst '-' ++ .blanks :: timeItems]

/-- The items of a time stamp with every number at its full width. -/
def stampItems : List Item :=
  [.digits .year, .literal '-', .digits .month, .literal '-', .digits .day, .timeMark,
    .digits .hour, .literal ':', .digits .minute, .literal ':', .digits .second, .fraction]

/-- Whether the distance from universal time is written as it should be: `Z`, or a sign,
two digits of hours, a colon and two digits of minutes, and less than a day. -/
def isStampOffset : List Char → Bool
  | ['Z'] | ['z'] => true
  | [sign, h₁, h₂, ':', m₁, m₂] =>
      (sign == '+' || sign == '-' || sign == '−') && h₁.isDigit && h₂.isDigit && m₁.isDigit &&
        m₂.isDigit && Number.ofDigits [h₁, h₂] ≤ 23 && Number.ofDigits [m₁, m₂] ≤ 59
  | _ => false

/-- The date of a time stamp, as written. -/
def stampDate? (text : List Char) : Option Date := do
  let (fields, rest) ← readItems? stampItems {} text
  let date ← fields.date?
  let _ ← fields.timeOfDay?
  if isStampOffset rest then return date else none

/-- The date of a date with a time of day. -/
def dateTimeDate? (layout : List Item) (text : List Char) : Option Date := do
  let fields ← readAll? layout text
  let date ← fields.date?
  let _ ← fields.timeOfDay?
  return date

/-- Read a date in any of the accepted layouts: a date alone, a time stamp, or a date
with a time of day. -/
def readDate? (text : List Char) : Option Date :=
  let text := Text.trim text
  if text.isEmpty then none
  else
    (dateLayouts.findSome? fun layout => (readAll? layout text).bind Fields.date?).or <|
    (stampDate? text).or <|
    dateTimeLayouts.findSome? fun layout => dateTimeDate? layout text

end ColumnChain.Calendar
