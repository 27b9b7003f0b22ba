import ColumnChain.Proofs.Dispatch
import ColumnChain.Proofs.Stamps

/-!
# Dates that are written are read

A date is read in the first layout that makes a date of the whole text. What `FORMAT_DATE`
writes is read in the layout that it was written in: the layouts before that one stop at the
sign between the numbers, or they take two digits of the year for the day and leave the rest
of it. Only a date with the day in front and a day that is a month, too, is read with the
month in front.
-/

namespace ColumnChain

/-- A text without blanks at its ends stays as it is. -/
theorem Text.trim_eq_self {text : List Char} (filled : text ≠ [])
    (starts : ∀ c ∈ text.head?, isBlank c = false)
    (ends : ∀ c ∈ text.getLast?, isBlank c = false) : trim text = text := by
  have whole := trim_append isBlank_nil isBlank_nil starts ends filled
  rwa [List.nil_append, List.append_nil] at whole

namespace Number.AreDigits

variable {digits : List Char}

/-- Digits have no blank in front. -/
theorem isBlank_head? (are : AreDigits digits) (rest : List Char) :
    ∀ c ∈ (digits ++ rest).head?, Text.isBlank c = false := by
  obtain ⟨c, others, rfl, digit⟩ := are.exists_cons
  intro found same
  cases same
  exact isBlank_eq_false_of_isDigit digit

/-- A text that ends with digits and does not start with a blank stays as it is. -/
theorem trim_append (are : AreDigits digits) (front : List Char)
    (starts : ∀ c ∈ (front ++ digits).head?, Text.isBlank c = false) :
    Text.trim (front ++ digits) = front ++ digits := by
  refine Text.trim_eq_self (by simp [are.filled]) starts fun c last => ?_
  rw [List.getLast?_append_of_ne_nil _ are.filled] at last
  exact isBlank_eq_false_of_isDigit (are.all c (List.mem_of_getLast? last))

end Number.AreDigits

/-! ## Years -/

namespace Date

/-- A year is written in digits, with a sign in front or none. -/
theorem exists_yearText (year : Int) :
    ∃ sign n, yearText year = sign ++ padded 4 n ∧ ∀ c ∈ sign, c = '-' ∨ c = '+' := by
  rw [yearText]
  split
  next => exact ⟨[], _, rfl, by simp⟩
  next => exact ⟨[if year < 0 then '-' else '+'], _, rfl, by simp; omega⟩

/-- Every month has twelve days. -/
theorem le_monthLength {month : Nat} (first : 1 ≤ month) (last : month ≤ 12) (year : Int) :
    12 ≤ monthLength year month := by
  interval_cases month <;> simp only [monthLength]
  all_goals (try split) <;> decide

theorem of?_self (d : Date) : of? d.year d.month d.day = some d :=
  dif_pos d.isDate

/-- Two numbers of two digits and a year, joined by slashes. -/
def slashed (first second : Nat) (year : Int) : List Char :=
  padded 2 first ++ '/' :: (padded 2 second ++ '/' :: yearText year)

theorem trim_iso (d : Date) : Text.trim d.iso = d.iso := by
  obtain ⟨sign, n, year, isSign⟩ := exists_yearText d.year
  have split : d.iso = sign ++ (padded 4 n ++ '-' :: d.monthText ++ ['-']) ++ d.dayText := by
    simp [iso, year]
  rw [split]
  refine (areDigits_padded 2 d.day).trim_append _ ?_
  cases sign with
  | nil =>
      simp only [List.nil_append, List.append_assoc]
      exact (areDigits_padded 4 n).isBlank_head? _
  | cons c others =>
      intro found same
      cases same
      rcases isSign c List.mem_cons_self with rfl | rfl <;> rfl

theorem trim_slashed (first second : Nat) (year : Int) :
    Text.trim (slashed first second year) = slashed first second year := by
  obtain ⟨sign, n, text, -⟩ := exists_yearText year
  have split : slashed first second year =
      padded 2 first ++ '/' :: (padded 2 second ++ '/' :: sign) ++ padded 4 n := by
    simp [slashed, text]
  rw [split]
  refine (areDigits_padded 4 n).trim_append _ ?_
  rw [List.append_assoc]
  exact (areDigits_padded 2 first).isBlank_head? _

end Date

namespace Calendar

open Date

variable {field : Field} {digits rest : List Char} {first second : Nat}

/-! ## Numbers that are shorter than their fields -/

/-- Digits that something else comes after are read as they are, also where there could be
more of them. -/
theorem readNumber?_of_le (are : Number.AreDigits digits) (short : digits.length ≤ field.width)
    (ends : ∀ c ∈ rest.head?, c.isDigit = false) :
    readNumber? field (digits ++ rest) = some ((Number.ofDigits digits : Int), rest) := by
  have stops (count : Nat) : (rest.take count).takeWhile Char.isDigit = [] := by
    cases rest with
    | nil => simp
    | cons c others => cases count <;> simp [ends c rfl]
  have read : readDigits? field.width (digits ++ rest) = some (Number.ofDigits digits, rest) := by
    simp [readDigits?, List.take_append, List.take_of_length_le short,
      List.takeWhile_append_of_pos are.all, stops, are.filled]
  rw [readNumber?_digits are, read, Option.map_some]

theorem readNumber?_padded_slash (field : Field) {n : Nat} (small : n < 100)
    (rest : List Char) :
    readNumber? field (padded 2 n ++ '/' :: rest) = some ((n : Int), '/' :: rest) := by
  have short : (padded 2 n).length ≤ field.width := by
    rw [length_padded (by decide) small]
    cases field <;> decide
  rw [readNumber?_of_le (areDigits_padded 2 n) short (by simp), ofDigits_padded]

/-- A year at the end of a text is read as it is. -/
theorem readNumber?_yearText_nil (year : Int) :
    readNumber? .year (yearText year) = some (year, []) := by
  have read : readNumber? .year (yearText year ++ []) = some (year, []) :=
    readNumber?_yearText year (by simp)
  rwa [List.append_nil] at read

/-- A year that is taken for a number of two digits has a sign in front or digits left. -/
theorem readNumber?_day_yearText (year : Int) :
    readNumber? .day (yearText year) = none ∨
      ∃ n c rest, readNumber? .day (yearText year) = some (n, c :: rest) := by
  obtain ⟨sign, n, text, isSign⟩ := exists_yearText year
  rw [text]
  cases sign with
  | cons c others =>
      left
      rcases isSign c List.mem_cons_self with rfl | rfl <;> rfl
  | nil =>
      right
      have are := areDigits_padded 4 n
      have long : 2 < (padded 4 n).length := by simp [padded]; omega
      generalize padded 4 n = digits at are long
      obtain ⟨front, c, rest, split, two⟩ : ∃ front c rest,
          digits = front ++ c :: rest ∧ front.length = Field.width .day :=
        ⟨digits.take 2, digits[2], digits.drop 3, by simp, by simp [Field.width]; omega⟩
      have first : Number.AreDigits front := by
        refine ⟨?_, fun d member => are.all d (by simp [split, member])⟩
        rintro rfl
        cases two
      refine ⟨Number.ofDigits front, c, rest, ?_⟩
      rw [List.nil_append, split, readNumber?_append first two]

/-! ## Layouts -/

section Slashed

variable (smallFirst : first < 100) (smallSecond : second < 100) (year : Int)

include smallFirst

/-- A slash is not the sign that is expected after the first number. -/
theorem readAll?_hyphens_slashed :
    readAll? (yearFirst '-') (slashed first second year) = none := by
  simp [readAll?, yearFirst, readItems?, Item.read?, slashed,
    readNumber?_padded_slash _ smallFirst]

include smallSecond

theorem readAll?_yearFirst_slashed :
    readAll? (yearFirst '/') (slashed first second year) = none := by
  rcases readNumber?_day_yearText year with none | ⟨n, c, rest, some⟩
  · simp [readAll?, yearFirst, readItems?, Item.read?, slashed,
      readNumber?_padded_slash _ smallFirst, readNumber?_padded_slash _ smallSecond, none]
  · simp [readAll?, yearFirst, readItems?, Item.read?, slashed,
      readNumber?_padded_slash _ smallFirst, readNumber?_padded_slash _ smallSecond, some]

theorem readAll?_monthFirst_slashed :
    readAll? (monthFirst '/') (slashed first second year) =
      some { month := first, day := second, year } := by
  have read := readNumber?_yearText_nil year
  simp [readAll?, monthFirst, readItems?, Item.read?, slashed, Fields.record,
    readNumber?_padded_slash _ smallFirst, readNumber?_padded_slash _ smallSecond, read]

theorem readAll?_dayFirst_slashed :
    readAll? (dayFirst '/') (slashed first second year) =
      some { day := first, month := second, year } := by
  have read := readNumber?_yearText_nil year
  simp [readAll?, dayFirst, readItems?, Item.read?, slashed, Fields.record,
    readNumber?_padded_slash _ smallFirst, readNumber?_padded_slash _ smallSecond, read]

end Slashed

theorem readAll?_iso (d : Date) :
    readAll? (yearFirst '-') d.iso = some { year := d.year, month := d.month, day := d.day } := by
  have ⟨_, twelve, days⟩ := d.month_and_day_le
  have year (text : List Char) : readNumber? .year (yearText d.year ++ '-' :: text) =
      some (d.year, '-' :: text) := readNumber?_yearText d.year (by simp)
  have month (text : List Char) : readNumber? .month (padded 2 d.month ++ text) =
      some ((d.month : Int), text) := readNumber?_padded (by decide) (by omega)
  have day : readNumber? .day (padded 2 d.day) = some ((d.day : Int), []) := by
    have read : readNumber? .day (padded 2 d.day ++ []) = some ((d.day : Int), []) :=
      readNumber?_padded (by decide) (by omega)
    rwa [List.append_nil] at read
  simp [readAll?, yearFirst, readItems?, Item.read?, iso, monthText, dayText, Fields.record,
    year, month, day]

/-! ## Dates -/

/-- A text without blanks at its ends is read as a whole in one layout after the other. -/
theorem readDate?_eq {text : List Char} (trimmed : Text.trim text = text)
    (filled : text ≠ []) :
    readDate? text =
      (dateLayouts.findSome? fun layout => (readAll? layout text).bind Fields.date?).or
        ((stampDate? text).or
          (dateTimeLayouts.findSome? fun layout => dateTimeDate? layout text)) := by
  simp only [readDate?, trimmed, List.isEmpty_iff, if_neg filled]

theorem readDate?_iso (d : Date) : readDate? d.iso = some d := by
  rw [readDate?_eq d.trim_iso (by simp [iso]), dateLayouts, List.findSome?_cons, readAll?_iso,
    Option.bind_some, Fields.date?, d.of?_self, Option.some_or]

/-- Two numbers and a year are a date with the month in front where there is one, and else a
date with the day in front. -/
theorem readDate?_slashed (smallFirst : first < 100) (smallSecond : second < 100) {year : Int}
    {d : Date} (found : (of? year first second).or (of? year second first) = some d) :
    readDate? (slashed first second year) = some d := by
  rw [readDate?_eq (trim_slashed ..) (by simp [slashed]), dateLayouts]
  simp only [List.findSome?_cons, readAll?_hyphens_slashed smallFirst,
    readAll?_yearFirst_slashed smallFirst smallSecond,
    readAll?_monthFirst_slashed smallFirst smallSecond,
    readAll?_dayFirst_slashed smallFirst smallSecond, Option.bind_none, Option.bind_some,
    Fields.date?]
  cases monthFirst : of? year first second with
  | some date => rwa [monthFirst] at found
  | none =>
      rw [monthFirst, Option.none_or] at found
      rw [found, Option.some_or]

/-- Written with the month in front, a date is read as it is. -/
theorem readDate?_monthFirst (d : Date) :
    readDate? (slashed d.month d.day d.year) = some d := by
  have ⟨_, twelve, days⟩ := d.month_and_day_le
  refine readDate?_slashed (by omega) (by omega) ?_
  rw [d.of?_self, Option.some_or]

/-- Written with the day in front, a date is read as it is where the day is no month. -/
theorem readDate?_dayFirst {d : Date} (late : 12 < d.day) :
    readDate? (slashed d.day d.month d.year) = some d := by
  have ⟨_, twelve, days⟩ := d.month_and_day_le
  have noMonth : of? d.year d.day d.month = none := by
    refine dif_neg fun isDate => ?_
    obtain ⟨-, -, positive, inMonth⟩ := isDate
    have month := month_of_monthLength_pos (Nat.lt_of_lt_of_le positive inMonth)
    omega
  refine readDate?_slashed (by omega) (by omega) ?_
  rw [noMonth, Option.none_or, d.of?_self]

/-- Written with the day in front, a date is read with day and month exchanged where the day
is a month, too. -/
theorem exists_readDate?_dayFirst {d : Date} (early : d.day ≤ 12) :
    ∃ e : Date, readDate? (slashed d.day d.month d.year) = some e ∧
      e.year = d.year ∧ e.month = d.day ∧ e.day = d.month := by
  have ⟨first, twelve, days⟩ := d.month_and_day_le
  obtain ⟨after, upTo, positive, -⟩ := d.isDate
  have enough := le_monthLength positive early d.year
  have isDate : IsDate d.year d.day d.month := ⟨after, upTo, first, by omega⟩
  refine ⟨⟨d.year, d.day, d.month, isDate⟩, ?_, rfl, rfl, rfl⟩
  refine readDate?_slashed (by omega) (by omega) ?_
  rw [of?, dif_pos isDate, Option.some_or]

end Calendar

/-! ## Cells that are formatted -/

open ColumnChain.Function Calendar

namespace Function

theorem dateOf?_ofChars (text : List Char) : dateOf? (ofChars text) = readDate? text := by
  change readDate? (String.ofList text).toList = readDate? text
  rw [String.toList_ofList]

/-- A date is a cell that denotes it. -/
theorem dateOf?_ofDate (d : Date) : dateOf? (ofDate d) = some d := by
  rw [ofDate, dateOf?_ofChars, readDate?_iso]

end Function

namespace Engine

variable (engine : Engine) (token : Token 8) {d : Date} {cell : Cell}

theorem apply_formatDate (cell : Cell) (layout : String) :
    engine.apply token "FORMAT_DATE" cell [.text layout] =
      (formatDate (engine.context token) cell [.text layout]).getD cell := rfl

/-- A cell that denotes a date is written in the layout that is named. -/
theorem apply_formatDate_of_dateOf? (denotes : dateOf? cell = some d) {layout : String}
    {text : List Char}
    (named : dateLayout? (String.ofList (Text.upper (Text.trim layout.toList))) d = some text) :
    engine.apply token "FORMAT_DATE" cell [.text layout] = ofChars text := by
  have here : textAt? [.text layout] 0 = some layout.toList := rfl
  rw [apply_formatDate, formatDate, denotes, Option.bind_some, here, Option.bind_some, named,
    Option.map_some, Option.getD_some]

/-- Every date is denoted by a cell, and what `FORMAT_DATE` makes of a cell that denotes the
date denotes it again, in two of the layouts always and in the third where the day is no
month. Where the day is a month, day and month are exchanged there. -/
theorem dateOf?_formatDate (d : Date) :
    dateOf? (ofDate d) = some d ∧
      ∀ cell, dateOf? cell = some d →
        dateOf? (engine.apply token "FORMAT_DATE" cell [.text "YYYY-MM-DD"]) = some d ∧
        dateOf? (engine.apply token "FORMAT_DATE" cell [.text "MM/DD/YYYY"]) = some d ∧
        (12 < d.day →
          dateOf? (engine.apply token "FORMAT_DATE" cell [.text "DD/MM/YYYY"]) = some d) ∧
        (d.day ≤ 12 → ∃ e,
          dateOf? (engine.apply token "FORMAT_DATE" cell [.text "DD/MM/YYYY"]) = some e ∧
            e.year = d.year ∧ e.month = d.day ∧ e.day = d.month) := by
  refine ⟨dateOf?_ofDate d, fun cell denotes => ?_⟩
  have iso : engine.apply token "FORMAT_DATE" cell [.text "YYYY-MM-DD"] = ofChars d.iso :=
    engine.apply_formatDate_of_dateOf? token denotes rfl
  have monthFirst : engine.apply token "FORMAT_DATE" cell [.text "MM/DD/YYYY"] =
      ofChars (Date.slashed d.month d.day d.year) :=
    engine.apply_formatDate_of_dateOf? token denotes
      (congrArg some (List.append_assoc d.monthText ('/' :: d.dayText) _))
  have dayFirst : engine.apply token "FORMAT_DATE" cell [.text "DD/MM/YYYY"] =
      ofChars (Date.slashed d.day d.month d.year) :=
    engine.apply_formatDate_of_dateOf? token denotes
      (congrArg some (List.append_assoc d.dayText ('/' :: d.monthText) _))
  rw [iso, monthFirst, dayFirst]
  simp only [dateOf?_ofChars]
  exact ⟨readDate?_iso d, readDate?_monthFirst d, readDate?_dayFirst, exists_readDate?_dayFirst⟩

/-- The last day of a month that is a month, too, in a year with a sign, and a later one in a
year of five digits. -/
theorem dateOf?_formatDate_borders :
    let before : Date := ⟨-43, 3, 12, by decide⟩
    let after : Date := ⟨20240, 2, 29, by decide⟩
    dateOf? (.text " -043/03/12") = some before ∧ before.day ≤ 12 ∧
      dateOf? (.text "Feb 29, +20240") = some after ∧ 12 < after.day ∧
      ∀ (engine : Engine) (token : Token 8),
        (∃ e, dateOf? (engine.apply token "FORMAT_DATE" (.text " -043/03/12")
            [.text "DD/MM/YYYY"]) = some e ∧ e.year = -43 ∧ e.month = 12 ∧ e.day = 3) ∧
          dateOf? (engine.apply token "FORMAT_DATE" (.text "Feb 29, +20240")
            [.text "DD/MM/YYYY"]) = some after := by
  intro before after
  have readsBefore : dateOf? (.text " -043/03/12") = some before := by decide
  have readsAfter : dateOf? (.text "Feb 29, +20240") = some after := by decide
  have early : before.day ≤ 12 := by decide
  have late : 12 < after.day := by decide
  refine ⟨readsBefore, early, readsAfter, late, fun engine token => ⟨?_, ?_⟩⟩
  · exact ((engine.dateOf?_formatDate token before).2 _ readsBefore).2.2.2 early
  · exact ((engine.dateOf?_formatDate token after).2 _ readsAfter).2.2.1 late

end Engine
end ColumnChain
