import ColumnChain.Proofs.Integers
import ColumnChain.Proofs.Ordinals
import ColumnChain.Proofs.WrittenDates

/-!
# Shifts by days and weeks

A date that is shifted by days is written as a text and read again by the next function.
Nothing is lost on the way: shifts add up, the days between the two dates are those of the
shift, and weeks are seven days each, which leave the weekday as it was. A shift out of the
range of years leaves the cell as it is.
-/

namespace ColumnChain

namespace Date

variable {d e : Date} {days : Int}

/-- Within the range of years there is a date so many days later. -/
theorem exists_addDays?_eq (inRange : IsDay (d.ordinal + days)) :
    ∃ e, d.addDays? days = some e := by
  obtain ⟨e, same⟩ := exists_ordinal_eq_iff.2 inRange
  exact ⟨e, addDays?_eq_some_iff.2 same⟩

/-- Two shifts lead where one shift by the sum of their days leads. -/
theorem addDays?_addDays? (shift : d.addDays? days = some e) (more : Int) :
    e.addDays? more = d.addDays? (days + more) := by
  rw [addDays?, addDays?, addDays?_eq_some_iff.1 shift, Int.add_assoc]

/-- The days from a date to one that it is shifted to are those of the shift. -/
theorem daysUntil_of_addDays? (shift : d.addDays? days = some e) : d.daysUntil e = days := by
  rw [daysUntil, addDays?_eq_some_iff.1 shift, add_sub_cancel_left]

/-- Whole weeks later it is the same weekday. -/
theorem weekday_of_addDays? {weeks : Int} (shift : d.addDays? (7 * weeks) = some e) :
    e.weekday = d.weekday := by
  have same : (e.ordinal - 1) % 7 = (d.ordinal - 1) % 7 := by
    rw [addDays?_eq_some_iff.1 shift]
    omega
  rw [weekday, weekday, same]

/-- The days between two dates are few enough to be a number. -/
theorem natAbs_daysUntil_lt (start finish : Date) :
    (start.daysUntil finish).natAbs < 2 ^ 53 := by
  have fromStart := start.natAbs_ordinal_le
  have toFinish := finish.natAbs_ordinal_le
  rw [daysUntil]
  omega

end Date

open Date ColumnChain.Function

/-- A text that denotes a date is not blank. -/
theorem Calendar.trim_ne_nil_of_readDate? {text : List Char} {d : Date}
    (read : readDate? text = some d) : Text.trim text ≠ [] := by
  intro blank
  simp [readDate?, blank] at read

theorem Function.isBlank_eq_false_of_dateOf? {cell : Cell} {d : Date}
    (denotes : dateOf? cell = some d) : cell.isBlank = false := by
  cases cell with
  | text value =>
      have filled := Calendar.trim_ne_nil_of_readDate? denotes
      rw [ne_eq, Text.trim_eq_nil_iff, ← Text.allBlank_eq_true_iff, Bool.not_eq_true] at filled
      exact filled
  | null | bool _ | number _ => cases denotes

namespace Engine

variable (engine : Engine) (token : Token 8) {cell amount : Cell} {d e : Date} {n : Int}

/-! ## Functions on cells that denote dates -/

/-- What `DATE_ADD` makes of a cell. -/
def shifted (cell amount : Cell) (unit : String) : Cell :=
  engine.apply token "DATE_ADD" cell [amount, .text unit]

/-- A cell that denotes a date is shifted by the integer part of the amount, and stays as it
is where the shift leads to no date. -/
theorem shifted_eq (denotes : dateOf? cell = some d) (whole : amount.integerPart? = some n)
    (unit : String) :
    engine.shifted token cell amount unit =
      ((shiftDate? d n (unitName unit.toList)).map ofDate).getD cell := by
  have call : engine.shifted token cell amount unit =
      (dateAdd (engine.context token) cell [amount, .text unit]).getD cell := rfl
  have integer : integerAt? [amount, .text unit] 0 = some n := whole
  have text : textAt? [amount, .text unit] 1 = some unit.toList := rfl
  rw [call, dateAdd, denotes, Option.bind_some, integer, Option.bind_some, text,
    Option.bind_some]

theorem shifted_days (denotes : dateOf? cell = some d)
    (whole : amount.integerPart? = some n) :
    engine.shifted token cell amount "days" = ((d.addDays? n).map ofDate).getD cell :=
  engine.shifted_eq token denotes whole "days"

theorem shifted_days_of_addDays? (denotes : dateOf? cell = some d)
    (whole : amount.integerPart? = some n) (shift : d.addDays? n = some e) :
    engine.shifted token cell amount "days" = ofDate e := by
  rw [engine.shifted_days token denotes whole, shift, Option.map_some, Option.getD_some]

theorem shifted_weeks (denotes : dateOf? cell = some d)
    (whole : amount.integerPart? = some n) :
    engine.shifted token cell amount "weeks" = ((d.addDays? (7 * n)).map ofDate).getD cell :=
  engine.shifted_eq token denotes whole "weeks"

theorem apply_daysBetween (start : dateOf? cell = some d) {other : Cell}
    (finish : dateOf? other = some e) :
    engine.apply token "DAYS_BETWEEN" cell [other] = ofInteger (d.daysUntil e) := by
  have call : engine.apply token "DAYS_BETWEEN" cell [other] =
      (daysBetween (engine.context token) cell [other]).getD cell := rfl
  have filled : filledAt? [other] 0 = some other := by
    simp [filledAt?, isBlank_eq_false_of_dateOf? finish]
  simp only [call, daysBetween, start, filled, finish, Option.bind_some, Option.map_some,
    Option.getD_some]

theorem apply_weekday (denotes : dateOf? cell = some d) :
    engine.apply token "WEEKDAY" cell [] = .text d.weekday := by
  have call : engine.apply token "WEEKDAY" cell [] =
      (weekday (engine.context token) cell []).getD cell := rfl
  rw [call, Function.weekday, denotes, Option.map_some, Option.getD_some]

/-- Shifts out of the range of years leave the weekday as it is, too. -/
theorem apply_weekday_shifted_weeks (denotes : dateOf? cell = some d)
    (whole : amount.integerPart? = some n) :
    engine.apply token "WEEKDAY" (engine.shifted token cell amount "weeks") [] =
      .text d.weekday := by
  rw [engine.shifted_weeks token denotes whole]
  cases shift : d.addDays? (7 * n) with
  | none => exact engine.apply_weekday token denotes
  | some e =>
      rw [Option.map_some, Option.getD_some, engine.apply_weekday token (dateOf?_ofDate e),
        weekday_of_addDays? shift]

/-! ## Arithmetic of shifts -/

/-- Within the range of years `DAYS_BETWEEN` counts the days of a shift. -/
theorem isInteger_daysBetween_shifted (denotes : dateOf? cell = some d)
    (whole : amount.integerPart? = some n) (inRange : IsDay (d.ordinal + n)) :
    (engine.apply token "DAYS_BETWEEN" cell
      [engine.shifted token cell amount "days"]).IsInteger n := by
  obtain ⟨e, shift⟩ := exists_addDays?_eq inRange
  have counted := isInteger_ofInteger (natAbs_daysUntil_lt d e)
  rw [engine.shifted_days_of_addDays? token denotes whole shift,
    engine.apply_daysBetween token denotes (dateOf?_ofDate e)]
  rwa [daysUntil_of_addDays? shift] at counted ⊢

/-- Within the range of years two shifts by days are one by the sum of the days. -/
theorem shifted_shifted_days (denotes : dateOf? cell = some d)
    (whole : amount.integerPart? = some n) (inRange : IsDay (d.ordinal + n))
    {more sum : Cell} {m : Int} (wholeMore : more.integerPart? = some m)
    (wholeSum : sum.integerPart? = some (n + m)) (sumInRange : IsDay (d.ordinal + (n + m))) :
    engine.shifted token (engine.shifted token cell amount "days") more "days" =
      engine.shifted token cell sum "days" := by
  obtain ⟨e, shift⟩ := exists_addDays?_eq inRange
  obtain ⟨f, both⟩ := exists_addDays?_eq sumInRange
  have again : e.addDays? m = some f := (addDays?_addDays? shift m).trans both
  rw [engine.shifted_days_of_addDays? token denotes whole shift,
    engine.shifted_days_of_addDays? token (dateOf?_ofDate e) wholeMore again,
    engine.shifted_days_of_addDays? token denotes wholeSum both]

/-- Within the range of years a shift by days is counted by `DAYS_BETWEEN`, and another shift
adds to it. Weeks are seven days each and leave the weekday as it is. A shift that would
leave the range leaves the cell as it is. -/
theorem shifted_days_and_weeks (denotes : dateOf? cell = some d)
    (whole : amount.integerPart? = some n) :
    (IsDay (d.ordinal + n) →
      (engine.apply token "DAYS_BETWEEN" cell
        [engine.shifted token cell amount "days"]).IsInteger n ∧
      ∀ (more sum : Cell) (m : Int), more.integerPart? = some m →
        sum.integerPart? = some (n + m) → IsDay (d.ordinal + (n + m)) →
        engine.shifted token (engine.shifted token cell amount "days") more "days" =
          engine.shifted token cell sum "days") ∧
    (∀ days : Cell, days.integerPart? = some (7 * n) →
      engine.shifted token cell amount "weeks" = engine.shifted token cell days "days") ∧
    engine.apply token "WEEKDAY" cell [] = .text d.weekday ∧
    engine.apply token "WEEKDAY" (engine.shifted token cell amount "weeks") [] =
      .text d.weekday ∧
    (¬ IsDay (d.ordinal + n) → engine.shifted token cell amount "days" = cell) ∧
    (¬ IsDay (d.ordinal + 7 * n) → engine.shifted token cell amount "weeks" = cell) := by
  have byDays := engine.shifted_days token denotes whole
  have byWeeks := engine.shifted_weeks token denotes whole
  refine ⟨fun inRange => ⟨?counted, ?added⟩, ?sevenfold, engine.apply_weekday token denotes,
    engine.apply_weekday_shifted_weeks token denotes whole, fun outside => ?_,
    fun outside => ?_⟩
  case counted => exact engine.isInteger_daysBetween_shifted token denotes whole inRange
  case added =>
    intro more sum m wholeMore wholeSum
    exact engine.shifted_shifted_days token denotes whole inRange wholeMore wholeSum
  case sevenfold =>
    intro days wholeDays
    rw [byWeeks, engine.shifted_days token denotes wholeDays]
  · rw [byDays, addDays?_eq_none_iff.2 outside]
    rfl
  · rw [byWeeks, addDays?_eq_none_iff.2 outside]
    rfl

/-- From the day after a leap day of a year with a sign to that leap day, on to a year of
five digits, by weeks, and over the last day of the last year. -/
theorem shifted_days_and_weeks_borders :
    let leap : Date := ⟨-4, 3, 1, by decide⟩
    dateOf? (.text "-0004/03/01") = some leap ∧
      (ofInteger (-1)).integerPart? = some (-1) ∧
      (ofInteger 7500000).integerPart? = some 7500000 ∧
      (ofInteger 7499999).integerPart? = some (-1 + 7500000) ∧
      (ofInteger (-7)).integerPart? = some (7 * -1) ∧
      (ofInteger 100000000).integerPart? = some 100000000 ∧
      IsDay (leap.ordinal + -1) ∧ IsDay (leap.ordinal + (-1 + 7500000)) ∧
      ¬ IsDay (leap.ordinal + 100000000) ∧ ¬ IsDay (leap.ordinal + 7 * 100000000) ∧
      ∀ (engine : Engine) (token : Token 8),
        let cell : Cell := .text "-0004/03/01"
        let later := engine.shifted token cell (ofInteger (-1)) "days"
        (engine.apply token "DAYS_BETWEEN" cell [later]).IsInteger (-1) ∧
          engine.shifted token later (ofInteger 7500000) "days" =
            engine.shifted token cell (ofInteger 7499999) "days" ∧
          engine.shifted token cell (ofInteger (-1)) "weeks" =
            engine.shifted token cell (ofInteger (-7)) "days" ∧
          engine.apply token "WEEKDAY" cell [] = .text leap.weekday ∧
          engine.shifted token cell (ofInteger 100000000) "days" = cell ∧
          engine.shifted token cell (ofInteger 100000000) "weeks" = cell := by
  intro leap
  have denotes : dateOf? (.text "-0004/03/01") = some leap := by decide
  have one := integerPart?_ofInteger (n := -1) (by decide)
  have more := integerPart?_ofInteger (n := 7500000) (by decide)
  have sum := integerPart?_ofInteger (n := 7499999) (by decide)
  have seven := integerPart?_ofInteger (n := -7) (by decide)
  have far := integerPart?_ofInteger (n := 100000000) (by decide)
  have back : IsDay (leap.ordinal + -1) := by decide
  have onward : IsDay (leap.ordinal + (-1 + 7500000)) := by decide
  have beyond : ¬ IsDay (leap.ordinal + 100000000) := by decide
  have weeksBeyond : ¬ IsDay (leap.ordinal + 7 * 100000000) := by decide
  refine ⟨denotes, one, more, sum, seven, far, back, onward, beyond, weeksBeyond,
    fun engine token => ?_⟩
  obtain ⟨inRange, weeks, weekday, -, -, -⟩ :=
    engine.shifted_days_and_weeks token denotes one
  obtain ⟨-, -, -, -, stays, weeksStay⟩ :=
    engine.shifted_days_and_weeks token denotes far
  obtain ⟨counted, added⟩ := inRange back
  exact ⟨counted, added _ _ 7500000 more sum onward, weeks _ seven, weekday, stays beyond,
    weeksStay weeksBeyond⟩

end Engine
end ColumnChain
