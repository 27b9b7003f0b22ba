import ColumnChain.Proofs.DayShifts

/-!
# Anniversaries and ages

Whole years later it is the same day of the same month, unless that is the leap day or the
year is out of range. So the age on a day is the number of the last anniversary up to it:
the anniversaries that `DATE_ADD` shifts to are in order, and they are compared with the day
by the year alone. Days before the birth have ages below zero.
-/

namespace ColumnChain

namespace Date

variable {d e born today later : Date}

/-! ## Years -/

/-- A date other than the 29th of February. -/
def IsYearly (d : Date) : Prop :=
  ¬ (d.month = 2 ∧ d.day = 29)

instance (d : Date) : Decidable (IsYearly d) :=
  inferInstanceAs (Decidable (¬ _))

/-- Years are shifted by keeping the month, and the day where the month has it. -/
theorem addMonths?_years (d : Date) (years : Int) :
    d.addMonths? (12 * years) =
      of? (d.year + years) d.month (min d.day (monthLength (d.year + years) d.month)) := by
  obtain ⟨first, last, -⟩ := d.month_and_day_le
  have year : (12 * d.year + ↑(d.month - 1) + 12 * years) / 12 = d.year + years := by omega
  have month : ((12 * d.year + ↑(d.month - 1) + 12 * years) % 12).toNat + 1 = d.month := by
    omega
  simp only [addMonths?, year, month]

/-- But for February a month is as long in one year as in another. -/
theorem monthLength_eq {month : Nat} (notFebruary : month ≠ 2) (year other : Int) :
    monthLength year month = monthLength other month := by
  -- Only the branch of February asks for the year.
  simp only [monthLength]
  split <;> simp_all

/-- The day of a yearly date is in its month in any year. -/
theorem IsYearly.day_le (yearly : d.IsYearly) (year : Int) :
    d.day ≤ monthLength year d.month := by
  have ⟨_, _, _, inMonth⟩ := d.isDate
  by_cases february : d.month = 2
  · have days : d.day ≠ 29 := fun leap => yearly ⟨february, leap⟩
    have upTo : d.day ≤ 29 := by
      rw [february, monthLength] at inMonth
      split at inMonth <;> omega
    rw [february, monthLength]
    split <;> omega
  · rwa [monthLength_eq february year d.year]

/-- The same day of the same month so many years later, in the range of years; out of it
the date itself. -/
def anniversary (d : Date) (years : Int) : Date :=
  (d.addMonths? (12 * years)).getD d

/-- An anniversary differs from the date in the year only, by as many years as are counted
if it is in range. -/
theorem IsYearly.anniversary_fields (yearly : d.IsYearly) (years : Int) :
    (d.anniversary years).month = d.month ∧ (d.anniversary years).day = d.day ∧
      (d.anniversary years).year =
        if firstYear ≤ d.year + years ∧ d.year + years ≤ lastYear then d.year + years
        else d.year := by
  have ⟨_, _, positive, _⟩ := d.isDate
  rw [anniversary, addMonths?_years, Nat.min_eq_left (yearly.day_le _), of?]
  by_cases inRange : firstYear ≤ d.year + years ∧ d.year + years ≤ lastYear
  · have isDate : IsDate (d.year + years) d.month d.day :=
      ⟨inRange.1, inRange.2, positive, yearly.day_le _⟩
    rw [dif_pos isDate, if_pos inRange]
    exact ⟨rfl, rfl, rfl⟩
  · rw [dif_neg fun isDate => inRange ⟨isDate.1, isDate.2.1⟩, if_neg inRange]
    exact ⟨rfl, rfl, rfl⟩

/-! ## Ages -/

/-- The age counts the years, without the last one where its birthday is still to come. -/
theorem age_cases (born today : Date) :
    born.age today = today.year - born.year ∧
        (born.month < today.month ∨ born.month = today.month ∧ born.day ≤ today.day) ∨
      born.age today = today.year - born.year - 1 ∧
        (today.month < born.month ∨ today.month = born.month ∧ today.day < born.day) := by
  simp only [age, Bool.or_eq_true, Bool.and_eq_true, decide_eq_true_eq, beq_iff_eq]
  split
  next toCome => exact Or.inr ⟨rfl, toCome⟩
  next reached => exact Or.inl ⟨rfl, by omega⟩

/-- A birthday is up to a day exactly when its year is up to the one in which the age of the
day was reached. -/
theorem ordinal_le_iff_year_le (month : e.month = born.month) (day : e.day = born.day) :
    e.ordinal ≤ today.ordinal ↔ e.year ≤ born.year + born.age today := by
  have ages := age_cases born today
  constructor
  · intro upTo
    rcases Int.lt_or_eq_of_le upTo with before | same
    · have fields := fields_lt before
      omega
    · obtain rfl := ordinal_injective same
      omega
  · intro year
    by_contra after
    have fields := fields_lt (Int.lt_of_not_ge after)
    omega

/-- The age never decreases. -/
theorem age_le_age (born : Date) (upTo : today.ordinal ≤ later.ordinal) :
    born.age today ≤ born.age later := by
  rcases Int.lt_or_eq_of_le upTo with before | same
  · have fields := fields_lt before
    have ages := age_cases born today
    have laterAges := age_cases born later
    omega
  · rw [ordinal_injective same]

/-- The age is the number of the only anniversary that a day lies between and the next. -/
theorem IsYearly.anniversary_bounds_iff (yearly : born.IsYearly)
    (first : firstYear ≤ born.year + born.age today)
    (last : born.year + born.age today + 1 ≤ lastYear) {years : Int} :
    (born.anniversary years).ordinal ≤ today.ordinal ∧
        today.ordinal < (born.anniversary (years + 1)).ordinal ↔
      years = born.age today := by
  obtain ⟨month, day, year⟩ := yearly.anniversary_fields years
  obtain ⟨nextMonth, nextDay, nextYear⟩ := yearly.anniversary_fields (years + 1)
  rw [ordinal_le_iff_year_le month day, ← Int.not_le,
    ordinal_le_iff_year_le nextMonth nextDay, year, nextYear]
  split <;> split <;> omega

theorem natAbs_age_lt (born today : Date) : (born.age today).natAbs < 2 ^ 53 := by
  have ⟨firstBorn, lastBorn, _, _⟩ := born.isDate
  have ⟨firstToday, lastToday, _, _⟩ := today.isDate
  have ages := age_cases born today
  simp only [firstYear, lastYear] at firstBorn lastBorn firstToday lastToday
  omega

end Date

open Date ColumnChain.Function

namespace Engine

variable (engine : Engine) (token : Token 8) {cell amount : Cell} {d born : Date} {n : Int}

/-- A shift by years is read as the anniversary. -/
theorem dateOf?_shifted_years (denotes : dateOf? cell = some d)
    (whole : amount.integerPart? = some n) :
    dateOf? (engine.shifted token cell amount "years") = some (d.anniversary n) := by
  have shift : engine.shifted token cell amount "years" =
      ((d.addMonths? (12 * n)).map ofDate).getD cell :=
    engine.shifted_eq token denotes whole "years"
  rw [shift, anniversary]
  cases d.addMonths? (12 * n) with
  | none => exact denotes
  | some e => exact dateOf?_ofDate e

theorem isInteger_ageInYears (denotes : dateOf? cell = some born) :
    (engine.apply token "AGE_IN_YEARS" cell []).IsInteger (born.age engine.today) := by
  have call : engine.apply token "AGE_IN_YEARS" cell [] =
      (ageInYears (engine.context token) cell []).getD cell := rfl
  rw [call, ageInYears, denotes, Option.map_some, Option.getD_some]
  exact isInteger_ofInteger (natAbs_age_lt born engine.today)

/-- The age of a cell that denotes a birth date is the only number of years such that the
reference date lies between the birth date so many years later and one year more, and it
never decreases as the reference date advances. -/
theorem ageInYears_eq_anniversary (denotes : dateOf? cell = some born) :
    ∃ k, (engine.apply token "AGE_IN_YEARS" cell []).IsInteger k ∧
      (born.IsYearly → firstYear ≤ born.year + k → born.year + k + 1 ≤ lastYear →
        ∀ (amount next : Cell) (n : Int), amount.integerPart? = some n →
          next.integerPart? = some (n + 1) →
          ((∃ before after,
            dateOf? (engine.shifted token cell amount "years") = some before ∧
              dateOf? (engine.shifted token cell next "years") = some after ∧
              before.ordinal ≤ engine.today.ordinal ∧
              engine.today.ordinal < after.ordinal) ↔ n = k)) ∧
      ∀ (later : Engine) (other : Token 8), engine.today.ordinal ≤ later.today.ordinal →
        ∃ l, (later.apply other "AGE_IN_YEARS" cell []).IsInteger l ∧ k ≤ l := by
  refine ⟨born.age engine.today, engine.isInteger_ageInYears token denotes, ?_, ?_⟩
  · intro yearly first last amount next n whole wholeNext
    rw [← yearly.anniversary_bounds_iff first last]
    constructor
    · rintro ⟨before, after, readBefore, readAfter, upTo, toCome⟩
      rw [engine.dateOf?_shifted_years token denotes whole] at readBefore
      rw [engine.dateOf?_shifted_years token denotes wholeNext] at readAfter
      cases readBefore
      cases readAfter
      exact ⟨upTo, toCome⟩
    · rintro ⟨upTo, toCome⟩
      exact ⟨_, _, engine.dateOf?_shifted_years token denotes whole,
        engine.dateOf?_shifted_years token denotes wholeNext, upTo, toCome⟩
  · intro later other upTo
    exact ⟨born.age later.today, later.isInteger_ageInYears other denotes,
      age_le_age born upTo⟩

/-- On a leap day, six years and a day before the birth, and on the next day, which is the
first of March and the anniversary. -/
theorem ageInYears_eq_anniversary_before_birth :
    let born : Date := ⟨2030, 3, 1, by decide⟩
    let engine := ({} : Settings).engine ⟨2024, 2, 29, by decide⟩ 4
    let later := ({} : Settings).engine ⟨2024, 3, 1, by decide⟩ 4
    let cell : Cell := .text "Mar 1, 2030"
    dateOf? cell = some born ∧ born.IsYearly ∧ firstYear ≤ born.year + -7 ∧
      born.year + -7 + 1 ≤ lastYear ∧ (ofInteger (-7)).integerPart? = some (-7) ∧
      (ofInteger (-6)).integerPart? = some (-7 + 1) ∧
      engine.today.ordinal ≤ later.today.ordinal ∧
      ∀ token : Token 8,
        (engine.apply token "AGE_IN_YEARS" cell []).IsInteger (-7) ∧
          (∃ before after,
            dateOf? (engine.shifted token cell (ofInteger (-7)) "years") = some before ∧
              dateOf? (engine.shifted token cell (ofInteger (-6)) "years") = some after ∧
              before.ordinal ≤ engine.today.ordinal ∧
              engine.today.ordinal < after.ordinal) ∧
          ∃ l, (later.apply token "AGE_IN_YEARS" cell []).IsInteger l ∧ -7 ≤ l := by
  intro born engine later cell
  have denotes : dateOf? cell = some born := by decide
  have yearly : born.IsYearly := by decide
  have first : firstYear ≤ born.year + -7 := by decide
  have last : born.year + -7 + 1 ≤ lastYear := by decide
  have seven := integerPart?_ofInteger (n := -7) (by decide)
  have six := integerPart?_ofInteger (n := -6) (by decide)
  have upTo : engine.today.ordinal ≤ later.today.ordinal := by decide
  refine ⟨denotes, yearly, first, last, seven, six, upTo, fun token => ?_⟩
  obtain ⟨k, isInteger, bounds, grows⟩ := engine.ageInYears_eq_anniversary token denotes
  obtain rfl : k = -7 := isInteger.unique (engine.isInteger_ageInYears token denotes)
  exact ⟨isInteger, (bounds yearly first last _ _ _ seven six).2 rfl, grows later token upTo⟩

end Engine
end ColumnChain
