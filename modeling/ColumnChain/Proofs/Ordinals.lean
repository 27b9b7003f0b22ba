import ColumnChain.Calendar.Date
import Mathlib.Order.Monotone.Basic
import Mathlib.Algebra.Order.Ring.Int

/-!
# Dates and ordinals

The ordinal of a date determines the date: the year is the only one whose days surround
the ordinal, and the month is found by counting days off. The days from the first date to the
last one all have a date, and dates are in the order of their years, months and days.
-/

namespace ColumnChain.Date

/-- The ordinals of a year end where those of the next one begin. -/
theorem daysBeforeYear_succ (year : Int) :
    daysBeforeYear (year + 1) = daysBeforeYear year + daysBeforeMonth year 13 := by
  have length : daysBeforeMonth year 13 = if isLeapYear year then 366 else 365 := by
    simp only [daysBeforeMonth, monthLength]
    split <;> rfl
  rw [length]
  simp only [daysBeforeYear, isLeapYear, Bool.and_eq_true, Bool.or_eq_true, beq_iff_eq,
    bne_iff_ne]
  split <;> push_cast <;> omega

/-- The year of an ordinal is the one whose days surround it. -/
theorem yearOf_eq (year : Int) {ordinal : Int} (after : daysBeforeYear year < ordinal)
    (upTo : ordinal ≤ daysBeforeYear (year + 1)) : yearOf ordinal = year := by
  simp only [yearOf]
  generalize guessed : ordinal * 400 / 146097 + 1 = guess
  -- Years have 365.2425 days on average, so the guess misses the year by at most one.
  have near : guess = year ∨ guess = year + 1 ∨ guess = year - 1 := by
    simp only [daysBeforeYear] at after upTo
    omega
  rcases near with rfl | rfl | rfl
  · rw [if_neg (by omega), if_neg (by omega)]
  · rw [if_pos upTo]
    omega
  · rw [Int.sub_add_cancel, if_pos after, if_neg]
    simp only [daysBeforeYear] at after ⊢
    omega

theorem monotone_daysBeforeMonth (year : Int) : Monotone (daysBeforeMonth year) :=
  monotone_nat_of_le_succ fun month => Nat.le_add_right _ (monthLength year month)

/-- A month that has days is one of twelve. -/
theorem month_of_monthLength_pos {year : Int} {month : Nat}
    (days : 0 < monthLength year month) : 1 ≤ month ∧ month ≤ 12 := by
  simp only [monthLength] at days
  split at days <;> omega

theorem monthLength_le (year : Int) (month : Nat) : monthLength year month ≤ 31 := by
  simp only [monthLength]
  repeat' split
  all_goals decide

theorem month_and_day_le (d : Date) : 1 ≤ d.month ∧ d.month ≤ 12 ∧ d.day ≤ 31 := by
  have ⟨_, _, positive, inMonth⟩ := d.isDate
  have ⟨first, last⟩ := month_of_monthLength_pos (Nat.lt_of_lt_of_le positive inMonth)
  exact ⟨first, last, inMonth.trans (monthLength_le d.year d.month)⟩

/-- Counting off the days of the months from one on leads to the month of a day. -/
theorem monthAndDay_eq {year : Int} {month day : Nat} (positive : 1 ≤ day)
    (inMonth : day ≤ monthLength year month) {left start : Nat} (reaches : start ≤ month)
    (upTo : month ≤ start + left) :
    monthAndDay year left start
      (daysBeforeMonth year month - daysBeforeMonth year start + day) = (month, day) := by
  induction left generalizing start with
  | zero =>
      obtain rfl : start = month := by omega
      rw [monthAndDay, Nat.sub_self, Nat.zero_add]
  | succ left ih =>
      rcases Nat.eq_or_lt_of_le reaches with rfl | later
      · rw [Nat.sub_self, Nat.zero_add, monthAndDay, if_pos inMonth]
      · have passed : daysBeforeMonth year start + monthLength year start ≤
            daysBeforeMonth year month := monotone_daysBeforeMonth year later
        rw [monthAndDay, if_neg (by omega), ← ih later (by omega)]
        congr 1
        simp only [daysBeforeMonth]
        omega

/-- A date is found by its ordinal. -/
theorem ofOrdinal?_ordinal (d : Date) : ofOrdinal? d.ordinal = some d := by
  obtain ⟨year, month, day, isDate'⟩ := d
  have ⟨_, _, positive, inMonth⟩ := isDate'
  obtain ⟨first, last⟩ := month_of_monthLength_pos (Nat.lt_of_lt_of_le positive inMonth)
  have ofYear : daysBeforeMonth year month + day ≤ daysBeforeMonth year 13 :=
    calc daysBeforeMonth year month + day
      _ ≤ daysBeforeMonth year month + monthLength year month := Nat.add_le_add_left inMonth _
      _ ≤ daysBeforeMonth year 13 := monotone_daysBeforeMonth year (Nat.succ_le_succ last)
  simp only [ofOrdinal?, ordinal]
  rw [yearOf_eq year (by omega) (by rw [daysBeforeYear_succ]; omega)]
  have offset : (daysBeforeYear year + ↑(daysBeforeMonth year month) + ↑day -
      daysBeforeYear year).toNat = daysBeforeMonth year month - daysBeforeMonth year 1 + day := by
    have none : daysBeforeMonth year 1 = 0 := rfl
    omega
  rw [offset, monthAndDay_eq positive inMonth first (by omega)]
  exact dif_pos isDate'

/-! ## Every day has a date -/

/-- A day is one of those of its year. -/
theorem yearOf_bounds (ordinal : Int) :
    daysBeforeYear (yearOf ordinal) < ordinal ∧
      ordinal ≤ daysBeforeYear (yearOf ordinal + 1) := by
  simp only [yearOf]
  generalize guessed : ordinal * 400 / 146097 + 1 = guess
  split
  next before =>
    rw [Int.sub_add_cancel]
    refine ⟨?_, before⟩
    simp only [daysBeforeYear]
    omega
  next notBefore =>
    split
    next behind =>
      refine ⟨behind, ?_⟩
      simp only [daysBeforeYear]
      omega
    next notBehind => exact ⟨by omega, by omega⟩

/-- Counting off the days of the months leads to a day of a month, so many days on. -/
theorem exists_monthAndDay {year : Int} {left start day : Nat} (positive : 1 ≤ day)
    (upTo : daysBeforeMonth year start + day ≤ daysBeforeMonth year (start + left + 1)) :
    ∃ month inMonth, monthAndDay year left start day = (month, inMonth) ∧
      1 ≤ inMonth ∧ inMonth ≤ monthLength year month ∧
      daysBeforeMonth year month + inMonth = daysBeforeMonth year start + day := by
  induction left generalizing start day with
  | zero =>
      rw [Nat.add_zero, daysBeforeMonth] at upTo
      exact ⟨start, day, rfl, positive, by omega, rfl⟩
  | succ left ih =>
      rw [monthAndDay]
      split
      next inMonth => exact ⟨start, day, rfl, positive, inMonth, rfl⟩
      next later =>
        have months : start + 1 + left + 1 = start + (left + 1) + 1 := by omega
        have upToNext : daysBeforeMonth year (start + 1) + (day - monthLength year start) ≤
            daysBeforeMonth year (start + 1 + left + 1) := by
          rw [daysBeforeMonth, months]
          omega
        obtain ⟨month, inMonth, found, first, last, same⟩ := ih (by omega) upToNext
        rw [daysBeforeMonth] at same
        exact ⟨month, inMonth, found, first, last, by omega⟩

/-- A day is looked for in its year, among the days of the months. -/
theorem exists_ofOrdinal?_eq (ordinal : Int) :
    ∃ month day, ofOrdinal? ordinal = of? (yearOf ordinal) month day ∧
      1 ≤ day ∧ day ≤ monthLength (yearOf ordinal) month ∧
      daysBeforeYear (yearOf ordinal) + daysBeforeMonth (yearOf ordinal) month + day =
        ordinal := by
  obtain ⟨after, upTo⟩ := yearOf_bounds ordinal
  rw [daysBeforeYear_succ] at upTo
  have none : daysBeforeMonth (yearOf ordinal) 1 = 0 := rfl
  have ofYear : daysBeforeMonth (yearOf ordinal) 1 +
      (ordinal - daysBeforeYear (yearOf ordinal)).toNat ≤
        daysBeforeMonth (yearOf ordinal) (1 + 11 + 1) := by
    change _ ≤ daysBeforeMonth (yearOf ordinal) 13
    omega
  obtain ⟨month, day, found, first, last, same⟩ := exists_monthAndDay (by omega) ofYear
  refine ⟨month, day, ?_, first, last, by omega⟩
  simp only [ofOrdinal?, found]

/-- The date that is found for an ordinal is the one with this ordinal. -/
theorem ofOrdinal?_eq_some_iff {ordinal : Int} {d : Date} :
    ofOrdinal? ordinal = some d ↔ d.ordinal = ordinal := by
  constructor
  · intro found
    obtain ⟨month, day, looked, -, -, same⟩ := exists_ofOrdinal?_eq ordinal
    rw [looked, of?] at found
    split at found
    next =>
      cases found
      exact same
    next => cases found
  · rintro rfl
    exact ofOrdinal?_ordinal d

/-! ## The range of dates -/

/-- The first date there is. -/
def earliest : Date :=
  ⟨firstYear, 1, 1, by decide⟩

/-- The last date there is. -/
def latest : Date :=
  ⟨lastYear, 12, 31, by decide⟩

/-- A number is that of a day in the range of years. -/
def IsDay (ordinal : Int) : Prop :=
  earliest.ordinal ≤ ordinal ∧ ordinal ≤ latest.ordinal

instance (ordinal : Int) : Decidable (IsDay ordinal) :=
  inferInstanceAs (Decidable (_ ∧ _))

/-! ## The order of dates -/

theorem daysBeforeYear_le {year later : Int} (before : year ≤ later) :
    daysBeforeYear year ≤ daysBeforeYear later := by
  simp only [daysBeforeYear]
  omega

/-- A date is one of the days of its year. -/
theorem ordinal_bounds (d : Date) :
    daysBeforeYear d.year < d.ordinal ∧ d.ordinal ≤ daysBeforeYear (d.year + 1) := by
  have ⟨_, _, positive, inMonth⟩ := d.isDate
  obtain ⟨first, last, -⟩ := d.month_and_day_le
  have ofYear : daysBeforeMonth d.year (d.month + 1) ≤ daysBeforeMonth d.year 13 :=
    monotone_daysBeforeMonth d.year (Nat.succ_le_succ last)
  rw [daysBeforeYear_succ, ordinal]
  rw [daysBeforeMonth] at ofYear
  omega

/-- An earlier date has a smaller year, or in one year a smaller month, or in one month a
smaller day. -/
theorem fields_lt {d e : Date} (before : d.ordinal < e.ordinal) :
    d.year < e.year ∨ d.year = e.year ∧
      (d.month < e.month ∨ d.month = e.month ∧ d.day < e.day) := by
  obtain ⟨lower, -⟩ := d.ordinal_bounds
  obtain ⟨-, upper⟩ := e.ordinal_bounds
  rcases Int.lt_trichotomy d.year e.year with year | year | year
  · exact Or.inl year
  · refine Or.inr ⟨year, ?_⟩
    have ⟨_, _, positive, _⟩ := d.isDate
    have ⟨_, _, _, inMonth⟩ := e.isDate
    simp only [ordinal, year] at before
    rcases Nat.lt_trichotomy d.month e.month with month | month | month
    · exact Or.inl month
    · rw [month] at before
      exact Or.inr ⟨month, by omega⟩
    · have later := monotone_daysBeforeMonth e.year (Nat.succ_le_of_lt month)
      rw [daysBeforeMonth] at later
      omega
  · have later := daysBeforeYear_le (Int.add_one_le_of_lt year)
    omega

theorem ordinal_injective {d e : Date} (same : d.ordinal = e.ordinal) : d = e :=
  Option.some.inj ((ofOrdinal?_ordinal d).symm.trans (same ▸ ofOrdinal?_ordinal e))

theorem ordinal_earliest : earliest.ordinal = daysBeforeYear firstYear + 1 := by
  decide

theorem ordinal_latest : latest.ordinal = daysBeforeYear (lastYear + 1) := by
  decide

/-- There is a date for every day in the range of years, and for no other. -/
theorem exists_ordinal_eq_iff {ordinal : Int} :
    (∃ d : Date, d.ordinal = ordinal) ↔ IsDay ordinal := by
  rw [IsDay, ordinal_earliest, ordinal_latest]
  constructor
  · rintro ⟨d, rfl⟩
    obtain ⟨after, upTo⟩ := d.ordinal_bounds
    obtain ⟨first, last, -, -⟩ := d.isDate
    have fromFirst := daysBeforeYear_le first
    have toLast := daysBeforeYear_le (Int.add_le_add_right last 1)
    omega
  · rintro ⟨start, finish⟩
    obtain ⟨after, upTo⟩ := yearOf_bounds ordinal
    obtain ⟨month, day, -, positive, inMonth, same⟩ := exists_ofOrdinal?_eq ordinal
    have first : firstYear ≤ yearOf ordinal := by
      by_contra early
      have before := daysBeforeYear_le (show yearOf ordinal + 1 ≤ firstYear by omega)
      omega
    have last : yearOf ordinal ≤ lastYear := by
      by_contra late
      have behind := daysBeforeYear_le (show lastYear + 1 ≤ yearOf ordinal by omega)
      omega
    exact ⟨⟨yearOf ordinal, month, day, first, last, positive, inMonth⟩, same⟩

theorem isDay_ordinal (d : Date) : IsDay d.ordinal :=
  exists_ordinal_eq_iff.1 ⟨d, rfl⟩

theorem natAbs_ordinal_le (d : Date) : d.ordinal.natAbs ≤ 2 ^ 27 := by
  obtain ⟨start, finish⟩ := d.isDay_ordinal
  have first : -2 ^ 27 ≤ earliest.ordinal := by decide
  have last : latest.ordinal ≤ 2 ^ 27 := by decide
  omega

/-! ## Shifts -/

theorem addDays?_eq_some_iff {d e : Date} {days : Int} :
    d.addDays? days = some e ↔ e.ordinal = d.ordinal + days :=
  ofOrdinal?_eq_some_iff

/-- A shift that would leave the range of years leads to no date. -/
theorem addDays?_eq_none_iff {d : Date} {days : Int} :
    d.addDays? days = none ↔ ¬ IsDay (d.ordinal + days) := by
  rw [← exists_ordinal_eq_iff, Option.eq_none_iff_forall_ne_some]
  simp only [ne_eq, addDays?_eq_some_iff, not_exists]

/-- No days later it is the same date. -/
@[simp] theorem addDays?_zero (d : Date) : d.addDays? 0 = some d := by
  rw [addDays?, Int.add_zero, ofOrdinal?_ordinal]

end ColumnChain.Date
