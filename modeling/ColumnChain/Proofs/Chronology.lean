import ColumnChain.Proofs.Stamps
import Mathlib.Data.List.Lex

/-!
# The order of time stamps

As long as years have four digits, the file stamps of moments are in the order of the
moments, to the millisecond: every field of a stamp has a fixed width, and the fields that
count most come first.
-/

namespace ColumnChain

/-! ## Texts of one width -/

namespace Number

theorem ofDigits_cons (c : Char) (digits : List Char) :
    ofDigits (c :: digits) = 10 ^ digits.length * (c.toNat - '0'.toNat) + ofDigits digits := by
  change Nat.ofDigitChars 10 (c :: digits) 0 = _
  rw [Nat.ofDigitChars_cons, Nat.ofDigitChars_eq_ofDigitChars_zero, Nat.mul_zero, Nat.zero_add]
  rfl

/-- Of two numbers of as many digits the smaller one comes first, whatever follows. -/
theorem append_lt_append {left right : List Char} (length : left.length = right.length)
    (leftDigits : ∀ c ∈ left, c.isDigit = true) (rightDigits : ∀ c ∈ right, c.isDigit = true)
    (less : ofDigits left < ofDigits right) (leftRest rightRest : List Char) :
    left ++ leftRest < right ++ rightRest := by
  induction left generalizing right with
  | nil =>
      obtain rfl := List.length_eq_zero_iff.1 length.symm
      exact absurd less (Nat.lt_irrefl _)
  | cons c left ih =>
      cases right with
      | nil => cases length
      | cons d right =>
          have sameLength : left.length = right.length := Nat.succ.inj length
          rw [List.forall_mem_cons] at leftDigits rightDigits
          have leftCode := code_of_isDigit leftDigits.1
          have rightCode := code_of_isDigit rightDigits.1
          rw [ofDigits_cons, ofDigits_cons, sameLength] at less
          rw [List.cons_append, List.cons_append, List.cons_lt_cons_iff]
          rcases Nat.lt_trichotomy c.toNat d.toNat with before | same | behind
          · exact Or.inl before
          · have equal : c = d := Char.toNat_inj.1 same
            subst equal
            exact Or.inr ⟨rfl, ih sameLength leftDigits.2 rightDigits.2 (by omega)⟩
          · have small := ofDigits_lt rightDigits.2
            have step : 10 ^ right.length * (d.toNat - '0'.toNat) + 10 ^ right.length ≤
                10 ^ right.length * (c.toNat - '0'.toNat) := by
              rw [← Nat.mul_succ]
              refine Nat.mul_le_mul_left _ ?_
              have zero : '0'.toNat = 48 := rfl
              omega
            omega

end Number

namespace Date

/-! ## Fields -/

section Padded

variable {width m n : Nat} {left right : List Char} (positive : 0 < width)
  (smallLeft : m < 10 ^ width) (smallRight : n < 10 ^ width)

include positive smallLeft smallRight

theorem padded_append_lt (less : m < n) (left right : List Char) :
    padded width m ++ left < padded width n ++ right := by
  refine Number.append_lt_append ?_ (areDigits_padded width m).all
    (areDigits_padded width n).all (by simpa using less) left right
  rw [length_padded positive smallLeft, length_padded positive smallRight]

/-- Two texts that begin with numbers of one width are in the order of these, or in that of
what follows the sign after them. -/
theorem padded_append_cons_lt {sign : Char} (before : m < n ∨ m = n ∧ left < right) :
    padded width m ++ sign :: left < padded width n ++ sign :: right := by
  rcases before with less | ⟨rfl, rest⟩
  · exact padded_append_lt positive smallLeft smallRight less _ _
  · exact List.append_left_lt (List.cons_lt_cons_iff.2 (Or.inr ⟨rfl, rest⟩))

end Padded

end Date

namespace Instant

/-- The instant at which its millisecond began. -/
def toMillisecond (i : Instant) : Instant :=
  { i with nanosecond := i.nanosecond / 1000000 * 1000000 }

/-- The year of an instant has four digits. -/
def HasPlainYear (i : Instant) : Prop :=
  0 ≤ i.date.year ∧ i.date.year ≤ 9999

instance (i : Instant) : Decidable i.HasPlainYear :=
  inferInstanceAs (Decidable (_ ∧ _))

/-- The file stamp without the date, from the hours on. -/
def clockStamp (i : Instant) : List Char :=
  i.clockText '-' ++ '.' :: Date.padded 3 (i.nanosecond % 1000000000 / 1000000)

theorem toList_fileStamp {i : Instant} (plain : i.HasPlainYear) :
    i.fileStamp.toList =
      Date.padded 4 i.date.year.toNat ++ '-' :: (Date.padded 2 i.date.month ++
        '-' :: (Date.padded 2 i.date.day ++ 'T' :: i.clockStamp)) := by
  have year : Date.yearText i.date.year = Date.padded 4 i.date.year.toNat := if_pos plain
  simp only [fileStamp, Date.iso, year, Date.monthText, Date.dayText, clockStamp,
    String.toList_ofList, List.append_assoc, List.cons_append]

theorem length_fileStamp {i : Instant} (isTime : i.IsTime) (plain : i.HasPlainYear) :
    i.fileStamp.toList.length = 23 := by
  have ⟨_, month, day⟩ := i.date.month_and_day_le
  have ⟨second, nanosecond⟩ := isTime
  have ⟨_, year⟩ := plain
  simp only [toList_fileStamp plain, clockStamp, clockText, List.length_append,
    List.length_cons]
  repeat rw [Date.length_padded (by decide) (by omega)]

/-- Instants in different milliseconds differ in their dates, or in one date in the seconds,
or in one second in the milliseconds. -/
theorem lt_of_toMillisecond {i j : Instant}
    (before : i.toMillisecond.compare j.toMillisecond = .lt) :
    i.date.ordinal < j.date.ordinal ∨ i.date = j.date ∧
      (i.second < j.second ∨ i.second = j.second ∧
        i.nanosecond / 1000000 < j.nanosecond / 1000000) := by
  simp only [compare, toMillisecond, Ordering.then_eq_lt, compare_lt_iff_lt,
    compare_eq_iff_eq] at before
  rcases before with day | ⟨day, rest⟩
  · exact Or.inl day
  · exact Or.inr ⟨Date.ordinal_injective day, rest.imp_right (And.imp_right fun less => by omega)⟩

/-- On one day the stamp of the later millisecond has a later hour, or in one hour a later
minute, and so on. A leap second counts as the sixtieth second of its minute. -/
theorem clockStamp_append_lt {i j : Instant} (isTime : i.IsTime) (isTimeLater : j.IsTime)
    (before : i.second < j.second ∨ i.second = j.second ∧
      i.nanosecond / 1000000 < j.nanosecond / 1000000) (rest : List Char) :
    i.clockStamp ++ rest < j.clockStamp ++ rest := by
  have ⟨second, nanosecond⟩ := isTime
  have ⟨secondLater, nanosecondLater⟩ := isTimeLater
  have hours : i.second / 3600 < j.second / 3600 ∨ i.second / 3600 = j.second / 3600 ∧
      (i.second / 60 % 60 < j.second / 60 % 60 ∨ i.second / 60 % 60 = j.second / 60 % 60 ∧
        (i.second % 60 + i.nanosecond / 1000000000 < j.second % 60 + j.nanosecond / 1000000000 ∨
          i.second % 60 + i.nanosecond / 1000000000 =
            j.second % 60 + j.nanosecond / 1000000000 ∧
          i.nanosecond % 1000000000 / 1000000 < j.nanosecond % 1000000000 / 1000000)) := by
    omega
  simp only [clockStamp, clockText, List.append_assoc, List.cons_append]
  refine Date.padded_append_cons_lt (by decide) (by omega) (by omega)
    (hours.imp_right (And.imp_right fun minutes => ?_))
  refine Date.padded_append_cons_lt (by decide) (by omega) (by omega)
    (minutes.imp_right (And.imp_right fun seconds => ?_))
  refine Date.padded_append_cons_lt (by decide) (by omega) (by omega)
    (seconds.imp_right (And.imp_right fun milliseconds => ?_))
  exact Date.padded_append_lt (by decide) (by omega) (by omega) milliseconds rest rest

/-- Names made of the file stamps of instants in different milliseconds are in the order of
the instants. -/
theorem fileStamp_append_lt {i j : Instant} (isTime : i.IsTime) (isTimeLater : j.IsTime)
    (plain : i.HasPlainYear) (plainLater : j.HasPlainYear)
    (before : i.toMillisecond.compare j.toMillisecond = .lt) (rest : String) :
    i.fileStamp ++ rest < j.fileStamp ++ rest := by
  have ⟨_, month, day⟩ := i.date.month_and_day_le
  have ⟨_, monthLater, dayLater⟩ := j.date.month_and_day_le
  have ⟨positive, year⟩ := plain
  have ⟨positiveLater, yearLater⟩ := plainLater
  have years : i.date.year < j.date.year ∨ i.date.year = j.date.year ∧
      (i.date.month < j.date.month ∨ i.date.month = j.date.month ∧
        (i.date.day < j.date.day ∨ i.date.day = j.date.day ∧
          i.clockStamp ++ rest.toList < j.clockStamp ++ rest.toList)) := by
    rcases lt_of_toMillisecond before with earlier | ⟨same, clock⟩
    · exact (Date.fields_lt earlier).imp_right
        (And.imp_right (Or.imp_right (And.imp_right Or.inl)))
    · have rests := clockStamp_append_lt isTime isTimeLater clock rest.toList
      rw [same]
      exact Or.inr ⟨rfl, Or.inr ⟨rfl, Or.inr ⟨rfl, rests⟩⟩⟩
  rw [String.lt_iff, String.toList_append, String.toList_append, toList_fileStamp plain,
    toList_fileStamp plainLater]
  simp only [List.append_assoc, List.cons_append]
  -- A field counts where those before it are the same.
  refine Date.padded_append_cons_lt (by decide) (by omega) (by omega)
    (years.imp (by omega) fun ⟨sameYear, months⟩ => ⟨by omega, ?_⟩)
  refine Date.padded_append_cons_lt (by decide) (by omega) (by omega)
    (months.imp_right (And.imp_right fun days => ?_))
  exact Date.padded_append_cons_lt (by decide) (by omega) (by omega) days

end Instant
end ColumnChain
