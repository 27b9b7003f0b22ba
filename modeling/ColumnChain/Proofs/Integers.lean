import ColumnChain.Function.Calendar
import ColumnChain.Proofs.Magnitude

/-!
# Integers as numbers

An integer of at most 53 binary places is a number, exactly: a cell that is made of it denotes
it, and a function that takes the integer part of that cell gets it back.
-/

namespace ColumnChain

namespace Number

open Float.Model (UnpackedFloat)

/-- A number is finite and exactly an integer. -/
def IsInteger (x : Float) (n : ℤ) : Prop :=
  ∃ p, parts? x = some p ∧ p.isWhole = true ∧ p.truncated = n

theorem IsInteger.truncated?_eq {x : Float} {n : ℤ} (isInteger : IsInteger x n) :
    truncated? x = some n := by
  obtain ⟨p, parts, -, truncated⟩ := isInteger
  rw [truncated?, parts, Option.map_some, truncated]

/-- A significand and a power of two that make a natural number leave no fraction. -/
theorem Parts.whole_eq {p : Parts} {n : ℕ}
    (exactly : (p.significand : ℚ) * 2 ^ p.exponent = n) : p.isWhole = true ∧ p.whole = n := by
  rw [isWhole, fraction, whole]
  by_cases above : 0 ≤ p.exponent
  · obtain ⟨places, isPlaces⟩ := Int.eq_ofNat_of_zero_le above
    rw [isPlaces, zpow_natCast] at exactly
    have same : p.significand * 2 ^ places = n := mod_cast exactly
    rw [if_pos above, if_pos above, isPlaces, Int.toNat_natCast]
    exact ⟨rfl, same⟩
  · obtain ⟨places, isPlaces⟩ : ∃ places : ℕ, p.exponent = -places :=
      ⟨(-p.exponent).toNat, by omega⟩
    rw [isPlaces, zpow_neg, zpow_natCast, mul_inv_eq_iff_eq_mul₀ (by positivity)] at exactly
    have same : p.significand = n * 2 ^ places := mod_cast exactly
    rw [if_neg above, if_neg above, isPlaces, neg_neg, Int.toNat_natCast, same]
    exact ⟨by simp, Nat.mul_div_cancel n (by positivity)⟩

theorem isInteger_ofNat {n : ℕ} (small : n < 2 ^ 53) : IsInteger (Float.ofNat n) n := by
  have le : (n : ℚ) ≤ 2 ^ (53 : ℤ) := mod_cast small.le
  obtain ⟨u, same, within, nonnegative, -, exactly⟩ :=
    exists_ofNat le (by norm_num) (by norm_num)
  have unpacked : (Float.ofNat n).toModel.unpack = u := by
    rw [same]
    exact unpack_pack within.1
  have exactly := exactly small
  rw [IsInteger, parts?, unpacked]
  rcases nonnegative.cases with ⟨sign, rfl⟩ | ⟨mantissa, exponent, positive, rfl⟩
  · rw [extent] at exactly
    obtain rfl : 0 = n := mod_cast exactly
    exact ⟨_, rfl, rfl, by cases sign <;> rfl⟩
  · obtain ⟨isWhole, whole⟩ := Parts.whole_eq (p := ⟨false, mantissa, exponent⟩) exactly
    exact ⟨_, rfl, isWhole, congrArg Nat.cast whole⟩

theorem isFinite_of_parts? {x : Float} {p : Parts} (parts : parts? x = some p) :
    x.isFinite = true := by
  rw [← isSome_parts?, parts, Option.isSome_some]

/-- A finite number with the other sign has the same parts but for the sign. -/
theorem parts?_neg {x : Float} {p : Parts} (parts : parts? x = some p) :
    parts? (-x) = some { p with negative := !p.negative } := by
  rw [parts?, unpack_neg (isFinite_of_parts? parts)]
  rw [parts?] at parts
  split at parts
  next => cases parts
  next => cases parts
  next sign zero =>
    cases parts
    rw [zero]
    cases sign <;> rfl
  next sign mantissa exponent positive some =>
    cases parts
    rw [some]
    cases sign <;> rfl

/-- An integer of at most 53 binary places is converted exactly. -/
theorem isInteger_ofInt {n : ℤ} (small : n.natAbs < 2 ^ 53) : IsInteger (Float.ofInt n) n := by
  cases n with
  | ofNat n => exact isInteger_ofNat small
  | negSucc n =>
      obtain ⟨p, parts, isWhole, truncated⟩ := isInteger_ofNat (n := n + 1) small
      refine ⟨{ p with negative := !p.negative }, parts?_neg parts, isWhole, ?_⟩
      have same : ({ p with negative := !p.negative } : Parts).truncated = -p.truncated := by
        simp only [Parts.truncated, Parts.whole]
        cases p.negative <;> simp
      rw [same, truncated, Int.negSucc_eq]
      rfl

end Number

namespace Cell

/-- A numeric cell of exactly an integer. -/
def IsInteger (cell : Cell) (n : Int) : Prop :=
  ∃ x, cell = .number x ∧ Number.IsInteger x n

/-- The integer part of the number that a cell denotes. -/
def integerPart? (cell : Cell) : Option Int :=
  cell.asNumber?.bind Number.truncated?

theorem IsInteger.integerPart?_eq {cell : Cell} {n : Int} (isInteger : cell.IsInteger n) :
    cell.integerPart? = some n := by
  obtain ⟨x, rfl, exactly⟩ := isInteger
  have ⟨p, parts, _⟩ := exactly
  rw [integerPart?, asNumber?, finite?, if_pos (Number.isFinite_of_parts? parts),
    Option.bind_some, exactly.truncated?_eq]

/-- A cell is one integer at most. -/
theorem IsInteger.unique {cell : Cell} {m n : Int} (isInteger : cell.IsInteger m)
    (other : cell.IsInteger n) : m = n :=
  Option.some.inj (isInteger.integerPart?_eq.symm.trans other.integerPart?_eq)

theorem isInteger_ofNumber {x : Float} {n : Int} (exactly : Number.IsInteger x n) :
    (ofNumber x).IsInteger n := by
  rw [ofNumber]
  split
  next zero =>
    obtain ⟨sign, unpacked⟩ := Number.exists_unpack_of_beq_zero zero
    obtain ⟨p, parts, isWhole, truncated⟩ := exactly
    rw [Number.parts?, unpacked] at parts
    cases parts
    refine ⟨0.0, rfl, ⟨false, 0, 0⟩, rfl, rfl, ?_⟩
    rw [← truncated]
    cases sign <;> rfl
  next => exact ⟨x, rfl, exactly⟩

end Cell

namespace Function

/-- An integer of at most 53 binary places makes a cell that is that integer. -/
theorem isInteger_ofInteger {n : Int} (small : n.natAbs < 2 ^ 53) : (ofInteger n).IsInteger n :=
  Cell.isInteger_ofNumber (Number.isInteger_ofInt small)

theorem integerPart?_ofInteger {n : Int} (small : n.natAbs < 2 ^ 53) :
    (ofInteger n).integerPart? = some n :=
  (isInteger_ofInteger small).integerPart?_eq

end Function
end ColumnChain
