import ColumnChain.Number.Order
import ColumnChain.Proofs.Magnitude

/-!
# Comparing numbers

A finite number is a rational number exactly, and finite numbers compare as these do: the two
zeros are equal, and nothing else is but a number with itself. The order of all numbers by their
bits never goes against it.
-/

namespace ColumnChain.Number

open Float.Model (Format UnpackedFloat)
open Float.Model.UnpackedFloat (Sign packComponents)

/-! ## Exact values -/

/-- The rational number that the parts make. -/
def Parts.value (p : Parts) : ℚ :=
  (if p.negative then -1 else 1) * (p.significand * 2 ^ p.exponent)

/-- The rational number that a number is exactly, and zero for what is not finite. -/
def value (x : Float) : ℚ :=
  ((parts? x).map Parts.value).getD 0

theorem extent_nonneg (u : UnpackedFloat) : 0 ≤ extent u := by
  cases u <;> simp only [extent] <;> positivity

/-- Whether an unpacked number has a minus sign; also a zero may have one. -/
def isNegative : UnpackedFloat → Bool
  | .finite sign _ _ _ | .zero sign | .infinity sign => sign == .negative
  | .notANumber => false

/-- The exact value of an unpacked number, with its sign. -/
def signedExtent (u : UnpackedFloat) : ℚ :=
  if isNegative u then -extent u else extent u

@[simp] theorem signedExtent_zero (sign : Sign) : signedExtent (.zero sign) = 0 := by
  simp [signedExtent, extent]

theorem signedExtent_negative {mantissa : ℕ} {exponent : ℤ} (positive : 0 < mantissa) :
    signedExtent (.finite .negative mantissa exponent positive) < 0 :=
  neg_neg_of_pos (show (0 : ℚ) < mantissa * 2 ^ exponent by positivity)

theorem signedExtent_positive {mantissa : ℕ} {exponent : ℤ} (positive : 0 < mantissa) :
    0 < signedExtent (.finite .positive mantissa exponent positive) :=
  show (0 : ℚ) < mantissa * 2 ^ exponent by positivity

theorem value_eq_signedExtent {x : Float} (finite : x.isFinite = true) :
    value x = signedExtent x.toModel.unpack := by
  rw [value, parts?]
  rcases (isCanonical_iff.2 finite).cases with
    ⟨sign, unpacked⟩ | ⟨sign, mantissa, exponent, positive, unpacked⟩ <;>
    rw [unpacked]
  · simp [signedExtent, extent, Parts.value]
  · cases sign <;> simp [signedExtent, isNegative, extent, Parts.value]

/-! ## Comparison -/

section Exponents

variable {mantissa other : ℕ} {exponent place : ℤ} {sign sign' : Sign} {positive : 0 < mantissa}
  {otherPositive : 0 < other}

/-- The exponents of numbers decide which of them is farther from zero, since the mantissa of
the one with the larger exponent has all its binary places. -/
theorem extent_lt_of_lt (left : IsCanonical (.finite sign mantissa exponent positive))
    (right : IsCanonical (.finite sign' other place otherPositive)) (less : exponent < place) :
    (mantissa : ℚ) * 2 ^ exponent < other * 2 ^ place := by
  obtain ⟨small, low, -, -⟩ := left
  obtain ⟨-, -, -, normal⟩ := right
  have long : 2 ^ 52 ≤ other := by omega
  calc (mantissa : ℚ) * 2 ^ exponent
      < 2 ^ 53 * 2 ^ exponent := by gcongr; exact mod_cast small
    _ = 2 ^ 52 * 2 ^ (exponent + 1) := by rw [zpow_add_one₀ two_ne_zero]; ring
    _ ≤ other * 2 ^ place := by
        gcongr
        · exact mod_cast long
        · exact one_le_two
        · omega

/-- Exponents are compared first and mantissas where the exponents agree. -/
theorem compare_extent (left : IsCanonical (.finite sign mantissa exponent positive))
    (right : IsCanonical (.finite sign' other place otherPositive)) :
    (compare exponent place).then (compare mantissa other) =
      compare ((mantissa : ℚ) * 2 ^ exponent) (other * 2 ^ place) := by
  rcases lt_trichotomy exponent place with less | rfl | more
  · rw [compare_lt_iff_lt.2 less, compare_lt_iff_lt.2 (extent_lt_of_lt left right less)]
    rfl
  · rw [compare_eq_iff_eq.2 rfl, Ordering.eq_then]
    rcases lt_trichotomy mantissa other with less | rfl | more
    · rw [compare_lt_iff_lt.2 less, compare_lt_iff_lt.2]
      gcongr
    · rw [compare_eq_iff_eq.2 rfl, compare_eq_iff_eq.2 rfl]
    · rw [compare_gt_iff_gt.2 more, compare_gt_iff_gt.2]
      gcongr
  · rw [compare_gt_iff_gt.2 more, compare_gt_iff_gt.2 (extent_lt_of_lt right left more)]
    rfl

end Exponents

theorem compare_neg_neg (a b : ℚ) : compare (-a) (-b) = (compare a b).swap := by
  rw [compare_iff, Ordering.compares_swap]
  rcases lt_trichotomy a b with less | rfl | more
  · rw [compare_lt_iff_lt.2 less]
    exact neg_lt_neg less
  · rw [compare_eq_iff_eq.2 rfl]
    rfl
  · rw [compare_gt_iff_gt.2 more]
    exact neg_lt_neg more

/-- Unpacked numbers compare as their exact values. -/
theorem compare_eq {u v : UnpackedFloat} (left : IsCanonical u) (right : IsCanonical v) :
    u.compare v = some (compare (signedExtent u) (signedExtent v)) := by
  rcases left.cases with ⟨sign, rfl⟩ | ⟨sign, mantissa, exponent, positive, rfl⟩
  · rcases right.cases with ⟨sign', rfl⟩ | ⟨sign', other, place, otherPositive, rfl⟩
    · rw [signedExtent_zero, signedExtent_zero, compare_eq_iff_eq.2 rfl]
      rfl
    · rw [signedExtent_zero]
      cases sign' with
      | negative => rw [compare_gt_iff_gt.2 (signedExtent_negative _)]; rfl
      | positive => rw [compare_lt_iff_lt.2 (signedExtent_positive _)]; rfl
  · rcases right.cases with ⟨sign', rfl⟩ | ⟨sign', other, place, otherPositive, rfl⟩
    · rw [signedExtent_zero]
      cases sign with
      | negative => rw [compare_lt_iff_lt.2 (signedExtent_negative _)]; rfl
      | positive => rw [compare_gt_iff_gt.2 (signedExtent_positive _)]; rfl
    · have lexicographic := compare_extent left right
      cases sign with
      | negative =>
          cases sign' with
          | negative =>
              have swapped := (congrArg Ordering.swap lexicographic).trans
                (compare_neg_neg _ _).symm
              exact congrArg some swapped
          | positive =>
              have less : signedExtent (.finite .negative mantissa exponent positive) <
                  signedExtent (.finite .positive other place otherPositive) :=
                (signedExtent_negative positive).trans (signedExtent_positive otherPositive)
              rw [compare_lt_iff_lt.2 less]
              rfl
      | positive =>
          cases sign' with
          | negative =>
              have more : signedExtent (.finite .negative other place otherPositive) <
                  signedExtent (.finite .positive mantissa exponent positive) :=
                (signedExtent_negative otherPositive).trans (signedExtent_positive positive)
              rw [compare_gt_iff_gt.2 more]
              rfl
          | positive => exact congrArg some lexicographic

variable {x y : Float}

theorem lt_iff (xFinite : x.isFinite = true) (yFinite : y.isFinite = true) :
    x < y ↔ value x < value y := by
  have compared := compare_eq (isCanonical_iff.2 xFinite) (isCanonical_iff.2 yFinite)
  have unpacked : x < y ↔
      (UnpackedFloat.compare x.toModel.unpack y.toModel.unpack == some .lt) = true :=
    decide_eq_true_iff
  rw [unpacked, compared, value_eq_signedExtent xFinite, value_eq_signedExtent yFinite,
    ← compare_lt_iff_lt]
  simp

theorem le_iff (xFinite : x.isFinite = true) (yFinite : y.isFinite = true) :
    x ≤ y ↔ value x ≤ value y := by
  have compared := compare_eq (isCanonical_iff.2 xFinite) (isCanonical_iff.2 yFinite)
  have unpacked : x ≤ y ↔
      (UnpackedFloat.compare x.toModel.unpack y.toModel.unpack).any Ordering.isLE = true :=
    decide_eq_true_iff
  rw [unpacked, compared, value_eq_signedExtent xFinite, value_eq_signedExtent yFinite,
    ← compare_le_iff_le]
  simp [Ordering.isLE_iff_ne_gt]

/-! ## The order of all numbers -/

theorem precedes_trans (x y z : Float) (first : precedes x y = true)
    (second : precedes y z = true) : precedes x z = true :=
  decide_eq_true ((of_decide_eq_true first).trans (of_decide_eq_true second))

theorem precedes_total (x y : Float) : (precedes x y || precedes y x) = true := by
  rw [Bool.or_eq_true]
  exact (le_total (place x) (place y)).imp decide_eq_true decide_eq_true

/-- How many numbers an unpacked number is away from zero. -/
def steps : UnpackedFloat → ℤ
  | .finite _ mantissa exponent _ => (exponent + 1074) * 2 ^ 52 + mantissa
  | .zero _ | .infinity _ | .notANumber => 0

theorem toNat_append {v w : ℕ} (high : BitVec v) (low : BitVec w) :
    (high ++ low).toNat = high.toNat * 2 ^ w + low.toNat := by
  rw [BitVec.toNat_append, ← Nat.shiftLeft_add_eq_or_of_lt low.isLt, Nat.shiftLeft_eq]

theorem steps_unpack (sign : Sign) {exponent : BitVec 11} {mantissa : BitVec 52}
    (canonical : IsCanonical (UnpackedFloat.unpack Format.binary64
      (packComponents Format.binary64 sign exponent mantissa))) :
    isNegative (UnpackedFloat.unpack Format.binary64
        (packComponents Format.binary64 sign exponent mantissa)) = (sign == .negative) ∧
      steps (UnpackedFloat.unpack Format.binary64
          (packComponents Format.binary64 sign exponent mantissa)) =
        exponent.toNat * 2 ^ 52 + mantissa.toNat := by
  rw [unpack_packComponents] at canonical ⊢
  split at canonical
  next => split at canonical <;> exact canonical.elim
  next notAll =>
    rw [if_neg notAll]
    split
    next none =>
      subst none
      split
      next => exact ⟨rfl, by simp [steps]⟩
      next empty => exact ⟨rfl, by simp [steps]; omega⟩
    next =>
      refine ⟨rfl, ?_⟩
      simp only [steps]
      push_cast
      ring

/-- The places of numbers are counted from zero, upwards or, with a minus sign, downwards from
just below it. -/
theorem place_eq (finite : x.isFinite = true) :
    place x = if isNegative x.toModel.unpack then -steps x.toModel.unpack - 1
      else steps x.toModel.unpack := by
  obtain ⟨sign, exponent, mantissa, packed⟩ := exists_packComponents x.toModel.toBits.toBitVec
  have canonical := isCanonical_unpack finite
  rw [Float.Model.unpack, packed] at canonical ⊢
  obtain ⟨negative, away⟩ := steps_unpack sign canonical
  rw [negative, away]
  have short : exponent.toNat < 2 ^ 11 := exponent.isLt
  have small : mantissa.toNat < 2 ^ 52 := mantissa.isLt
  have bits : x.toBits.toNat =
      (sign.toBitVec.toNat * 2 ^ 11 + exponent.toNat) * 2 ^ 52 + mantissa.toNat := by
    have same : x.toBits.toNat = x.toModel.toBits.toBitVec.toNat := rfl
    rw [same, packed, packComponents]
    exact (toNat_append _ mantissa).trans (by rw [toNat_append sign.toBitVec exponent])
  simp only [place, bits]
  cases sign with
  | negative =>
      have sign : Sign.negative.toBitVec.toNat = 1 := rfl
      have isNegative : (Sign.negative == Sign.negative) = true := rfl
      rw [sign, isNegative]
      simp only [if_true]
      split <;> omega
  | positive =>
      have sign : Sign.positive.toBitVec.toNat = 0 := rfl
      have notNegative : (Sign.positive == Sign.negative) = false := rfl
      rw [sign, notNegative]
      simp only [Bool.false_eq_true, if_false]
      split <;> omega

theorem steps_nonneg {u : UnpackedFloat} (canonical : IsCanonical u) : 0 ≤ steps u := by
  rcases canonical.cases with ⟨sign, rfl⟩ | ⟨sign, mantissa, exponent, positive, rfl⟩
  · rfl
  · obtain ⟨-, low, -, -⟩ := canonical
    simp only [steps]
    omega

/-- The more numbers a number is away from zero, the farther from zero it is. -/
theorem extent_le_of_steps_le {u v : UnpackedFloat} (left : IsCanonical u) (right : IsCanonical v)
    (le : steps u ≤ steps v) : extent u ≤ extent v := by
  rcases left.cases with ⟨sign, rfl⟩ | ⟨sign, mantissa, exponent, positive, rfl⟩
  · exact extent_nonneg v
  · have ⟨_, low, _, normal⟩ := left
    rcases right.cases with ⟨sign', rfl⟩ | ⟨sign', other, place, otherPositive, rfl⟩
    · simp only [steps] at le
      omega
    · have ⟨small, _, _, _⟩ := right
      simp only [steps] at le
      rcases lt_trichotomy exponent place with less | rfl | more
      · exact (extent_lt_of_lt left right less).le
      · have fewer : mantissa ≤ other := by omega
        simp only [extent]
        gcongr
      · omega

/-- The order of all numbers never goes against the comparison of numbers. -/
theorem value_le_of_precedes (xFinite : x.isFinite = true) (yFinite : y.isFinite = true)
    (order : precedes x y = true) : value x ≤ value y := by
  have left := isCanonical_unpack xFinite
  have right := isCanonical_unpack yFinite
  have fromZero := steps_nonneg left
  have otherFromZero := steps_nonneg right
  have le := of_decide_eq_true order
  rw [place_eq xFinite, place_eq yFinite] at le
  rw [value_eq_signedExtent xFinite, value_eq_signedExtent yFinite, signedExtent, signedExtent]
  cases negative : isNegative x.toModel.unpack <;>
    cases otherNegative : isNegative y.toModel.unpack <;>
    simp only [negative, otherNegative, if_true, if_false, Bool.false_eq_true] at le ⊢
  · exact extent_le_of_steps_le left right le
  · omega
  · exact (neg_nonpos.2 (extent_nonneg _)).trans (extent_nonneg _)
  · exact neg_le_neg (extent_le_of_steps_le right left (by omega))

end ColumnChain.Number
