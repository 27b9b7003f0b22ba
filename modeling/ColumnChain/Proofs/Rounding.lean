import ColumnChain.Number.Exact
import Mathlib

/-!
# Rounding to binary64

Finite numbers have one unpacked form each, to which arithmetic packs and unpacks them again.
A power of two that a number can take is never crossed by rounding: what is at most such a
power exactly is so when it is rounded, too, and likewise for what is at least such a power.
-/

namespace ColumnChain.Number

open Float.Model (Format UnpackedFloat totalExponent)
open Float.Model.UnpackedFloat (Sign Accuracy ExtendedMantissa packComponents
  unpackExponent_packComponents unpackMantissa_packComponents unpackSign_packComponents
  roundWithAccuracy shiftToTargetExponent shiftToExponent)

/-! ## Unpacked forms -/

/-- The exact distance of a finite number from zero, and zero for what is not finite. -/
def extent : UnpackedFloat → ℚ
  | .finite _ mantissa exponent _ => mantissa * 2 ^ exponent
  | .zero _ | .infinity _ | .notANumber => 0

/-- The unpacked forms of finite numbers: the mantissa has all its binary places, unless the
exponent is the least. -/
def IsCanonical : UnpackedFloat → Prop
  | .finite _ mantissa exponent _ =>
      mantissa < 2 ^ 53 ∧ -1074 ≤ exponent ∧ exponent ≤ 971 ∧
        (2 ^ 52 ≤ mantissa ∨ exponent = -1074)
  | .zero _ => True
  | .infinity _ | .notANumber => False

theorem unpack_packComponents (sign : Sign) (exponent : BitVec 11) (mantissa : BitVec 52) :
    UnpackedFloat.unpack Format.binary64
        (packComponents Format.binary64 sign exponent mantissa) =
      if exponent = -1#11 then
        if mantissa = 0#52 then .infinity sign else .notANumber
      else if exponent = 0#11 then
        if positive : 0 < mantissa.toNat then .finite sign mantissa.toNat (-1074) positive
        else .zero sign
      else
        .finite sign (2 ^ 52 + mantissa.toNat) (exponent.toNat - 1075) (by omega) := by
  have bias : (Format.binary64.exponentBias : ℤ) + (52 : ℕ) = 1075 := rfl
  have leading : (1#1 ++ mantissa).toNat = 2 ^ 52 + mantissa.toNat := by
    rw [BitVec.toNat_append, ← Nat.shiftLeft_add_eq_or_of_lt mantissa.isLt]
    rfl
  simp only [UnpackedFloat.unpack, unpackExponent_packComponents,
    unpackMantissa_packComponents, unpackSign_packComponents, Sign.ofBitVec_toBitVec, bias,
    leading]
  split
  next => rfl
  next =>
    split
    next none =>
      subst none
      by_cases empty : mantissa = 0#52
      · subst empty
        simp
      · have positive : 0 < mantissa.toNat := by
          rw [Nat.pos_iff_ne_zero]
          exact fun zero => empty (BitVec.eq_of_toNat_eq zero)
        rw [dif_neg empty, dif_pos positive]
        rfl
    next => rfl

theorem exists_packComponents (bits : BitVec 64) :
    ∃ sign exponent mantissa,
      bits = packComponents Format.binary64 sign exponent mantissa :=
  ⟨_, _, _,
    (@UnpackedFloat.packComponents_unpackSign_unpackExponent_unpackMantissa
      Format.binary64 bits).symm⟩

theorem isCanonical_unpack {x : Float} (finite : x.isFinite = true) :
    IsCanonical x.toModel.unpack := by
  rw [Float.isFinite, Float.Model.isFinite] at finite
  rw [Float.Model.unpack] at finite ⊢
  obtain ⟨sign, exponent, mantissa, packed⟩ := exists_packComponents x.toModel.toBits.toBitVec
  rw [packed, unpack_packComponents] at finite ⊢
  have short : exponent.toNat < 2 ^ 11 := exponent.isLt
  have small : mantissa.toNat < 2 ^ 52 := mantissa.isLt
  split at finite
  next => split at finite <;> cases finite
  next notAll =>
    rw [if_neg notAll]
    have below : exponent.toNat ≠ 2047 := fun all => notAll (BitVec.eq_of_toNat_eq all)
    split
    next =>
      split
      next => exact ⟨by omega, by omega, by omega, Or.inr rfl⟩
      next => trivial
    next some =>
      have above : exponent.toNat ≠ 0 := fun none => some (BitVec.eq_of_toNat_eq none)
      exact ⟨by omega, by omega, by omega, Or.inl (by omega)⟩

/-- The unpacked form of a finite number is what it is packed from. -/
theorem unpack_pack {u : UnpackedFloat} (canonical : IsCanonical u) :
    (Float.Model.pack u).unpack = u := by
  cases u with
  | infinity sign => cases canonical
  | notANumber => cases canonical
  | zero sign => exact UnpackedFloat.unpack_packedZero
  | finite sign mantissa exponent positive =>
      obtain ⟨small, low, high, normal⟩ := canonical
      have bias : (Format.binary64.exponentBias : ℤ) + (52 : ℕ) = 1075 := rfl
      have fits : ¬ 2 ^ 11 ≤ (exponent + 1075).toNat + 1 := by omega
      have full : mantissa.log2 + 1 = Format.binary64.mantissaBits ↔ 2 ^ 52 ≤ mantissa := by
        have bits : Format.binary64.mantissaBits = 53 := rfl
        have below := (Nat.log2_lt positive.ne').2 small
        rw [bits, ← Nat.le_log2 positive.ne']
        omega
      simp only [Float.Model.pack, Float.Model.unpack, UnpackedFloat.pack, add_assoc, bias]
      rw [if_neg fits]
      split
      next isFull =>
        rw [full] at isFull
        have field : (BitVec.ofNat 11 (exponent + 1075).toNat).toNat =
            (exponent + 1075).toNat := by
          rw [BitVec.toNat_ofNat, Nat.mod_eq_of_lt (by omega)]
        have rest : (BitVec.ofNat 52 mantissa).toNat = mantissa - 2 ^ 52 := by
          rw [BitVec.toNat_ofNat]
          omega
        have notAll : BitVec.ofNat 11 (exponent + 1075).toNat ≠ -1#11 := by
          intro all
          have same : (exponent + 1075).toNat = 2047 := by rw [← field, all]; rfl
          omega
        have notNone : BitVec.ofNat 11 (exponent + 1075).toNat ≠ 0#11 := by
          intro none
          have same : (exponent + 1075).toNat = 0 := by rw [← field, none]; rfl
          omega
        rw [unpack_packComponents, if_neg notAll, if_neg notNone]
        simp only [field, rest, UnpackedFloat.finite.injEq, true_and]
        omega
      next notFull =>
        rw [full] at notFull
        have rest : (BitVec.ofNat 52 mantissa).toNat = mantissa := by
          rw [BitVec.toNat_ofNat, Nat.mod_eq_of_lt (by omega)]
        rw [unpack_packComponents, if_neg (by decide), if_pos rfl]
        simp only [rest, positive, dite_true, UnpackedFloat.finite.injEq, true_and]
        omega

/-! ## Rounding -/

theorem roundedMantissa_cases (m : ExtendedMantissa) :
    m.roundedMantissa = m.mantissa ∨
      m.roundedMantissa = m.mantissa + 1 ∧ m.roundBit = true := by
  obtain ⟨mantissa, roundBit, stickyBit⟩ := m
  cases roundBit with
  | false =>
      left
      cases stickyBit <;> rfl
  | true =>
      cases stickyBit with
      | true => exact Or.inr ⟨rfl, rfl⟩
      | false =>
          have tie : (ExtendedMantissa.mk mantissa true false).roundedMantissa =
              mantissa + mantissa % 2 := rfl
          rw [tie]
          rcases Nat.mod_two_eq_zero_or_one mantissa with even | odd
          · exact Or.inl (by rw [even, Nat.add_zero])
          · exact Or.inr ⟨by rw [odd], rfl⟩

theorem mantissa_shiftRight (m : ExtendedMantissa) (n : ℕ) :
    (m >>> n).mantissa = m.mantissa / 2 ^ n := by
  induction n with
  | zero => exact (Nat.div_one _).symm
  | succ n ih =>
      have step : (m >>> (n + 1)).mantissa = (m >>> n).mantissa / 2 := rfl
      rw [step, ih, Nat.div_div_eq_div_mul, pow_succ]

/-- What becomes of a mantissa when its last `n` binary places are cut off and it is rounded:
it stays as it was cut, or it is one more. It is one more only where at least half of a unit
is cut off, be it in these places or, if there are none, in what the mantissa leaves out. -/
def CutsTo (mantissa : ℕ) (accuracy : Accuracy) (n rounded : ℕ) : Prop :=
  rounded = mantissa / 2 ^ n ∨
    rounded = mantissa / 2 ^ n + 1 ∧
      (n = 0 ∧ accuracy ≠ .exact ∨
        ∃ half, n = half + 1 ∧ mantissa / 2 ^ n * 2 ^ n + 2 ^ half ≤ mantissa)

theorem cutsTo_roundedMantissa (mantissa : ℕ) (accuracy : Accuracy) (n : ℕ) :
    CutsTo mantissa accuracy n
      (ExtendedMantissa.ofMantissaAndAccuracy mantissa accuracy >>> n).roundedMantissa := by
  have whole : (ExtendedMantissa.ofMantissaAndAccuracy mantissa accuracy).mantissa =
      mantissa := by
    unfold ExtendedMantissa.ofMantissaAndAccuracy
    split <;> rfl
  have cut (n : ℕ) : (ExtendedMantissa.ofMantissaAndAccuracy mantissa accuracy >>>
      n).mantissa = mantissa / 2 ^ n := by
    rw [mantissa_shiftRight, whole]
  rcases roundedMantissa_cases
    (ExtendedMantissa.ofMantissaAndAccuracy mantissa accuracy >>> n) with down | ⟨up, bit⟩
  · exact Or.inl (down.trans (cut n))
  · refine Or.inr ⟨by rw [up, cut], ?_⟩
    cases n with
    | zero =>
        left
        refine ⟨rfl, ?_⟩
        rintro rfl
        cases bit
    | succ half =>
        right
        refine ⟨half, rfl, ?_⟩
        have odd : mantissa / 2 ^ half % 2 ≠ 0 := by
          have isBit : (ExtendedMantissa.ofMantissaAndAccuracy mantissa accuracy >>>
              (half + 1)).roundBit =
              ((ExtendedMantissa.ofMantissaAndAccuracy mantissa accuracy >>>
                half).mantissa % 2 != 0) := rfl
          rw [isBit, cut] at bit
          simpa using bit
        have twice : mantissa / 2 ^ half = 2 * (mantissa / 2 ^ (half + 1)) + 1 := by
          rw [pow_succ, ← Nat.div_div_eq_div_mul]
          omega
        calc mantissa / 2 ^ (half + 1) * 2 ^ (half + 1) + 2 ^ half
            = mantissa / 2 ^ half * 2 ^ half := by rw [twice]; ring
          _ ≤ mantissa := Nat.div_mul_le_self mantissa (2 ^ half)

/-- The number that a rounded mantissa gives. With one binary place too many, it is the least
mantissa of the next exponent. -/
def settle (sign : Sign) (mantissa : ℕ) (exponent : ℤ) : UnpackedFloat :=
  if mantissa = 2 ^ 53 then .finite sign (2 ^ 52) (exponent + 1) (by decide)
  else if zero : mantissa = 0 then .zero sign
  else .finite sign mantissa exponent (Nat.pos_of_ne_zero zero)

theorem extent_settle (sign : Sign) (mantissa : ℕ) (exponent : ℤ) :
    extent (settle sign mantissa exponent) = mantissa * 2 ^ exponent := by
  rw [settle]
  split
  next carried =>
    rw [carried, extent, zpow_add_one₀ (by norm_num)]
    push_cast
    ring
  next =>
    split
    next zero => simp [zero, extent]
    next => rfl

theorem shiftToTargetExponent_of_le {mantissa : ℕ} {exponent : ℤ} (fits : mantissa ≤ 2 ^ 53)
    (low : -1074 ≤ exponent) :
    (shiftToTargetExponent Format.binary64 mantissa exponent .exact).1.mantissa =
        (if mantissa = 2 ^ 53 then 2 ^ 52 else mantissa) ∧
      (shiftToTargetExponent Format.binary64 mantissa exponent .exact).2 =
        if mantissa = 2 ^ 53 then exponent + 1 else exponent := by
  have aim : Format.binary64.targetExponent (totalExponent mantissa exponent) =
      max (mantissa.log2 + 1 + exponent - 53) (-1074) := rfl
  simp only [shiftToTargetExponent, shiftToExponent, aim, mantissa_shiftRight,
    ExtendedMantissa.ofMantissaAndAccuracy]
  split
  next carried =>
    subst carried
    have shift : (max (((2 ^ 53 : ℕ).log2 : ℤ) + 1 + exponent - 53) (-1074) -
        exponent).toNat = 1 := by
      rw [Nat.log2_two_pow]
      omega
    rw [shift]
    exact ⟨by norm_num, by norm_num⟩
  next others =>
    have bits : mantissa.log2 ≤ 52 := by
      rcases Nat.eq_zero_or_pos mantissa with rfl | positive
      · decide
      · have below := (Nat.log2_lt positive.ne').2 (lt_of_le_of_ne fits others)
        omega
    have shift : (max ((mantissa.log2 : ℤ) + 1 + exponent - 53) (-1074) -
        exponent).toNat = 0 := by omega
    rw [shift]
    exact ⟨by simp, by simp⟩

/-- The exact value of a mantissa that has at least the binary places of a number, or whose
exponent is not above the least one. -/
def IsPrecise (mantissa : ℕ) (exponent : ℤ) : Prop :=
  2 ^ 52 ≤ mantissa ∨ exponent ≤ -1074

/-- A number is rounded by cutting off the binary places that it cannot have. -/
theorem roundWithAccuracy_eq_settle (sign : Sign) {mantissa : ℕ} {exponent : ℤ}
    (accuracy : Accuracy) (precise : IsPrecise mantissa exponent) :
    ∃ n rounded : ℕ,
      exponent + n = max (mantissa.log2 + exponent - 52) (-1074) ∧
      CutsTo mantissa accuracy n rounded ∧
      roundWithAccuracy Format.binary64 sign mantissa exponent accuracy =
        settle sign rounded (exponent + n) := by
  have reached : exponent ≤ max (mantissa.log2 + exponent - 52) (-1074) := by
    rcases precise with long | low
    · have bits := (Nat.le_log2 (by omega)).2 long
      omega
    · omega
  obtain ⟨n, target⟩ := Int.le.dest reached
  have fits : mantissa / 2 ^ n < 2 ^ 53 := by
    rw [Nat.div_lt_iff_lt_mul (by positivity), ← pow_add]
    refine Nat.lt_log2_self.trans_le (Nat.pow_le_pow_right two_pos ?_)
    omega
  have first : shiftToTargetExponent Format.binary64 mantissa exponent accuracy =
      (ExtendedMantissa.ofMantissaAndAccuracy mantissa accuracy >>> n, exponent + n) := by
    have aim : Format.binary64.targetExponent (totalExponent mantissa exponent) =
        max (mantissa.log2 + 1 + exponent - 53) (-1074) := rfl
    have shift : (max ((mantissa.log2 : ℤ) + 1 + exponent - 53) (-1074) - exponent).toNat =
        n := by omega
    rw [shiftToTargetExponent, aim, shiftToExponent, shift]
  have unfolded : roundWithAccuracy Format.binary64 sign mantissa exponent accuracy =
      let second := shiftToTargetExponent Format.binary64
        (shiftToTargetExponent Format.binary64 mantissa exponent accuracy).1.roundedMantissa
        (shiftToTargetExponent Format.binary64 mantissa exponent accuracy).2 .exact
      if zero : second.1.mantissa = 0 then .zero sign
      else .finite sign second.1.mantissa second.2 (Nat.pos_of_ne_zero zero) := rfl
  rw [first] at unfolded
  have low : -1074 ≤ exponent + n := by omega
  have cuts := cutsTo_roundedMantissa mantissa accuracy n
  generalize (ExtendedMantissa.ofMantissaAndAccuracy mantissa accuracy >>>
    n).roundedMantissa = rounded at cuts unfolded
  have roundedFits : rounded ≤ 2 ^ 53 := by
    rcases cuts with down | ⟨up, -⟩ <;> omega
  refine ⟨n, rounded, target, cuts, unfolded.trans ?_⟩
  obtain ⟨mantissaEq, exponentEq⟩ := shiftToTargetExponent_of_le roundedFits low
  simp only [mantissaEq, exponentEq, settle]
  split <;> rfl

/-! ## Bounds of what is rounded -/

section Rounded

variable {mantissa : ℕ} {exponent k : ℤ}

theorem le_top (positive : mantissa ≠ 0) :
    (2 : ℚ) ^ (mantissa.log2 + exponent) ≤ mantissa * 2 ^ exponent := by
  have bits : (2 : ℚ) ^ mantissa.log2 ≤ mantissa := mod_cast Nat.log2_self_le positive
  rw [zpow_add₀ two_ne_zero, zpow_natCast]
  gcongr

theorem lt_top (mantissa : ℕ) (exponent : ℤ) :
    (mantissa : ℚ) * 2 ^ exponent < 2 ^ (mantissa.log2 + exponent + 1) := by
  have bits : (mantissa : ℚ) < 2 ^ (mantissa.log2 + 1) := mod_cast Nat.lt_log2_self
  rw [add_right_comm, zpow_add₀ two_ne_zero, ← Nat.cast_succ, zpow_natCast]
  gcongr

theorem top_lt (positive : mantissa ≠ 0) (below : (mantissa : ℚ) * 2 ^ exponent < 2 ^ k) :
    mantissa.log2 + exponent < k :=
  (zpow_lt_zpow_iff_right₀ one_lt_two).1 ((le_top positive).trans_lt below)

theorem top_ge (above : (2 : ℚ) ^ k ≤ mantissa * 2 ^ exponent) :
    k ≤ mantissa.log2 + exponent :=
  Int.lt_add_one_iff.1
    ((zpow_lt_zpow_iff_right₀ one_lt_two).1 (above.trans_lt (lt_top mantissa exponent)))

variable {accuracy : Accuracy} {n rounded : ℕ}

theorem cut_le (mantissa n : ℕ) (exponent : ℤ) :
    ((mantissa / 2 ^ n : ℕ) : ℚ) * 2 ^ (exponent + n) ≤ mantissa * 2 ^ exponent := by
  have cut : ((mantissa / 2 ^ n : ℕ) : ℚ) * 2 ^ n ≤ mantissa :=
    mod_cast Nat.div_mul_le_self mantissa (2 ^ n)
  calc ((mantissa / 2 ^ n : ℕ) : ℚ) * 2 ^ (exponent + n)
      = (mantissa / 2 ^ n : ℕ) * 2 ^ n * 2 ^ exponent := by
        rw [zpow_add₀ two_ne_zero, zpow_natCast]
        ring
    _ ≤ mantissa * 2 ^ exponent := by gcongr

variable (precise : IsPrecise mantissa exponent)
  (place : exponent + n = max (mantissa.log2 + exponent - 52) (-1074))
  (cuts : CutsTo mantissa accuracy n rounded)

include precise place cuts

/-- What is less than a power of two is rounded to that power at most. -/
theorem rounded_le_of_lt (low : -1074 ≤ k)
    (below : (mantissa : ℚ) * 2 ^ exponent < 2 ^ k) :
    (rounded : ℚ) * 2 ^ (exponent + n) ≤ 2 ^ k := by
  have reaches : exponent + n ≤ k := by
    rcases eq_or_ne mantissa 0 with rfl | positive
    · rcases precise with long | least
      · omega
      · have none : (0 : ℕ).log2 = 0 := rfl
        omega
    · have top := top_lt positive below
      omega
  obtain ⟨places, rfl⟩ := Int.le.dest reaches
  have cut : mantissa / 2 ^ n < 2 ^ places := by
    have small := (cut_le mantissa n exponent).trans_lt below
    rw [zpow_add₀ two_ne_zero (exponent + n), mul_comm, zpow_natCast] at small
    have places : ((mantissa / 2 ^ n : ℕ) : ℚ) < 2 ^ places :=
      lt_of_mul_lt_mul_left small (by positivity)
    exact mod_cast places
  have fits : rounded ≤ 2 ^ places := by
    rcases cuts with down | ⟨up, -⟩ <;> omega
  rw [zpow_add₀ two_ne_zero (exponent + n), mul_comm, zpow_natCast]
  gcongr
  exact mod_cast fits

/-- What is less than a quarter of a unit above a power of two, the unit being that of numbers
above this power, is rounded to the power at most. -/
theorem rounded_le_of_near (exact : accuracy = .exact) (low : -1022 ≤ k)
    (above : (2 : ℚ) ^ k ≤ mantissa * 2 ^ exponent)
    (near : (mantissa : ℚ) * 2 ^ exponent ≤ 2 ^ k + 2 ^ (k - 54)) :
    (rounded : ℚ) * 2 ^ (exponent + n) ≤ 2 ^ k := by
  have positive : mantissa ≠ 0 := by
    rintro rfl
    have power : (0 : ℚ) < 2 ^ k := by positivity
    simp at above
    linarith
  have less : (mantissa : ℚ) * 2 ^ exponent < 2 ^ (k + 1) := by
    have smaller : (2 : ℚ) ^ (k - 54) < 2 ^ k := zpow_lt_zpow_right₀ one_lt_two (by omega)
    rw [zpow_add_one₀ two_ne_zero]
    linarith
  have top := top_ge above
  have topLess := top_lt positive less
  obtain ⟨unit, isUnit⟩ : ∃ unit : ℚ, 2 ^ (exponent + n) = unit := ⟨_, rfl⟩
  have unitPositive : 0 < unit := isUnit ▸ by positivity
  have power : (2 : ℚ) ^ k = 2 ^ 52 * unit := by
    rw [← isUnit, show k = 52 + (exponent + n) by omega, zpow_add₀ two_ne_zero]
    norm_num
  have quarter : (2 : ℚ) ^ (k - 54) = unit / 4 := by
    rw [zpow_sub₀ two_ne_zero, power]
    norm_num
    ring
  rw [power, quarter] at near
  have fits : rounded ≤ 2 ^ 52 := by
    rcases cuts with rfl | ⟨rfl, ⟨-, inexact⟩ | ⟨half, rfl, least⟩⟩
    · have cut := cut_le mantissa n exponent
      rw [isUnit] at cut
      have few : ((mantissa / 2 ^ n : ℕ) : ℚ) < 2 ^ 52 + 1 := by
        nlinarith
      have few : mantissa / 2 ^ n < 2 ^ 52 + 1 := mod_cast few
      omega
    · exact absurd exact inexact
    · have halved : (2 : ℚ) ^ half * 2 ^ exponent = unit / 2 := by
        rw [← isUnit, zpow_add₀ two_ne_zero, zpow_natCast, pow_succ]
        ring
      have whole : (2 : ℚ) ^ (half + 1) * 2 ^ exponent = unit := by
        rw [pow_succ]
        linarith
      have atLeast : ((mantissa / 2 ^ (half + 1) : ℕ) : ℚ) * unit + unit / 2 ≤
          mantissa * 2 ^ exponent :=
        calc ((mantissa / 2 ^ (half + 1) : ℕ) : ℚ) * unit + unit / 2
            = ((mantissa / 2 ^ (half + 1) * 2 ^ (half + 1) + 2 ^ half : ℕ) : ℚ) *
                2 ^ exponent := by
              push_cast
              rw [add_mul, mul_assoc, whole, halved]
          _ ≤ mantissa * 2 ^ exponent := by
              gcongr
      have few : ((mantissa / 2 ^ (half + 1) : ℕ) : ℚ) < 2 ^ 52 := by
        nlinarith
      have few : mantissa / 2 ^ (half + 1) < 2 ^ 52 := mod_cast few
      omega
  rw [isUnit, power]
  gcongr
  exact mod_cast fits

/-- What is at least a power of two is rounded to that power at least. -/
theorem le_rounded_of_le (low : -1074 ≤ k) (above : (2 : ℚ) ^ k ≤ mantissa * 2 ^ exponent) :
    (2 : ℚ) ^ k ≤ rounded * 2 ^ (exponent + n) := by
  have positive : mantissa ≠ 0 := by
    rintro rfl
    have power : (0 : ℚ) < 2 ^ k := by positivity
    simp at above
    linarith
  have top := top_ge above
  obtain ⟨places, bits⟩ : ∃ places, mantissa.log2 = n + places :=
    Nat.exists_eq_add_of_le (by omega)
  have cut : 2 ^ places ≤ mantissa / 2 ^ n := by
    rw [Nat.le_div_iff_mul_le (by positivity), ← pow_add, add_comm, ← bits]
    exact Nat.log2_self_le positive
  have fits : 2 ^ places ≤ rounded := by
    rcases cuts with down | ⟨up, -⟩ <;> omega
  calc (2 : ℚ) ^ k
      ≤ 2 ^ (mantissa.log2 + exponent) := zpow_le_zpow_right₀ one_le_two top
    _ = 2 ^ places * 2 ^ (exponent + n) := by
        rw [bits, ← zpow_natCast, ← zpow_add₀ two_ne_zero]
        push_cast
        ring_nf
    _ ≤ rounded * 2 ^ (exponent + n) := by
        gcongr
        exact mod_cast fits

/-- A rounded number that is not too large is one that has an unpacked form. -/
theorem isCanonical_settle (sign : Sign) (high : k ≤ 1023)
    (below : (rounded : ℚ) * 2 ^ (exponent + n) ≤ 2 ^ k) :
    IsCanonical (settle sign rounded (exponent + n)) := by
  have fits : mantissa / 2 ^ n < 2 ^ 53 := by
    rw [Nat.div_lt_iff_lt_mul (by positivity), ← pow_add]
    refine Nat.lt_log2_self.trans_le (Nat.pow_le_pow_right two_pos ?_)
    omega
  have roundedFits : rounded ≤ 2 ^ 53 := by
    rcases cuts with down | ⟨up, -⟩ <;> omega
  have long : 2 ^ 52 ≤ rounded ∨ exponent + n = -1074 := by
    by_cases least : exponent + n = -1074
    · exact Or.inr least
    · left
      have bits : mantissa.log2 = 52 + n := by omega
      have cut : 2 ^ 52 ≤ mantissa / 2 ^ n := by
        rw [Nat.le_div_iff_mul_le (by positivity), ← pow_add, ← bits]
        refine Nat.log2_self_le ?_
        rintro rfl
        have none : (0 : ℕ).log2 = 0 := rfl
        omega
      rcases cuts with down | ⟨up, -⟩ <;> omega
  have bounded {places : ℕ} (long : 2 ^ places ≤ rounded) : exponent + n + places ≤ 1023 := by
    have many : (2 : ℚ) ^ places ≤ rounded := mod_cast long
    have power : (2 : ℚ) ^ (exponent + n + places) ≤ 2 ^ (1023 : ℤ) :=
      calc (2 : ℚ) ^ (exponent + n + places)
          = 2 ^ places * 2 ^ (exponent + n) := by
            rw [zpow_add₀ two_ne_zero (exponent + n), zpow_natCast, mul_comm]
        _ ≤ rounded * 2 ^ (exponent + n) := by gcongr
        _ ≤ 2 ^ k := below
        _ ≤ 2 ^ (1023 : ℤ) := zpow_le_zpow_right₀ one_le_two high
    exact (zpow_le_zpow_iff_right₀ one_lt_two).1 power
  rw [settle]
  split
  next carried =>
    have most := bounded carried.ge
    exact ⟨by norm_num, by omega, by omega, Or.inl le_rfl⟩
  next notCarried =>
    split
    next => trivial
    next =>
      have most : exponent + n ≤ 971 := by
        rcases long with long | least
        · have most := bounded long
          omega
        · omega
      exact ⟨by omega, by omega, most, long⟩

end Rounded

/-! ## Bounds of unpacked numbers -/

/-- An unpacked number is finite and at most a power of two from zero. -/
def IsWithin (k : ℤ) (u : UnpackedFloat) : Prop :=
  IsCanonical u ∧ extent u ≤ 2 ^ k

/-- An unpacked number is finite and not less than zero. -/
def IsNonnegative : UnpackedFloat → Prop
  | .finite sign _ _ _ => sign = .positive
  | .zero _ => True
  | .infinity _ | .notANumber => False

theorem isWithin_zero (k : ℤ) (sign : Sign) : IsWithin k (.zero sign) :=
  ⟨trivial, by simp only [extent]; positivity⟩

theorem IsWithin.mono {k l : ℤ} {u : UnpackedFloat} (within : IsWithin k u) (le : k ≤ l) :
    IsWithin l u :=
  ⟨within.1, within.2.trans (zpow_le_zpow_right₀ one_le_two le)⟩

section Round

variable (sign : Sign) {mantissa : ℕ} {exponent k : ℤ}

theorem isWithin_round_of_lt (accuracy : Accuracy) (precise : IsPrecise mantissa exponent)
    (low : -1074 ≤ k) (high : k ≤ 1023) (below : (mantissa : ℚ) * 2 ^ exponent < 2 ^ k) :
    IsWithin k (roundWithAccuracy Format.binary64 sign mantissa exponent accuracy) := by
  obtain ⟨n, rounded, place, cuts, settled⟩ :=
    roundWithAccuracy_eq_settle sign accuracy precise
  have bounded := rounded_le_of_lt precise place cuts low below
  rw [settled]
  refine ⟨isCanonical_settle precise place cuts sign high bounded, ?_⟩
  rwa [extent_settle]

theorem isWithin_round_of_near (precise : IsPrecise mantissa exponent) (low : -1022 ≤ k)
    (high : k ≤ 1023) (near : (mantissa : ℚ) * 2 ^ exponent ≤ 2 ^ k + 2 ^ (k - 54)) :
    IsWithin k (roundWithAccuracy Format.binary64 sign mantissa exponent .exact) := by
  rcases lt_or_ge ((mantissa : ℚ) * 2 ^ exponent) (2 ^ k) with below | above
  · exact isWithin_round_of_lt sign .exact precise (by omega) high below
  · obtain ⟨n, rounded, place, cuts, settled⟩ :=
      roundWithAccuracy_eq_settle sign .exact precise
    have bounded := rounded_le_of_near precise place cuts rfl low above near
    rw [settled]
    refine ⟨isCanonical_settle precise place cuts sign high bounded, ?_⟩
    rwa [extent_settle]

theorem isWithin_round_of_le (precise : IsPrecise mantissa exponent) (low : -1022 ≤ k)
    (high : k ≤ 1023) (le : (mantissa : ℚ) * 2 ^ exponent ≤ 2 ^ k) :
    IsWithin k (roundWithAccuracy Format.binary64 sign mantissa exponent .exact) := by
  refine isWithin_round_of_near sign precise low high (le.trans ?_)
  have slack : (0 : ℚ) < 2 ^ (k - 54) := by positivity
  linarith

theorem le_extent_round (accuracy : Accuracy) (precise : IsPrecise mantissa exponent)
    (low : -1074 ≤ k) (above : (2 : ℚ) ^ k ≤ mantissa * 2 ^ exponent) :
    (2 : ℚ) ^ k ≤
      extent (roundWithAccuracy Format.binary64 sign mantissa exponent accuracy) := by
  obtain ⟨n, rounded, place, cuts, settled⟩ :=
    roundWithAccuracy_eq_settle sign accuracy precise
  rw [settled, extent_settle]
  exact le_rounded_of_le precise place cuts low above

/-- An integer of at most 53 binary places is what it is rounded to. -/
theorem extent_round_of_whole (precise : IsPrecise mantissa exponent) {whole : ℕ}
    (small : whole < 2 ^ 53) (exactly : (mantissa : ℚ) * 2 ^ exponent = whole) :
    extent (roundWithAccuracy Format.binary64 sign mantissa exponent .exact) = whole := by
  obtain ⟨n, rounded, place, cuts, settled⟩ :=
    roundWithAccuracy_eq_settle sign .exact precise
  -- The places that are cut off are those after the point, and zeros.
  have zeros : 2 ^ n ∣ mantissa := by
    rcases eq_or_ne mantissa 0 with rfl | positive
    · exact dvd_zero _
    · have below : (mantissa : ℚ) * 2 ^ exponent < 2 ^ (53 : ℤ) := by
        rw [exactly]
        exact mod_cast small
      have top := top_lt positive below
      obtain ⟨places, isPlaces⟩ : ∃ places : ℕ, exponent = -places :=
        ⟨(-exponent).toNat, by omega⟩
      rw [isPlaces, zpow_neg, zpow_natCast, mul_inv_eq_iff_eq_mul₀ (by positivity)] at exactly
      have shifted : mantissa = whole * 2 ^ places := mod_cast exactly
      rw [shifted]
      exact (pow_dvd_pow 2 (by omega)).mul_left whole
  obtain ⟨quotient, rfl⟩ := zeros
  have cut : 2 ^ n * quotient / 2 ^ n = quotient := Nat.mul_div_cancel_left _ (by positivity)
  have same : rounded = quotient := by
    rcases cuts with down | ⟨-, ⟨-, inexact⟩ | ⟨half, -, above⟩⟩
    · rw [down, cut]
    · exact absurd rfl inexact
    · have some : 0 < 2 ^ half := by positivity
      rw [cut, Nat.mul_comm] at above
      omega
  rw [settled, extent_settle, same, ← exactly, zpow_add₀ two_ne_zero, zpow_natCast]
  push_cast
  ring

theorem isNonnegative_round (accuracy : Accuracy) (precise : IsPrecise mantissa exponent) :
    IsNonnegative
      (roundWithAccuracy Format.binary64 .positive mantissa exponent accuracy) := by
  obtain ⟨n, rounded, -, -, settled⟩ :=
    roundWithAccuracy_eq_settle .positive accuracy precise
  rw [settled, settle]
  split
  next => rfl
  next => split <;> trivial

end Round

end ColumnChain.Number
