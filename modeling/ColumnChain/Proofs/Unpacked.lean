import ColumnChain.Proofs.Rounding

/-!
# The size of unpacked numbers

How far from zero the results of arithmetic are, in powers of two, as long as they are not too
large for a number. Operations are computed exactly, or to enough binary places, and rounded.
-/

namespace ColumnChain.Number

open Float.Model (Format UnpackedFloat totalExponent)
open Float.Model.UnpackedFloat (Sign roundWithAccuracy)

/-! ## Arithmetic on unpacked numbers -/

theorem IsCanonical.cases {u : UnpackedFloat} (canonical : IsCanonical u) :
    (∃ sign, u = .zero sign) ∨
      ∃ sign mantissa exponent positive, u = .finite sign mantissa exponent positive := by
  cases u with
  | infinity sign => exact canonical.elim
  | notANumber => exact canonical.elim
  | zero sign => exact Or.inl ⟨sign, rfl⟩
  | finite sign mantissa exponent positive => exact Or.inr ⟨sign, _, _, positive, rfl⟩

section Operations

variable {a b k : ℤ} {u v : UnpackedFloat}

theorem isPrecise_mul {mantissa factor : ℕ} {exponent place : ℤ} {sign other : Sign}
    {positive : 0 < mantissa} {factorPositive : 0 < factor}
    (left : IsCanonical (.finite sign mantissa exponent positive))
    (right : IsCanonical (.finite other factor place factorPositive)) :
    IsPrecise (mantissa * factor) (exponent + place) := by
  obtain ⟨-, -, -, normal⟩ := left
  obtain ⟨-, -, -, factorNormal⟩ := right
  rcases normal with long | least
  · exact Or.inl (long.trans (Nat.le_mul_of_pos_right _ factorPositive))
  · rcases factorNormal with long | factorLeast
    · exact Or.inl (long.trans (Nat.le_mul_of_pos_left _ positive))
    · exact Or.inr (by omega)

theorem cast_mul_zpow (mantissa factor : ℕ) (exponent place : ℤ) :
    ((mantissa * factor : ℕ) : ℚ) * 2 ^ (exponent + place) =
      mantissa * 2 ^ exponent * (factor * 2 ^ place) := by
  rw [zpow_add₀ two_ne_zero]
  push_cast
  ring

theorem IsWithin.mul (left : IsWithin a u) (right : IsWithin b v) (low : -1022 ≤ a + b)
    (high : a + b ≤ 1023) : IsWithin (a + b) (UnpackedFloat.mul Format.binary64 u v) := by
  rcases left.1.cases with ⟨sign, rfl⟩ | ⟨sign, mantissa, exponent, positive, rfl⟩
  · rcases right.1.cases with ⟨other, rfl⟩ | ⟨other, factor, place, factorPositive, rfl⟩
    · exact isWithin_zero _ _
    · exact isWithin_zero _ _
  · rcases right.1.cases with ⟨other, rfl⟩ | ⟨other, factor, place, factorPositive, rfl⟩
    · exact isWithin_zero _ _
    · have precise := isPrecise_mul left.1 right.1
      have below := left.2
      have factorBelow := right.2
      refine isWithin_round_of_le _ precise low high ?_
      simp only [extent] at below factorBelow
      calc ((mantissa * factor : ℕ) : ℚ) * 2 ^ (exponent + place)
          = mantissa * 2 ^ exponent * (factor * 2 ^ place) := cast_mul_zpow ..
        _ ≤ 2 ^ a * 2 ^ b := by gcongr
        _ = 2 ^ (a + b) := (zpow_add₀ two_ne_zero a b).symm

/-- A product that is an integer of at most 53 binary places is exact. -/
theorem extent_mul_of_whole (left : IsCanonical u) (right : IsCanonical v) {whole : ℕ}
    (small : whole < 2 ^ 53) (exactly : extent u * extent v = whole) :
    extent (UnpackedFloat.mul Format.binary64 u v) = whole := by
  rcases left.cases with ⟨sign, rfl⟩ | ⟨sign, mantissa, exponent, positive, rfl⟩
  · rw [extent, zero_mul] at exactly
    rw [← exactly]
    rcases right.cases with ⟨other, rfl⟩ | ⟨other, factor, place, factorPositive, rfl⟩ <;> rfl
  · rcases right.cases with ⟨other, rfl⟩ | ⟨other, factor, place, factorPositive, rfl⟩
    · rw [← exactly, extent, extent, mul_zero]
      rfl
    · refine extent_round_of_whole _ (isPrecise_mul left right) small ?_
      rw [cast_mul_zpow]
      exact exactly

theorem le_extent_mul (left : IsCanonical u) (right : IsCanonical v)
    (leftAbove : 2 ^ a ≤ extent u) (rightAbove : 2 ^ b ≤ extent v) (low : -1074 ≤ a + b) :
    2 ^ (a + b) ≤ extent (UnpackedFloat.mul Format.binary64 u v) := by
  have leftApart : 0 < extent u := lt_of_lt_of_le (by positivity) leftAbove
  have rightApart : 0 < extent v := lt_of_lt_of_le (by positivity) rightAbove
  rcases left.cases with ⟨sign, rfl⟩ | ⟨sign, mantissa, exponent, positive, rfl⟩
  · exact absurd leftApart (lt_irrefl 0)
  rcases right.cases with ⟨other, rfl⟩ | ⟨other, factor, place, factorPositive, rfl⟩
  · exact absurd rightApart (lt_irrefl 0)
  refine le_extent_round _ .exact (isPrecise_mul left right) low ?_
  simp only [extent] at leftAbove rightAbove
  calc (2 : ℚ) ^ (a + b)
      = 2 ^ a * 2 ^ b := zpow_add₀ two_ne_zero a b
    _ ≤ mantissa * 2 ^ exponent * (factor * 2 ^ place) := by gcongr
    _ = ((mantissa * factor : ℕ) : ℚ) * 2 ^ (exponent + place) := (cast_mul_zpow ..).symm

/-- A quotient is computed to at least the binary places of a number. -/
theorem exists_divCore {mantissa divisor : ℕ} (positive : 0 < mantissa)
    (divisorPositive : 0 < divisor) (exponent place : ℤ) :
    ∃ quotient target rest,
      UnpackedFloat.divCore Format.binary64 mantissa exponent divisor place =
        (quotient, target, UnpackedFloat.accuracyOfFraction rest divisor) ∧
      IsPrecise quotient target ∧
      ((quotient * divisor + rest : ℕ) : ℚ) * 2 ^ (target + place) =
        mantissa * 2 ^ exponent := by
  have aim : Format.binary64.targetExponent
      (totalExponent mantissa exponent - totalExponent divisor place) =
        max (mantissa.log2 + 1 + exponent - (divisor.log2 + 1 + place) - 53) (-1074) := rfl
  obtain ⟨target, isTarget⟩ : ∃ target, min (exponent - place)
    (max (mantissa.log2 + 1 + exponent - (divisor.log2 + 1 + place) - 53) (-1074)) =
      target := ⟨_, rfl⟩
  obtain ⟨shift, isShift⟩ := Int.le.dest (show target ≤ exponent - place by omega)
  have shiftEq : (exponent - place - target).toNat = shift := by omega
  refine ⟨(mantissa <<< shift) / divisor, target, (mantissa <<< shift) % divisor, ?_, ?_, ?_⟩
  · simp only [UnpackedFloat.divCore, aim, isTarget, shiftEq]
  · by_cases least : target ≤ -1074
    · exact Or.inr least
    · left
      have enough : divisor.log2 + 53 ≤ mantissa.log2 + shift := by omega
      rw [Nat.le_div_iff_mul_le divisorPositive, Nat.shiftLeft_eq]
      calc 2 ^ 52 * divisor
          ≤ 2 ^ 52 * 2 ^ (divisor.log2 + 1) :=
            Nat.mul_le_mul_left _ Nat.lt_log2_self.le
        _ = 2 ^ (divisor.log2 + 53) := by ring
        _ ≤ 2 ^ (mantissa.log2 + shift) := Nat.pow_le_pow_right two_pos enough
        _ = 2 ^ mantissa.log2 * 2 ^ shift := pow_add ..
        _ ≤ mantissa * 2 ^ shift :=
            Nat.mul_le_mul_right _ (Nat.log2_self_le positive.ne')
  · rw [Nat.div_add_mod', Nat.shiftLeft_eq,
      show exponent = shift + (target + place) by omega, zpow_add₀ two_ne_zero (shift : ℤ),
      zpow_natCast]
    push_cast
    ring

theorem IsWithin.div (left : IsWithin a u) (right : IsCanonical v) (above : 2 ^ b ≤ extent v)
    (low : -1022 ≤ a - b) (high : a - b ≤ 1023) :
    IsWithin (a - b) (UnpackedFloat.div Format.binary64 u v) := by
  have apart : 0 < extent v := lt_of_lt_of_le (by positivity) above
  rcases right.cases with ⟨other, rfl⟩ | ⟨other, divisor, place, divisorPositive, rfl⟩
  · exact absurd apart (lt_irrefl 0)
  rcases left.1.cases with ⟨sign, rfl⟩ | ⟨sign, mantissa, exponent, positive, rfl⟩
  · exact isWithin_zero _ _
  obtain ⟨quotient, target, rest, core, precise, exactly⟩ :=
    exists_divCore positive divisorPositive exponent place
  have below := left.2
  simp only [extent] at above below apart
  have product : (quotient * 2 ^ target) * (divisor * 2 ^ place) +
      rest * 2 ^ (target + place) ≤ 2 ^ (a - b) * (divisor * 2 ^ place : ℚ) :=
    calc (quotient * 2 ^ target) * (divisor * 2 ^ place) + rest * 2 ^ (target + place)
        = ((quotient * divisor + rest : ℕ) : ℚ) * 2 ^ (target + place) := by
          rw [zpow_add₀ two_ne_zero]
          push_cast
          ring
      _ ≤ 2 ^ a := exactly.trans_le below
      _ = 2 ^ (a - b) * 2 ^ b := by rw [← zpow_add₀ two_ne_zero, sub_add_cancel]
      _ ≤ 2 ^ (a - b) * (divisor * 2 ^ place) := by gcongr
  have divided : UnpackedFloat.div Format.binary64 (.finite sign mantissa exponent positive)
      (.finite other divisor place divisorPositive) =
        roundWithAccuracy Format.binary64 (sign / other) quotient target
          (UnpackedFloat.accuracyOfFraction rest divisor) := by
    simp only [UnpackedFloat.div, core]
  rw [divided, UnpackedFloat.accuracyOfFraction]
  split
  next exact =>
    subst exact
    refine isWithin_round_of_le _ precise low high (le_of_mul_le_mul_right ?_ apart)
    simpa using product
  next inexact =>
    refine isWithin_round_of_lt _ _ precise (by omega) high (lt_of_mul_lt_mul_right ?_ apart.le)
    have left : (0 : ℚ) < rest * 2 ^ (target + place) := by
      have positive : 0 < rest := Nat.pos_of_ne_zero inexact
      positivity
    linarith

/-- A root is computed to at least the binary places of a number. -/
theorem exists_sqrtCore {mantissa : ℕ} (positive : 0 < mantissa) (exponent : ℤ) :
    ∃ root target accuracy,
      UnpackedFloat.sqrtCore Format.binary64 mantissa exponent = (root, target, accuracy) ∧
      IsPrecise root target ∧
      (root * 2 ^ target) ^ 2 ≤ (mantissa * 2 ^ exponent : ℚ) ∧
      (accuracy = .exact ∨ (root * 2 ^ target) ^ 2 < (mantissa * 2 ^ exponent : ℚ)) ∧
      (mantissa * 2 ^ exponent : ℚ) < ((root + 1) * 2 ^ target) ^ 2 := by
  have aim : Format.binary64.targetExponent ((totalExponent mantissa exponent + 1).ediv 2) =
      max ((mantissa.log2 + 1 + exponent + 1) / 2 - 53) (-1074) := rfl
  obtain ⟨target, isTarget⟩ : ∃ target, min (exponent.ediv 2)
    (max (((mantissa.log2 : ℤ) + 1 + exponent + 1) / 2 - 53) (-1074)) = target := ⟨_, rfl⟩
  have least : 2 * target ≤ exponent := by
    have half : exponent.ediv 2 = exponent / 2 := rfl
    omega
  obtain ⟨shift, isShift⟩ := Int.le.dest least
  have shiftEq : (exponent - 2 * target).toNat = shift := by omega
  have shifted : ((mantissa * 2 ^ shift : ℕ) : ℚ) * (2 ^ target) ^ 2 =
      mantissa * 2 ^ exponent := by
    rw [← isShift, zpow_add₀ two_ne_zero, zpow_natCast, two_mul, zpow_add₀ two_ne_zero]
    push_cast
    ring
  have core : UnpackedFloat.sqrtCore Format.binary64 mantissa exponent =
      ((mantissa * 2 ^ shift).sqrt, target,
        if mantissa * 2 ^ shift - (mantissa * 2 ^ shift).sqrt * (mantissa * 2 ^ shift).sqrt = 0
        then .exact
        else .inexact (if mantissa * 2 ^ shift -
          (mantissa * 2 ^ shift).sqrt * (mantissa * 2 ^ shift).sqrt ≤
            (mantissa * 2 ^ shift).sqrt then .lt else .gt)) := by
    simp only [UnpackedFloat.sqrtCore, aim, isTarget, shiftEq, Nat.shiftLeft_eq]
  have most : (mantissa * 2 ^ shift).sqrt * (mantissa * 2 ^ shift).sqrt ≤
      mantissa * 2 ^ shift := Nat.sqrt_le _
  have less : mantissa * 2 ^ shift <
      ((mantissa * 2 ^ shift).sqrt + 1) * ((mantissa * 2 ^ shift).sqrt + 1) :=
    Nat.lt_succ_sqrt _
  have precise : IsPrecise (mantissa * 2 ^ shift).sqrt target := by
    by_cases low : target ≤ -1074
    · exact Or.inr low
    · left
      have enough : 104 ≤ mantissa.log2 + shift := by omega
      rw [Nat.le_sqrt, ← pow_add]
      calc 2 ^ (52 + 52)
          ≤ 2 ^ (mantissa.log2 + shift) := Nat.pow_le_pow_right two_pos enough
        _ = 2 ^ mantissa.log2 * 2 ^ shift := pow_add ..
        _ ≤ mantissa * 2 ^ shift :=
            Nat.mul_le_mul_right _ (Nat.log2_self_le positive.ne')
  generalize (mantissa * 2 ^ shift).sqrt = root at core most less precise
  refine ⟨root, target, _, core, precise, ?_, ?_, ?_⟩
  · rw [← shifted, mul_pow]
    gcongr
    rw [pow_two]
    exact mod_cast most
  · split
    next => exact Or.inl rfl
    next rest =>
      right
      have strictly : root * root < mantissa * 2 ^ shift := by omega
      rw [← shifted, mul_pow]
      gcongr
      rw [pow_two]
      exact mod_cast strictly
  · rw [← shifted, mul_pow]
    gcongr
    rw [pow_two]
    exact mod_cast less

section Root

variable {mantissa : ℕ} {exponent : ℤ} {positive : 0 < mantissa}

theorem isWithin_sqrt (nonnegative : IsNonnegative u) (within : IsWithin (2 * k) u)
    (low : -1022 ≤ k) (high : k ≤ 1023) :
    IsWithin k (UnpackedFloat.sqrt Format.binary64 u) := by
  rcases within.1.cases with ⟨sign, rfl⟩ | ⟨sign, mantissa, exponent, positive, rfl⟩
  · exact isWithin_zero _ _
  obtain rfl : sign = .positive := nonnegative
  obtain ⟨root, target, accuracy, core, precise, square, exactly, -⟩ :=
    exists_sqrtCore positive exponent
  have below : (mantissa * 2 ^ exponent : ℚ) ≤ (2 ^ k) ^ 2 := by
    rw [← zpow_natCast, ← zpow_mul, mul_comm k]
    exact within.2
  have rooted : UnpackedFloat.sqrt Format.binary64 (.finite .positive mantissa exponent positive) =
      roundWithAccuracy Format.binary64 .positive root target accuracy := by
    simp only [UnpackedFloat.sqrt, core]
  rw [rooted]
  rcases exactly with rfl | less
  · refine isWithin_round_of_le _ precise low high ?_
    exact le_of_sq_le_sq (square.trans below) (by positivity)
  · refine isWithin_round_of_lt _ _ precise (by omega) high ?_
    exact lt_of_pow_lt_pow_left₀ 2 (by positivity) (less.trans_le below)

theorem le_extent_sqrt (nonnegative : IsNonnegative u) (low : -1074 ≤ k)
    (above : 2 ^ (2 * k) ≤ extent u) :
    2 ^ k ≤ extent (UnpackedFloat.sqrt Format.binary64 u) := by
  cases u with
  | infinity sign => exact nonnegative.elim
  | notANumber => exact nonnegative.elim
  | zero sign =>
      have power : (0 : ℚ) < 2 ^ (2 * k) := by positivity
      exact absurd above (not_le.2 power)
  | finite sign mantissa exponent positive =>
      obtain rfl : sign = .positive := nonnegative
      obtain ⟨root, target, accuracy, core, precise, -, -, less⟩ :=
        exists_sqrtCore positive exponent
      have above : (2 ^ k : ℚ) ^ 2 ≤ mantissa * 2 ^ exponent := by
        rw [← zpow_natCast, ← zpow_mul, mul_comm k]
        exact above
      have rooted : UnpackedFloat.sqrt Format.binary64
          (.finite .positive mantissa exponent positive) =
            roundWithAccuracy Format.binary64 .positive root target accuracy := by
        simp only [UnpackedFloat.sqrt, core]
      rw [rooted]
      refine le_extent_round _ _ precise low ?_
      have near : (2 ^ k : ℚ) < (root + 1) * 2 ^ target :=
        lt_of_pow_lt_pow_left₀ 2 (by positivity) (above.trans_lt less)
      rcases le_or_gt target k with reaches | beyond
      · obtain ⟨places, rfl⟩ := Int.le.dest reaches
        rw [zpow_add₀ two_ne_zero, mul_comm, zpow_natCast] at near ⊢
        have many : (2 ^ places : ℚ) < root + 1 := lt_of_mul_lt_mul_right near (by positivity)
        have many : 2 ^ places < root + 1 := mod_cast many
        gcongr
        exact mod_cast Nat.le_of_lt_succ many
      · have some : 1 ≤ root := by
          rcases precise with long | least <;> omega
        calc (2 ^ k : ℚ)
            ≤ 2 ^ target := zpow_le_zpow_right₀ one_le_two beyond.le
          _ ≤ root * 2 ^ target :=
              le_mul_of_one_le_left (by positivity) (mod_cast some)

end Root

/-- A number that need not have all its binary places is first given them. -/
theorem exists_round (sign : Sign) {mantissa : ℕ} (positive : 0 < mantissa) (exponent : ℤ) :
    ∃ (longer : ℕ) (place : ℤ),
      UnpackedFloat.round Format.binary64 sign mantissa exponent =
        roundWithAccuracy Format.binary64 sign longer place .exact ∧
      IsPrecise longer place ∧ (longer * 2 ^ place : ℚ) = mantissa * 2 ^ exponent := by
  have aim : Format.binary64.targetExponent (totalExponent mantissa exponent) =
      max (mantissa.log2 + 1 + exponent - 53) (-1074) := rfl
  obtain ⟨shift, isShift⟩ : ∃ shift : ℕ,
      (exponent - max (mantissa.log2 + 1 + exponent - 53) (-1074)).toNat = shift := ⟨_, rfl⟩
  refine ⟨mantissa * 2 ^ shift, exponent - shift, ?_, ?_, ?_⟩
  · simp only [UnpackedFloat.round, UnpackedFloat.decreaseExponent, aim, isShift,
      Nat.shiftLeft_eq]
  · by_cases least : exponent - shift ≤ -1074
    · exact Or.inr least
    · left
      have enough : 52 ≤ mantissa.log2 + shift := by omega
      calc 2 ^ 52
          ≤ 2 ^ (mantissa.log2 + shift) := Nat.pow_le_pow_right two_pos enough
        _ = 2 ^ mantissa.log2 * 2 ^ shift := pow_add ..
        _ ≤ mantissa * 2 ^ shift :=
            Nat.mul_le_mul_right _ (Nat.log2_self_le positive.ne')
  · rw [zpow_sub₀ two_ne_zero, zpow_natCast]
    push_cast
    field_simp

/-- A sum is normalized by rounding its distance from zero. -/
theorem normalize_cases (mantissa exponent : ℤ) :
    mantissa = 0 ∧ UnpackedFloat.normalize Format.binary64 mantissa exponent .positive =
        .zero .positive ∨
      ∃ sign longer place, (0 ≤ mantissa → sign = .positive) ∧
        UnpackedFloat.normalize Format.binary64 mantissa exponent .positive =
          roundWithAccuracy Format.binary64 sign longer place .exact ∧
        IsPrecise longer place ∧ (longer * 2 ^ place : ℚ) = |mantissa| * 2 ^ exponent := by
  rcases lt_trichotomy mantissa 0 with negative | rfl | positive
  · right
    obtain ⟨longer, place, rounds, precise, same⟩ :=
      exists_round .negative (show 0 < (-mantissa).toNat by omega) exponent
    refine ⟨.negative, longer, place, by omega, ?_, precise, same.trans ?_⟩
    · rw [UnpackedFloat.normalize, Int.compare_eq_lt.2 negative]
      exact rounds
    · have size : ((-mantissa).toNat : ℤ) = |mantissa| := by
        rw [Int.toNat_of_nonneg (by omega), abs_of_neg negative]
      rw [← size]
      norm_cast
  · exact Or.inl ⟨rfl, rfl⟩
  · right
    obtain ⟨longer, place, rounds, precise, same⟩ :=
      exists_round .positive (show 0 < mantissa.toNat by omega) exponent
    refine ⟨.positive, longer, place, fun _ => rfl, ?_, precise, same.trans ?_⟩
    · rw [UnpackedFloat.normalize, Int.compare_eq_gt.2 positive]
      exact rounds
    · have size : (mantissa.toNat : ℤ) = |mantissa| := by
        rw [Int.toNat_of_nonneg positive.le, abs_of_pos positive]
      rw [← size]
      norm_cast

theorem isWithin_normalize {mantissa exponent : ℤ} (low : -1022 ≤ k) (high : k ≤ 1023)
    (near : (|mantissa| : ℚ) * 2 ^ exponent ≤ 2 ^ k + 2 ^ (k - 54)) :
    IsWithin k (UnpackedFloat.normalize Format.binary64 mantissa exponent .positive) := by
  rcases normalize_cases mantissa exponent with
    ⟨-, zero⟩ | ⟨sign, longer, place, -, rounds, precise, same⟩
  · rw [zero]
    exact isWithin_zero _ _
  · rw [rounds]
    refine isWithin_round_of_near sign precise low high (same.trans_le ?_)
    exact mod_cast near

/-- A natural number of at most 53 binary places is normalized without rounding. -/
theorem extent_normalize_of_whole {whole : ℕ} (small : whole < 2 ^ 53) :
    extent (UnpackedFloat.normalize Format.binary64 whole 0 .positive) = whole := by
  rcases normalize_cases whole 0 with ⟨none, zero⟩ | ⟨sign, longer, place, -, rounds, precise, same⟩
  · rw [zero, extent, Int.natCast_eq_zero.1 none, Nat.cast_zero]
  · rw [rounds]
    refine extent_round_of_whole sign precise small ?_
    simpa using same

theorem le_extent_normalize {mantissa exponent : ℤ} (apart : mantissa ≠ 0)
    (low : -1074 ≤ k) (steps : k ≤ exponent) :
    2 ^ k ≤
      extent (UnpackedFloat.normalize Format.binary64 mantissa exponent .positive) := by
  rcases normalize_cases mantissa exponent with
    ⟨zero, -⟩ | ⟨sign, longer, place, -, rounds, precise, same⟩
  · exact absurd zero apart
  · rw [rounds]
    refine le_extent_round sign .exact precise low (same ▸ ?_)
    have one : 1 ≤ |(mantissa : ℚ)| := mod_cast Int.one_le_abs apart
    calc (2 ^ k : ℚ)
        ≤ 2 ^ exponent := zpow_le_zpow_right₀ one_le_two steps
      _ ≤ |(mantissa : ℚ)| * 2 ^ exponent := le_mul_of_one_le_left (by positivity) one
      _ = ((|mantissa| : ℤ) : ℚ) * 2 ^ exponent := by push_cast; rfl

theorem isNonnegative_normalize {mantissa exponent : ℤ} (nonnegative : 0 ≤ mantissa) :
    IsNonnegative
      (UnpackedFloat.normalize Format.binary64 mantissa exponent .positive) := by
  rcases normalize_cases mantissa exponent with
    ⟨-, zero⟩ | ⟨sign, longer, place, signed, rounds, precise, -⟩
  · rw [zero]
    trivial
  · rw [rounds, signed nonnegative]
    exact isNonnegative_round .exact precise

theorem aligned (mantissa : ℕ) {exponent least : ℤ} (le : least ≤ exponent) :
    ((UnpackedFloat.decreaseExponent mantissa exponent least).1 : ℚ) * 2 ^ least =
      mantissa * 2 ^ exponent := by
  obtain ⟨shift, rfl⟩ := Int.le.dest le
  have shiftEq : (least + shift - least).toNat = shift := by omega
  rw [UnpackedFloat.decreaseExponent, shiftEq, Nat.shiftLeft_eq, zpow_add₀ two_ne_zero,
    zpow_natCast]
  push_cast
  ring

theorem abs_apply_add_le (left right : Sign) (m n : ℕ) :
    |left.apply m + right.apply n| ≤ m + n := by
  cases left <;> cases right <;> simp only [Sign.apply, abs_le] <;> omega

/-- Two numbers written with the less of their exponents. -/
theorem near_of_aligned {left right : ℕ} {exponent place mantissa : ℤ}
    (near : (left * 2 ^ exponent + right * 2 ^ place : ℚ) ≤ 2 ^ k + 2 ^ (k - 54))
    (bounded : |mantissa| ≤
      ((UnpackedFloat.decreaseExponent left exponent (min exponent place)).1 : ℤ) +
        (UnpackedFloat.decreaseExponent right place (min exponent place)).1) :
    (|mantissa| : ℚ) * 2 ^ min exponent place ≤ 2 ^ k + 2 ^ (k - 54) := by
  refine le_trans ?_ near
  rw [← aligned left (min_le_left exponent place), ← aligned right (min_le_right exponent place),
    ← add_mul]
  gcongr
  exact mod_cast bounded

theorem IsWithin.add (left : IsWithin k u) (right : IsWithin k v)
    (near : extent u + extent v ≤ 2 ^ k + 2 ^ (k - 54)) (low : -1022 ≤ k) (high : k ≤ 1023) :
    IsWithin k (UnpackedFloat.add Format.binary64 u v) := by
  rcases left.1.cases with ⟨sign, rfl⟩ | ⟨sign, mantissa, exponent, positive, rfl⟩
  · rcases right.1.cases with ⟨other, rfl⟩ | ⟨other, addend, place, addendPositive, rfl⟩
    · simp only [UnpackedFloat.add]
      split <;> exact isWithin_zero _ _
    · exact right
  · rcases right.1.cases with ⟨other, rfl⟩ | ⟨other, addend, place, addendPositive, rfl⟩
    · exact left
    · exact isWithin_normalize low high (near_of_aligned near (abs_apply_add_le ..))

theorem extent_neg (u : UnpackedFloat) : extent u.neg = extent u := by
  cases u <;> rfl

theorem IsCanonical.neg (canonical : IsCanonical u) : IsCanonical u.neg := by
  cases u <;> exact canonical

theorem IsWithin.neg (within : IsWithin k u) : IsWithin k u.neg :=
  ⟨within.1.neg, (extent_neg u).trans_le within.2⟩

/-- Taking a number away is adding it with the other sign. -/
theorem sub_eq_add_opposite (format : Format) (u v : UnpackedFloat) :
    UnpackedFloat.sub format u v = UnpackedFloat.add format u v.neg := by
  have opposite (sign : Sign) (m : ℕ) : (-sign).apply m = -sign.apply m := by
    cases sign with
    | positive => rfl
    | negative => exact (neg_neg (m : ℤ)).symm
  cases u <;> cases v <;> try rfl
  simp only [UnpackedFloat.sub, UnpackedFloat.add, UnpackedFloat.neg, opposite, Int.sub_eq_add_neg]

theorem IsWithin.sub (left : IsWithin k u) (right : IsWithin k v)
    (near : extent u + extent v ≤ 2 ^ k + 2 ^ (k - 54)) (low : -1022 ≤ k) (high : k ≤ 1023) :
    IsWithin k (UnpackedFloat.sub Format.binary64 u v) := by
  rw [sub_eq_add_opposite]
  exact left.add right.neg ((extent_neg v).symm ▸ near) low high

end Operations

/-! ## Signs and steps -/

section Signs

variable {a b k : ℤ} {u v : UnpackedFloat}

/-- A square is not less than zero. -/
theorem isNonnegative_mul_self (canonical : IsCanonical u) :
    IsNonnegative (UnpackedFloat.mul Format.binary64 u u) := by
  rcases canonical.cases with ⟨sign, rfl⟩ | ⟨sign, mantissa, exponent, positive, rfl⟩
  · trivial
  · have square : sign * sign = .positive := by cases sign <;> rfl
    simp only [UnpackedFloat.mul, square]
    exact isNonnegative_round .exact (isPrecise_mul canonical canonical)

theorem IsNonnegative.cases (nonnegative : IsNonnegative u) :
    (∃ sign, u = .zero sign) ∨
      ∃ mantissa exponent positive, u = .finite .positive mantissa exponent positive := by
  cases u with
  | infinity sign => exact nonnegative.elim
  | notANumber => exact nonnegative.elim
  | zero sign => exact Or.inl ⟨sign, rfl⟩
  | finite sign mantissa exponent positive =>
      obtain rfl : sign = .positive := nonnegative
      exact Or.inr ⟨mantissa, exponent, positive, rfl⟩

theorem IsNonnegative.add (left : IsNonnegative u) (right : IsNonnegative v) :
    IsNonnegative (UnpackedFloat.add Format.binary64 u v) := by
  rcases left.cases with ⟨sign, rfl⟩ | ⟨mantissa, exponent, positive, rfl⟩
  · rcases right.cases with ⟨other, rfl⟩ | ⟨addend, place, addendPositive, rfl⟩
    · simp only [UnpackedFloat.add]
      split <;> trivial
    · rfl
  · rcases right.cases with ⟨other, rfl⟩ | ⟨addend, place, addendPositive, rfl⟩
    · rfl
    · apply isNonnegative_normalize
      exact add_nonneg (Int.natCast_nonneg _) (Int.natCast_nonneg _)

theorem IsNonnegative.mul (left : IsNonnegative u) (right : IsNonnegative v)
    (leftCanonical : IsCanonical u) (rightCanonical : IsCanonical v) :
    IsNonnegative (UnpackedFloat.mul Format.binary64 u v) := by
  rcases left.cases with ⟨sign, rfl⟩ | ⟨mantissa, exponent, positive, rfl⟩
  · rcases right.cases with ⟨other, rfl⟩ | ⟨factor, place, factorPositive, rfl⟩
    · trivial
    · trivial
  · rcases right.cases with ⟨other, rfl⟩ | ⟨factor, place, factorPositive, rfl⟩
    · trivial
    · exact isNonnegative_round .exact (isPrecise_mul leftCanonical rightCanonical)

theorem IsNonnegative.div (left : IsNonnegative u) (right : IsNonnegative v)
    (apart : extent v ≠ 0) : IsNonnegative (UnpackedFloat.div Format.binary64 u v) := by
  rcases right.cases with ⟨other, rfl⟩ | ⟨divisor, place, divisorPositive, rfl⟩
  · exact absurd rfl apart
  · rcases left.cases with ⟨sign, rfl⟩ | ⟨mantissa, exponent, positive, rfl⟩
    · trivial
    · obtain ⟨quotient, target, rest, core, precise, -⟩ :=
        exists_divCore positive divisorPositive exponent place
      simp only [UnpackedFloat.div, core]
      exact isNonnegative_round _ precise

/-- An unpacked number is finite and a multiple of a power of two. -/
def IsMultiple (k : ℤ) : UnpackedFloat → Prop
  | .finite _ _ exponent _ => k ≤ exponent
  | .zero _ => True
  | .infinity _ | .notANumber => False

theorem le_extent_of_isMultiple {sign : Sign} {mantissa : ℕ} {exponent : ℤ}
    {positive : 0 < mantissa} (multiple : k ≤ exponent) :
    2 ^ k ≤ extent (.finite sign mantissa exponent positive) :=
  calc (2 : ℚ) ^ k
      ≤ 2 ^ exponent := zpow_le_zpow_right₀ one_le_two multiple
    _ ≤ mantissa * 2 ^ exponent :=
        le_mul_of_one_le_left (by positivity) (mod_cast positive)

/-- A number that is far enough from zero is a multiple of a power of two. -/
theorem isMultiple_of_le (canonical : IsCanonical u)
    (apart : extent u = 0 ∨ 2 ^ (k + 53) ≤ extent u) : IsMultiple k u := by
  rcases canonical.cases with ⟨sign, rfl⟩ | ⟨sign, mantissa, exponent, positive, rfl⟩
  · trivial
  · rcases apart with zero | above
    · have some : (0 : ℚ) < mantissa * 2 ^ exponent := by positivity
      exact absurd zero some.ne'
    · have few : (mantissa : ℚ) < 2 ^ 53 := mod_cast canonical.1
      have less : (2 : ℚ) ^ (k + 53) < 2 ^ (53 + exponent) :=
        calc (2 : ℚ) ^ (k + 53)
            ≤ mantissa * 2 ^ exponent := above
          _ < 2 ^ 53 * 2 ^ exponent := by gcongr
          _ = 2 ^ (53 + exponent) := by rw [zpow_add₀ two_ne_zero]; norm_num
      have less := (zpow_lt_zpow_iff_right₀ one_lt_two).1 less
      have least : k ≤ exponent := by omega
      exact least

/-- The difference of two multiples of a power of two is zero or at least this power. -/
theorem extent_sub_of_isMultiple (left : IsMultiple k u) (right : IsMultiple k v)
    (low : -1074 ≤ k) :
    extent (UnpackedFloat.sub Format.binary64 u v) = 0 ∨
      2 ^ k ≤ extent (UnpackedFloat.sub Format.binary64 u v) := by
  cases u with
  | infinity sign => exact left.elim
  | notANumber => exact left.elim
  | zero sign =>
      cases v with
      | infinity other => exact right.elim
      | notANumber => exact right.elim
      | zero other =>
          left
          simp only [UnpackedFloat.sub]
          split <;> rfl
      | finite other mantissa exponent positive =>
          exact Or.inr (le_extent_of_isMultiple right)
  | finite sign mantissa exponent positive =>
      cases v with
      | infinity other => exact right.elim
      | notANumber => exact right.elim
      | zero other => exact Or.inr (le_extent_of_isMultiple left)
      | finite other subtrahend place subtrahendPositive =>
          simp only [UnpackedFloat.sub]
          generalize sign.apply _ - other.apply _ = difference
          by_cases zero : difference = 0
          · left
            subst zero
            rfl
          · right
            exact le_extent_normalize zero low (le_min left right)

end Signs

end ColumnChain.Number
