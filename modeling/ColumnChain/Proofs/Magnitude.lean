import ColumnChain.Proofs.Unpacked

/-!
# The size of binary64 numbers

Bounds of numbers by powers of two, carried from the arguments of an operation to its result.
A number that has such a bound is finite.
-/

namespace ColumnChain.Number

open Float.Model (Format UnpackedFloat)
open Float.Model.UnpackedFloat (Sign roundWithAccuracy)

/-! ## Numbers -/

/-- The exact distance of a finite number from zero, and zero for what is not finite. -/
def distance (x : Float) : ℚ :=
  extent x.toModel.unpack

/-- A number is finite and at most a power of two from zero. -/
def AtMost (k : ℤ) (x : Float) : Prop :=
  IsWithin k x.toModel.unpack

/-- A number is finite and at least a power of two from zero. -/
def AtLeast (k : ℤ) (x : Float) : Prop :=
  IsCanonical x.toModel.unpack ∧ 2 ^ k ≤ distance x

theorem isCanonical_iff {x : Float} :
    IsCanonical x.toModel.unpack ↔ x.isFinite = true := by
  constructor
  · intro canonical
    rw [Float.isFinite, Float.Model.isFinite]
    rcases canonical.cases with ⟨sign, zero⟩ | ⟨sign, mantissa, exponent, positive, finite⟩
    · rw [zero]
      rfl
    · rw [finite]
      rfl
  · exact isCanonical_unpack

theorem atMost_pack {k : ℤ} {u : UnpackedFloat} (within : IsWithin k u) :
    AtMost k (.ofModel (.pack u)) := by
  have same : (Float.Model.pack u).unpack = u := unpack_pack within.1
  rw [AtMost, same]
  exact within

section Numbers

variable {a b k : ℤ} {x y : Float}

theorem AtMost.isFinite (most : AtMost k x) : x.isFinite = true :=
  isCanonical_iff.1 most.1

theorem AtMost.mono (most : AtMost a x) (le : a ≤ b) : AtMost b x :=
  IsWithin.mono most le

theorem AtMost.mul (left : AtMost a x) (right : AtMost b y) (low : -1022 ≤ a + b)
    (high : a + b ≤ 1023) : AtMost (a + b) (x * y) :=
  atMost_pack (IsWithin.mul left right low high)

theorem AtMost.div (left : AtMost a x) (right : AtLeast b y) (low : -1022 ≤ a - b)
    (high : a - b ≤ 1023) : AtMost (a - b) (x / y) :=
  atMost_pack (IsWithin.div left right.1 right.2 low high)

/-- What is added to a much larger number is rounded away where the sum would otherwise be
farther from zero than a power of two. -/
theorem AtMost.add_absorbed (left : AtMost k x) (right : AtMost (k - 54) y)
    (low : -1022 ≤ k) (high : k ≤ 1023) : AtMost k (x + y) :=
  atMost_pack (IsWithin.add left (IsWithin.mono right (by omega))
    (add_le_add left.2 right.2) low high)

theorem add_le_double (left : AtMost k x) (right : AtMost k y) :
    distance x + distance y ≤ 2 ^ (k + 1) + 2 ^ (k + 1 - 54) := by
  have slack : (0 : ℚ) < 2 ^ (k + 1 - 54) := by positivity
  have sum := add_le_add left.2 right.2
  rw [zpow_add_one₀ two_ne_zero]
  simp only [distance]
  linarith

theorem AtMost.add (left : AtMost k x) (right : AtMost k y) (low : -1022 ≤ k)
    (high : k < 1023) : AtMost (k + 1) (x + y) :=
  atMost_pack (IsWithin.add (IsWithin.mono left (by omega)) (IsWithin.mono right (by omega))
    (add_le_double left right) (by omega) (by omega))

theorem isWithin_sub (left : AtMost k x) (right : AtMost k y) (low : -1022 ≤ k)
    (high : k < 1023) :
    IsWithin (k + 1) (UnpackedFloat.sub Format.binary64 x.toModel.unpack y.toModel.unpack) :=
  IsWithin.sub (IsWithin.mono left (by omega)) (IsWithin.mono right (by omega))
    (add_le_double left right) (by omega) (by omega)

theorem AtMost.sub (left : AtMost k x) (right : AtMost k y) (low : -1022 ≤ k)
    (high : k < 1023) : AtMost (k + 1) (x - y) :=
  atMost_pack (isWithin_sub left right low high)

/-- A number is finite and not less than zero. -/
def NotNegative (x : Float) : Prop :=
  IsNonnegative x.toModel.unpack

theorem beq_zero_of_unpack {sign : Sign} (zero : x.toModel.unpack = .zero sign) :
    (x == 0.0) = true := by
  have equal : (x == 0.0) = UnpackedFloat.beq x.toModel.unpack (.zero .positive) := rfl
  rw [equal, zero]
  rfl

/-- Only the zeros compare equal to zero. -/
theorem exists_unpack_of_beq_zero (zero : (x == 0.0) = true) :
    ∃ sign, x.toModel.unpack = .zero sign := by
  have equal : (x == 0.0) = UnpackedFloat.beq x.toModel.unpack (.zero .positive) := rfl
  rw [equal] at zero
  cases unpacked : x.toModel.unpack with
  | zero sign => exact ⟨sign, rfl⟩
  | infinity sign =>
      rw [unpacked] at zero
      cases sign <;> cases zero
  | notANumber =>
      rw [unpacked] at zero
      cases zero
  | finite sign mantissa exponent positive =>
      rw [unpacked] at zero
      cases sign <;> cases zero

theorem zero_or_atLeast (finite : x.isFinite = true) :
    (∃ sign, x.toModel.unpack = .zero sign) ∨ AtLeast (-1074) x := by
  have canonical := isCanonical_iff.2 finite
  rcases canonical.cases with zero | ⟨sign, mantissa, exponent, positive, some⟩
  · exact Or.inl zero
  · right
    refine ⟨canonical, ?_⟩
    rw [some] at canonical
    rw [distance, some]
    exact le_extent_of_isMultiple canonical.2.1

theorem AtLeast.sqrt (nonnegative : NotNegative x) (most : AtMost (2 * a) x)
    (above : AtLeast (2 * k) x) (low : -1022 ≤ a) (high : a ≤ 1023) (least : -1074 ≤ k) :
    AtLeast k x.sqrt := by
  have within := isWithin_sqrt nonnegative most low high
  have same : x.sqrt.toModel.unpack = UnpackedFloat.sqrt Format.binary64 x.toModel.unpack :=
    unpack_pack within.1
  rw [AtLeast, distance, same]
  exact ⟨within.1, le_extent_sqrt nonnegative least above.2⟩

/-- The root of a number that is not zero is not zero, either, and not too close to it. -/
theorem AtLeast.sqrt_of_ne_zero (nonnegative : NotNegative x) (most : AtMost (2 * a) x)
    (low : -1022 ≤ a) (high : a ≤ 1023) (differ : (x.sqrt == 0.0) = false) :
    AtLeast (-537) x.sqrt := by
  rcases zero_or_atLeast most.isFinite with ⟨sign, zero⟩ | above
  · have root : x.sqrt.toModel.unpack = .zero sign := by
      have unfolded : x.sqrt.toModel.unpack =
          (Float.Model.pack (UnpackedFloat.sqrt Format.binary64 x.toModel.unpack)).unpack := rfl
      rw [unfolded, zero]
      exact unpack_pack trivial
    rw [beq_zero_of_unpack root] at differ
    cases differ
  · exact AtLeast.sqrt nonnegative most above low high (by norm_num)

theorem notNegative_pack {u : UnpackedFloat} (canonical : IsCanonical u)
    (nonnegative : IsNonnegative u) : NotNegative (.ofModel (.pack u)) := by
  have same : (Float.Model.pack u).unpack = u := unpack_pack canonical
  rw [NotNegative, same]
  exact nonnegative

theorem notNegative_mul_self (most : AtMost a x) (low : -1022 ≤ a + a) (high : a + a ≤ 1023) :
    NotNegative (x * x) :=
  notNegative_pack (IsWithin.mul most most low high).1 (isNonnegative_mul_self most.1)

theorem NotNegative.add_absorbed (leftNonnegative : NotNegative x)
    (rightNonnegative : NotNegative y) (left : AtMost k x) (right : AtMost (k - 54) y)
    (low : -1022 ≤ k) (high : k ≤ 1023) : NotNegative (x + y) :=
  notNegative_pack (IsWithin.add left (IsWithin.mono right (by omega))
    (add_le_add left.2 right.2) low high).1 (IsNonnegative.add leftNonnegative rightNonnegative)

theorem NotNegative.div (leftNonnegative : NotNegative x) (rightNonnegative : NotNegative y)
    (left : AtMost a x) (right : AtLeast b y) (low : -1022 ≤ a - b) (high : a - b ≤ 1023) :
    NotNegative (x / y) := by
  have apart : distance y ≠ 0 := (lt_of_lt_of_le (by positivity) right.2).ne'
  exact notNegative_pack (IsWithin.div left right.1 right.2 low high).1
    (IsNonnegative.div leftNonnegative rightNonnegative apart)

/-- The difference of two numbers that are zero or not too close to it is zero or not too
close to it, either. -/
theorem AtLeast.sub (left : AtMost a x) (right : AtMost a y)
    (leftApart : distance x = 0 ∨ 2 ^ (k + 53) ≤ distance x)
    (rightApart : distance y = 0 ∨ 2 ^ (k + 53) ≤ distance y)
    (differ : (x - y == 0.0) = false) (low : -1022 ≤ a) (high : a < 1023)
    (least : -1074 ≤ k) : AtLeast k (x - y) := by
  have within := isWithin_sub left right low high
  have same : (x - y).toModel.unpack =
      UnpackedFloat.sub Format.binary64 x.toModel.unpack y.toModel.unpack :=
    unpack_pack within.1
  have canonical : IsCanonical (x - y).toModel.unpack := same ▸ within.1
  refine ⟨canonical, ?_⟩
  rcases extent_sub_of_isMultiple (isMultiple_of_le left.1 leftApart)
    (isMultiple_of_le right.1 rightApart) least with zero | above
  · rcases zero_or_atLeast (isCanonical_iff.1 canonical) with ⟨sign, none⟩ | apart
    · rw [beq_zero_of_unpack none] at differ
      cases differ
    · have some : (0 : ℚ) < distance (x - y) := lt_of_lt_of_le (by positivity) apart.2
      rw [distance, same, zero] at some
      exact absurd some (lt_irrefl 0)
  · rw [distance, same]
    exact above

/-! ## Counts -/

/-- A count is converted by rounding, and exactly if it has few digits. -/
theorem exists_ofNat {n : ℕ} (le : (n : ℚ) ≤ 2 ^ k) (low : 0 ≤ k) (high : k ≤ 1023) :
    ∃ u, Float.ofNat n = .ofModel (.pack u) ∧ IsWithin k u ∧ IsNonnegative u ∧
      (0 < n → 2 ^ (0 : ℤ) ≤ extent u) ∧ (n < 2 ^ 53 → extent u = n) := by
  by_cases small : n < 2 ^ 53
  · -- A count of so few digits is converted as it is, and multiplied by one.
    have toWord : n.toUInt64.toNat = n := by
      rw [Nat.toUInt64, UInt64.toNat_ofNat']
      exact Nat.mod_eq_of_lt (by omega)
    have product : Float.ofNat n =
        .ofModel (.pack (UnpackedFloat.normalize Format.binary64 n.toUInt64.toNat 0 .positive)) *
          1.0 := by
      rw [Float.ofNat]
      exact dif_pos ⟨small, by norm_num⟩
    rw [toWord] at product
    have converted : IsWithin k
        (UnpackedFloat.normalize Format.binary64 n 0 .positive) := by
      refine isWithin_normalize (by omega) high ?_
      have slack : (0 : ℚ) < 2 ^ (k - 54) := by positivity
      simp
      linarith
    have one : (1.0 : Float).toModel.unpack =
        .finite .positive (2 ^ 52) (-52) (by decide) := rfl
    have oneCanonical : IsCanonical (.finite .positive (2 ^ 52) (-52) (by decide)) :=
      ⟨by norm_num, by norm_num, by norm_num, Or.inl le_rfl⟩
    have oneExtent : extent (.finite .positive (2 ^ 52) (-52) (by decide)) = 2 ^ (0 : ℤ) := by
      norm_num [extent]
    have unfolded : Float.ofNat n = .ofModel (.pack (UnpackedFloat.mul Format.binary64
        (UnpackedFloat.normalize Format.binary64 n 0 .positive)
        (.finite .positive (2 ^ 52) (-52) (by decide)))) := by
      have same := unpack_pack converted.1
      rw [product, ← one]
      conv_rhs => rw [← same]
      rfl
    have nonnegative : IsNonnegative (UnpackedFloat.normalize Format.binary64 n 0 .positive) :=
      isNonnegative_normalize (Int.natCast_nonneg n)
    refine ⟨_, unfolded, ?_, nonnegative.mul rfl converted.1 oneCanonical, fun positive => ?_,
      fun _ => ?_⟩
    · have within := IsWithin.mul converted ⟨oneCanonical, oneExtent.le⟩ (by omega) (by omega)
      rwa [add_zero] at within
    · have some : (n : ℤ) ≠ 0 := by omega
      have above := le_extent_normalize some (show (-1074 : ℤ) ≤ 0 by norm_num) le_rfl
      exact le_extent_mul converted.1 oneCanonical above oneExtent.ge (by norm_num)
    · refine extent_mul_of_whole converted.1 oneCanonical small ?_
      rw [extent_normalize_of_whole small, oneExtent, zpow_zero, mul_one]
  · -- A longer one is rounded once, from more binary places than it needs.
    have positive : n ≠ 0 := by omega
    have unfolded : Float.ofNat n = .ofModel (.pack (roundWithAccuracy Format.binary64 .positive
        ((n <<< 53) * 10 ^ 0) (-53 + 0) .exact)) := by
      have tooLong : Float.ofNat n = .ofModel (.pack
          (UnpackedFloat.ofScientific Format.binary64 n 0)) := by
        rw [Float.ofNat]
        exact dif_neg fun both => small both.1
      have notHuge : ¬ (0 : ℤ) > 2 ^ Format.binary64.exponentBits := by norm_num
      have notTiny : ¬ (0 : ℤ) < -(2 ^ Format.binary64.exponentBits + (n.log2 : ℤ)) := by
        norm_num
      rw [tooLong, UnpackedFloat.ofScientific, dif_neg positive, if_neg notHuge, if_neg notTiny,
        if_pos le_rfl]
      rfl
    have exactly : (((n <<< 53) * 10 ^ 0 : ℕ) : ℚ) * 2 ^ (-53 + 0 : ℤ) = n := by
      rw [Nat.shiftLeft_eq]
      push_cast
      norm_num
      ring
    have precise : IsPrecise ((n <<< 53) * 10 ^ 0) (-53 + 0) := by
      left
      rw [Nat.shiftLeft_eq]
      omega
    generalize (n <<< 53) * 10 ^ 0 = longer at unfolded exactly precise
    refine ⟨_, unfolded, ?_, isNonnegative_round .exact precise, fun some => ?_,
      fun short => absurd short small⟩
    · exact isWithin_round_of_le .positive precise (by omega) high (exactly.trans_le le)
    · refine le_extent_round .positive .exact precise (by norm_num) ?_
      rw [exactly, zpow_zero]
      exact mod_cast some

theorem atMost_ofNat {n : ℕ} (le : (n : ℚ) ≤ 2 ^ k) (low : 0 ≤ k) (high : k ≤ 1023) :
    AtMost k (Float.ofNat n) := by
  obtain ⟨u, same, within, -⟩ := exists_ofNat le low high
  rw [same]
  exact atMost_pack within

theorem notNegative_ofNat {n : ℕ} (le : (n : ℚ) ≤ 2 ^ k) (low : 0 ≤ k) (high : k ≤ 1023) :
    NotNegative (Float.ofNat n) := by
  obtain ⟨u, same, within, nonnegative, -⟩ := exists_ofNat le low high
  rw [same]
  exact notNegative_pack within.1 nonnegative

theorem atLeast_ofNat {n : ℕ} (positive : 0 < n) (le : (n : ℚ) ≤ 2 ^ k) (low : 0 ≤ k)
    (high : k ≤ 1023) : AtLeast 0 (Float.ofNat n) := by
  obtain ⟨u, same, within, -, above, -⟩ := exists_ofNat le low high
  have unpacked : (Float.Model.pack u).unpack = u := unpack_pack within.1
  rw [same, AtLeast, distance, unpacked]
  exact ⟨within.1, above positive⟩

theorem unpack_neg (finite : x.isFinite = true) :
    (-x).toModel.unpack = UnpackedFloat.neg x.toModel.unpack :=
  unpack_pack (isCanonical_iff.2 finite).neg

theorem AtMost.signed (most : AtMost k x) (negative : Bool) : AtMost k (signed negative x) := by
  cases negative with
  | false => exact most
  | true =>
      rw [Number.signed, if_pos rfl, AtMost, unpack_neg most.isFinite]
      exact IsWithin.neg most

/-- The finite numbers, and only these, have parts. -/
theorem isSome_parts? (x : Float) : (parts? x).isSome = x.isFinite := by
  rw [parts?, Float.isFinite, Float.Model.isFinite]
  cases x.toModel.unpack <;> rfl

/-- The integer part of a number is at most as far from zero. -/
theorem whole_le_distance {p : Parts} (parts : parts? x = some p) :
    (p.whole : ℚ) ≤ distance x := by
  rw [parts?] at parts
  rw [distance]
  split at parts
  next => cases parts
  next => cases parts
  next sign zero =>
    cases parts
    rw [zero]
    simp [Parts.whole, extent]
  next sign mantissa exponent positive finite =>
    cases parts
    rw [finite]
    simp only [Parts.whole, extent]
    split
    next above =>
      obtain ⟨places, rfl⟩ := Int.eq_ofNat_of_zero_le above
      rw [Int.toNat_natCast, zpow_natCast]
      push_cast
      exact le_rfl
    next below =>
      obtain ⟨places, isPlaces⟩ : ∃ places : ℕ, (-exponent).toNat = places := ⟨_, rfl⟩
      have cut : ((mantissa / 2 ^ places : ℕ) : ℚ) * 2 ^ places ≤ mantissa :=
        mod_cast Nat.div_mul_le_self mantissa (2 ^ places)
      rw [isPlaces, show exponent = -(places : ℤ) by omega, zpow_neg, zpow_natCast,
        ← div_eq_mul_inv, le_div_iff₀ (by positivity)]
      exact cut

theorem AtMost.round (most : AtMost k x) (low : 0 ≤ k) (high : k < 1023) :
    AtMost (k + 1) (round x) := by
  rw [Number.round, toWhole]
  split
  next => exact most.mono (by omega)
  next p parts =>
    split
    next => exact most.mono (by omega)
    next =>
      apply AtMost.signed
      apply atMost_ofNat _ (by omega) (by omega)
      have whole : (p.whole : ℚ) ≤ 2 ^ k := (whole_le_distance parts).trans most.2
      have one : (1 : ℚ) ≤ 2 ^ k := one_le_zpow₀ one_le_two low
      rw [zpow_add_one₀ two_ne_zero]
      split
      next =>
        push_cast
        linarith
      next => linarith

end Numbers

end ColumnChain.Number
