import ColumnChain.Catalog
import ColumnChain.Proofs.Magnitude
import ColumnChain.Proofs.Ordinals

/-!
# Answers that are finite numbers

Finite cells and arguments have finite answers. The arithmetic functions see to that
themselves, and counts, dates and percentages are never large. The functions that rescale a
column compute with sums and distances that they do not look at; their answers are finite
where the numbers of the column and of the arguments are neither too large nor too small.
-/

namespace ColumnChain

namespace Number

/-- A number is finite, and zero or not too far from one in either direction. -/
structure IsModerate (x : Float) : Prop where
  finite : x.isFinite = true
  most : distance x ≤ 2 ^ (300 : ℤ)
  apart : distance x = 0 ∨ 2 ^ (-300 : ℤ) ≤ distance x

theorem IsModerate.atMost {x : Float} (moderate : IsModerate x) : AtMost 300 x :=
  ⟨isCanonical_iff.2 moderate.finite, moderate.most⟩

theorem isModerate_zero : IsModerate 0.0 :=
  ⟨rfl, by positivity, Or.inl rfl⟩

theorem isModerate_ofNat {n : ℕ} (positive : 0 < n) (small : n ≤ 2 ^ 64) :
    IsModerate (Float.ofNat n) := by
  have bound : (n : ℚ) ≤ 2 ^ (64 : ℤ) := mod_cast small
  have most : AtMost 64 (Float.ofNat n) := atMost_ofNat bound (by norm_num) (by norm_num)
  have least := atLeast_ofNat positive bound (by norm_num) (by norm_num)
  refine ⟨most.isFinite, most.2.trans ?_, Or.inr (le_trans ?_ least.2)⟩
  · exact zpow_le_zpow_right₀ one_le_two (by norm_num)
  · exact zpow_le_zpow_right₀ one_le_two (by norm_num)

/-- The sum of a list of numbers is rounded so that it never gets much larger than they are,
however many there are. -/
theorem atMost_sum {k : ℤ} {xs : List Float} {start : Float} (low : -1022 ≤ k) (high : k ≤ 1023)
    (first : AtMost k start) (each : ∀ x ∈ xs, AtMost (k - 54) x) :
    AtMost k (xs.foldl (· + ·) start) := by
  induction xs generalizing start with
  | nil => exact first
  | cons x xs ih =>
      rw [List.forall_mem_cons] at each
      exact ih (first.add_absorbed each.1 low high) each.2

theorem notNegative_sum {k : ℤ} {xs : List Float} {start : Float} (low : -1022 ≤ k)
    (high : k ≤ 1023) (first : AtMost k start) (firstNonnegative : NotNegative start)
    (each : ∀ x ∈ xs, AtMost (k - 54) x) (nonnegative : ∀ x ∈ xs, NotNegative x) :
    NotNegative (xs.foldl (· + ·) start) := by
  induction xs generalizing start with
  | nil => exact firstNonnegative
  | cons x xs ih =>
      rw [List.forall_mem_cons] at each nonnegative
      exact ih (first.add_absorbed each.1 low high)
        (firstNonnegative.add_absorbed nonnegative.1 first each.1 low high) each.2 nonnegative.2

end Number

namespace Cell

open Number

/-- A cell is no number, or a finite one. -/
def IsFinite : Cell → Prop
  | .number value => value.isFinite = true
  | .null | .bool _ | .text _ => True

instance : DecidablePred IsFinite := fun cell =>
  match cell with
  | .number value => inferInstanceAs (Decidable (value.isFinite = true))
  | .null | .bool _ | .text _ => inferInstanceAs (Decidable True)

/-- A cell is no number, or a finite one, and what number it denotes is moderate. -/
structure IsModerate (cell : Cell) : Prop where
  finite : cell.IsFinite
  number : ∀ x ∈ cell.asNumber?, Number.IsModerate x

theorem isModerate_null : null.IsModerate :=
  ⟨trivial, by rintro x ⟨⟩⟩

/-- A finite cell that denotes a positive integer of moderate size is moderate. -/
theorem isModerate_of_asNumber? {cell : Cell} {n : ℕ} (finite : cell.IsFinite)
    (denotes : cell.asNumber? = some (Float.ofNat n)) (positive : 0 < n)
    (small : n ≤ 2 ^ 64) : cell.IsModerate := by
  refine ⟨finite, fun x denoted => ?_⟩
  rw [denotes] at denoted
  cases denoted
  exact Number.isModerate_ofNat positive small

theorem isFinite_ofNumber {x : Float} (finite : x.isFinite = true) : (ofNumber x).IsFinite := by
  rw [ofNumber, IsFinite]
  split
  · rfl
  · exact finite

theorem isFinite_ofCount {n : ℕ} (small : n ≤ 2 ^ 64) : (ofCount n).IsFinite := by
  have most : AtMost 64 (Float.ofNat n) :=
    atMost_ofNat (mod_cast small) (by norm_num) (by norm_num)
  exact isFinite_ofNumber most.isFinite

end Cell

/-! ## Answers -/

/-- If there is an answer, it is finite. -/
def AnswersFinite (answer : Option Cell) : Prop :=
  ∀ cell ∈ answer, cell.IsFinite

namespace AnswersFinite

theorem none : AnswersFinite none := by
  rintro cell ⟨⟩

theorem some {cell : Cell} (finite : cell.IsFinite) : AnswersFinite (some cell) := by
  rintro other ⟨⟩
  exact finite

theorem bind {α : Type} {value : Option α} {f : α → Option Cell}
    (each : ∀ a ∈ value, AnswersFinite (f a)) : AnswersFinite (value.bind f) := by
  intro cell member
  obtain ⟨a, found, answer⟩ := Option.bind_eq_some_iff.1 member
  exact each a found cell answer

theorem map {α : Type} {value : Option α} {f : α → Cell}
    (each : ∀ a ∈ value, (f a).IsFinite) : AnswersFinite (value.map f) := by
  intro cell member
  obtain ⟨a, found, rfl⟩ := Option.map_eq_some_iff.1 member
  exact each a found

theorem mapText (f : List Char → List Char) (cell : Cell) :
    AnswersFinite (Function.mapText f cell) :=
  map fun _ _ => trivial

theorem ofFinite? (x : Float) : AnswersFinite (Function.ofFinite? x) := by
  rw [Function.ofFinite?]
  split
  next finite => exact some (Cell.isFinite_ofNumber finite)
  next => exact none

theorem mapNumber (f : Float → Float) (context : Function.Context) (cell : Cell)
    (args : List Cell) : AnswersFinite (Function.mapNumber f context cell args) :=
  bind fun _ _ => ofFinite? _

theorem combineNumbers (f : Float → Float → Float) (context : Function.Context) (cell : Cell)
    (args : List Cell) : AnswersFinite (Function.combineNumbers f context cell args) :=
  bind fun _ _ => bind fun _ _ => ofFinite? _

/-- A cell that stays where there is no answer has to be finite, too. -/
theorem getD {answer : Option Cell} {cell : Cell} (answers : AnswersFinite answer)
    (finite : cell.IsFinite) : (answer.getD cell).IsFinite := by
  cases answer with
  | none => exact finite
  | some result => exact answers result rfl

end AnswersFinite

/-- The answers of a function are finite where the cell or the column and the arguments have
a property, and a machine could hold the text of the cell and count the column. -/
def Evaluator.KeepsFinite (P : Cell → Prop) : Evaluator → Prop
  | .scalar run => ∀ (context : Function.Context) (cell : Cell) (args : List Cell), P cell →
      (∀ arg ∈ args, P arg) → cell.toText.length < 2 ^ 64 →
        AnswersFinite (run context cell args)
  | .aggregate prepare => ∀ cells args : List Cell, (∀ cell ∈ cells, P cell) →
      (∀ arg ∈ args, P arg) → cells.length < 2 ^ 64 → ∀ change ∈ prepare cells args,
        ∀ cell ∈ cells, AnswersFinite (change cell)

theorem Evaluator.KeepsFinite.mono {evaluator : Evaluator} {P Q : Cell → Prop}
    (keeps : evaluator.KeepsFinite P) (imp : ∀ cell, Q cell → P cell) :
    evaluator.KeepsFinite Q := by
  cases evaluator with
  | scalar run =>
      intro context cell args holds holdsArgs
      exact keeps context cell args (imp cell holds) fun arg inside =>
        imp arg (holdsArgs arg inside)
  | aggregate prepare =>
      intro cells args holds holdsArgs
      exact keeps cells args (fun cell inside => imp cell (holds cell inside))
        fun arg inside => imp arg (holdsArgs arg inside)

/-- The answers of a function are finite whatever it is given. -/
def Function.Scalar.AlwaysFinite (run : Function.Scalar) : Prop :=
  ∀ (context : Function.Context) (cell : Cell) (args : List Cell),
    AnswersFinite (run context cell args)

theorem Function.Scalar.AlwaysFinite.keepsFinite {run : Function.Scalar}
    (finite : run.AlwaysFinite) (P : Cell → Prop) : (Evaluator.scalar run).KeepsFinite P :=
  fun context cell args _ _ _ => finite context cell args

namespace Function

theorem alwaysFinite_mapText (f : List Char → List Char) :
    Scalar.AlwaysFinite fun _ cell _ => mapText f cell :=
  fun _ cell _ => .mapText f cell

theorem alwaysFinite_left : Scalar.AlwaysFinite left :=
  fun _ _ _ => .bind fun _ _ => .mapText _ _

theorem alwaysFinite_right : Scalar.AlwaysFinite right :=
  fun _ _ _ => .bind fun _ _ => .mapText _ _

theorem alwaysFinite_substring : Scalar.AlwaysFinite substring := by
  intro context cell args
  refine .bind fun start _ => ?_
  split
  next => exact .mapText _ _
  next => exact .bind fun _ _ => .mapText _ _

theorem alwaysFinite_replace : Scalar.AlwaysFinite replace := by
  intro context cell args
  refine .bind fun search _ => ?_
  split
  next => exact .none
  next =>
    split
    next => exact .mapText _ _
    next => exact .bind fun _ _ => .mapText _ _

theorem alwaysFinite_split : Scalar.AlwaysFinite Function.split := by
  intro context cell args
  refine .bind fun delimiter _ => .bind fun place _ => ?_
  split
  next => exact .none
  next => exact .mapText _ _

theorem alwaysFinite_padLeft : Scalar.AlwaysFinite padLeft :=
  fun _ _ _ => .bind fun _ _ => .mapText _ _

theorem alwaysFinite_padRight : Scalar.AlwaysFinite padRight :=
  fun _ _ _ => .bind fun _ _ => .mapText _ _

theorem alwaysFinite_round : Scalar.AlwaysFinite round := by
  intro context cell args
  refine .bind fun places _ => ?_
  split
  next => exact .mapNumber _ _ _ _
  next => exact .none

/-! ## Dates -/

theorem isFinite_ofInteger {n : ℤ} (small : n.natAbs ≤ 2 ^ 64) : (ofInteger n).IsFinite := by
  have most : Number.AtMost 64 (Float.ofInt n) := by
    cases n with
    | ofNat n => exact Number.atMost_ofNat (mod_cast small) (by norm_num) (by norm_num)
    | negSucc n =>
        have positive : Number.AtMost 64 (Float.ofNat (n + 1)) :=
          Number.atMost_ofNat (mod_cast small) (by norm_num) (by norm_num)
        exact positive.signed true
  exact Cell.isFinite_ofNumber most.isFinite

theorem alwaysFinite_formatDate : Scalar.AlwaysFinite formatDate :=
  fun _ _ _ => .bind fun _ _ => .bind fun _ _ => .map fun _ _ => trivial

theorem alwaysFinite_dateAdd : Scalar.AlwaysFinite dateAdd :=
  fun _ _ _ => .bind fun _ _ => .bind fun _ _ => .bind fun _ _ => .map fun _ _ => trivial

theorem alwaysFinite_extractYear : Scalar.AlwaysFinite extractYear := by
  intro context cell args
  refine .map fun d _ => isFinite_ofInteger ?_
  obtain ⟨after, upTo, -, -⟩ := d.isDate
  simp only [firstYear, lastYear] at after upTo
  omega

theorem alwaysFinite_extractMonth : Scalar.AlwaysFinite extractMonth := by
  intro context cell args
  refine .map fun d _ => Cell.isFinite_ofCount ?_
  have bounds := d.month_and_day_le
  omega

theorem alwaysFinite_extractDay : Scalar.AlwaysFinite extractDay := by
  intro context cell args
  refine .map fun d _ => Cell.isFinite_ofCount ?_
  have bounds := d.month_and_day_le
  omega

theorem alwaysFinite_daysBetween : Scalar.AlwaysFinite daysBetween := by
  intro context cell args
  refine .bind fun start _ => .map fun finish _ => isFinite_ofInteger ?_
  have first := start.natAbs_ordinal_le
  have last := finish.natAbs_ordinal_le
  simp only [Date.daysUntil]
  omega

theorem alwaysFinite_ageInYears : Scalar.AlwaysFinite ageInYears := by
  intro context cell args
  refine .map fun born _ => isFinite_ofInteger ?_
  obtain ⟨after, upTo, -, -⟩ := born.isDate
  obtain ⟨todayAfter, todayUpTo, -, -⟩ := context.today.isDate
  simp only [firstYear, lastYear] at after upTo todayAfter todayUpTo
  simp only [Date.age]
  split <;> omega

/-! ## Statistics -/

open Number

theorem length_numbers_le (cells : List Cell) : (numbers cells).length ≤ cells.length :=
  List.length_filterMap_le ..

theorem size_sortedNumbers (cells : List Cell) :
    (sortedNumbers cells).size = (numbers cells).length := by
  simp [sortedNumbers]

theorem searchPlace_le (holds : Float → Bool) (sorted : Array Float) {low high : ℕ}
    (order : low ≤ high) : searchPlace holds sorted low high ≤ high := by
  induction low, high using searchPlace.induct holds sorted with
  | case1 low high below middle found ih =>
      rw [searchPlace, dif_pos below]
      simp only [middle] at found ih ⊢
      rw [if_pos found]
      exact ih (by omega)
  | case2 low high below middle missing ih =>
      rw [searchPlace, dif_pos below]
      simp only [middle] at missing ih ⊢
      rw [if_neg missing]
      exact (ih (by omega)).trans (by omega)
  | case3 low high done =>
      rw [searchPlace, dif_neg done]
      exact order

theorem countUpTo_le (sorted : Array Float) (x : Float) : countUpTo sorted x ≤ sorted.size :=
  searchPlace_le _ sorted (Nat.zero_le _)

theorem rankOf_le (descending : Bool) (sorted : Array Float) (x : Float) :
    rankOf descending sorted x ≤ sorted.size + 1 := by
  have below : countBelow sorted x ≤ sorted.size := searchPlace_le _ sorted (Nat.zero_le _)
  rw [rankOf]
  split <;> omega

/-- A percentage is not large. -/
theorem isFinite_percent {count total : ℕ} (small : count ≤ 2 ^ 64) (positive : 0 < total)
    (totalSmall : total ≤ 2 ^ 64) : (percent count total).isFinite = true := by
  have counted : AtMost 64 (Float.ofNat count) :=
    atMost_ofNat (mod_cast small) (by norm_num) (by norm_num)
  have divisor : AtLeast 0 (Float.ofNat total) :=
    atLeast_ofNat positive (show (total : ℚ) ≤ 2 ^ (64 : ℤ) from mod_cast totalSmall)
      (by norm_num) (by norm_num)
  have isHundred : (100.0 : Float).toModel.unpack =
      .finite .positive (100 * 2 ^ 46) (-46) (by decide) := rfl
  have most : AtMost 7 100.0 := by
    refine ⟨isCanonical_iff.2 rfl, ?_⟩
    rw [isHundred]
    norm_num [extent]
  have least : AtLeast 6 100.0 := by
    refine ⟨isCanonical_iff.2 rfl, ?_⟩
    rw [distance, isHundred]
    norm_num [extent]
  have share := (counted.div divisor (by norm_num) (by norm_num)).mul most (by norm_num)
    (by norm_num)
  have scaled := share.mul most (by norm_num) (by norm_num)
  have rounded := scaled.round (by norm_num) (by norm_num)
  exact (rounded.div least (by norm_num) (by norm_num)).isFinite

/-- Moderate numbers are rescaled to finite ones. -/
theorem isFinite_rescale {low high newLow newHigh x : Float} (isLow : IsModerate low)
    (isHigh : IsModerate high) (isNewLow : IsModerate newLow) (isNewHigh : IsModerate newHigh)
    (isNumber : IsModerate x) : (rescale low high newLow newHigh x).IsFinite := by
  simp only [rescale]
  split
  next => exact Cell.isFinite_ofNumber isNewLow.finite
  next differ =>
    rw [Bool.not_eq_true] at differ
    -- Moderate numbers are multiples of a power of two, so their span, which is not zero, is
    -- not below it, and the quotient is not beyond the largest numbers.
    have span : AtLeast (-353) (high - low) :=
      AtLeast.sub isHigh.atMost isLow.atMost isHigh.apart isLow.apart differ (by norm_num)
        (by norm_num) (by norm_num)
    have offset := isNumber.atMost.sub isLow.atMost (by norm_num) (by norm_num)
    have width := isNewHigh.atMost.sub isNewLow.atMost (by norm_num) (by norm_num)
    have ratio := offset.div span (by norm_num) (by norm_num)
    have scaled := ratio.mul width (by norm_num) (by norm_num)
    have start := isNewLow.atMost.mono (show (300 : ℤ) ≤ 300 + 1 - -353 + (300 + 1) by norm_num)
    exact Cell.isFinite_ofNumber (start.add scaled (by norm_num) (by norm_num)).isFinite

theorem atMost_mean {k : ℤ} {xs : List Float} (low : -1022 ≤ k) (high : k ≤ 1023)
    (each : ∀ x ∈ xs, AtMost (k - 54) x) (filled : xs ≠ []) (short : xs.length ≤ 2 ^ 64) :
    AtMost k (mean xs) := by
  have start : AtMost k 0.0 := isWithin_zero k _
  have sum := atMost_sum low high start each
  have count : AtLeast 0 (Float.ofNat xs.length) :=
    atLeast_ofNat (List.length_pos_of_ne_nil filled)
      (show (xs.length : ℚ) ≤ 2 ^ (64 : ℤ) from mod_cast short) (by norm_num) (by norm_num)
  have divided := sum.div count (by omega) (by omega)
  rwa [sub_zero] at divided

theorem notNegative_mean {k : ℤ} {xs : List Float} (low : -1022 ≤ k) (high : k ≤ 1023)
    (each : ∀ x ∈ xs, AtMost (k - 54) x) (nonnegative : ∀ x ∈ xs, NotNegative x)
    (filled : xs ≠ []) (short : xs.length ≤ 2 ^ 64) : NotNegative (mean xs) := by
  have start : AtMost k 0.0 := isWithin_zero k _
  have small : (xs.length : ℚ) ≤ 2 ^ (64 : ℤ) := mod_cast short
  exact (notNegative_sum low high start trivial each nonnegative).div
    (notNegative_ofNat small (by norm_num) (by norm_num)) (atMost_sum low high start each)
    (atLeast_ofNat (List.length_pos_of_ne_nil filled) small (by norm_num) (by norm_num))
    (by omega) (by omega)

/-- The squared distances of some numbers from their mean. -/
def squaredOffsets (xs : List Float) : List Float :=
  xs.map fun x => (x - mean xs) * (x - mean xs)

section Standardized

variable {xs : List Float} {x : Float} (filled : xs ≠ []) (short : xs.length ≤ 2 ^ 64)
  (each : ∀ y ∈ xs, AtMost 300 y)

include filled short each

/-- A sum gets to at most two to the 54th times its summands. -/
theorem atMost_offset (most : AtMost 300 x) : AtMost 355 (x - mean xs) := by
  have center : AtMost 354 (mean xs) :=
    atMost_mean (by norm_num) (by norm_num) each filled short
  exact (most.mono (by norm_num)).sub center (by norm_num) (by norm_num)

theorem atMost_of_mem_squaredOffsets : ∀ y ∈ squaredOffsets xs, AtMost 710 y := by
  intro y member
  obtain ⟨z, inside, rfl⟩ := List.mem_map.1 member
  have offset := atMost_offset filled short each (each z inside)
  have square := offset.mul offset (by norm_num) (by norm_num)
  exact square.mono (by norm_num)

theorem notNegative_of_mem_squaredOffsets : ∀ y ∈ squaredOffsets xs, NotNegative y := by
  intro y member
  obtain ⟨z, inside, rfl⟩ := List.mem_map.1 member
  have offset := atMost_offset filled short each (each z inside)
  exact notNegative_mul_self offset (by norm_num) (by norm_num)

/-- The distance of a number from the mean in standard deviations is finite where all numbers
are moderate. -/
theorem isFinite_standardized (most : AtMost 300 x)
    (differ : ((mean (squaredOffsets xs)).sqrt == 0.0) = false) :
    ((x - mean xs) / (mean (squaredOffsets xs)).sqrt).isFinite = true := by
  have squares : ∀ y ∈ squaredOffsets xs, AtMost (2 * 382 - 54) y := fun y member =>
    atMost_of_mem_squaredOffsets filled short each y member
  have squaresFilled : squaredOffsets xs ≠ [] := by simpa [squaredOffsets] using filled
  have squaresShort : (squaredOffsets xs).length ≤ 2 ^ 64 := by
    rwa [squaredOffsets, List.length_map]
  have variance : AtMost (2 * 382) (mean (squaredOffsets xs)) :=
    atMost_mean (by norm_num) (by norm_num) squares squaresFilled squaresShort
  have nonnegative : NotNegative (mean (squaredOffsets xs)) :=
    notNegative_mean (by norm_num) (by norm_num) squares
      (notNegative_of_mem_squaredOffsets filled short each) squaresFilled squaresShort
  have deviation := AtLeast.sqrt_of_ne_zero nonnegative variance (by norm_num) (by norm_num)
    differ
  have offset := atMost_offset filled short each most
  exact (offset.div deviation (by norm_num) (by norm_num)).isFinite

end Standardized

/-! ## What statistics answer -/

/-- A choice among numbers is one of them. -/
theorem foldl_choice {P : Float → Prop} (choose : Float → Float → Bool) {start : Float}
    {xs : List Float} (first : P start) (each : ∀ x ∈ xs, P x) :
    P (xs.foldl (fun chosen x => if choose chosen x then x else chosen) start) := by
  induction xs generalizing start with
  | nil => exact first
  | cons x xs ih =>
      rw [List.forall_mem_cons] at each
      rw [List.foldl_cons]
      refine ih ?_ each.2
      split
      next => exact each.1
      next => exact first

theorem isModerate_of_bounds? {xs : List Float} {low high : Float}
    (each : ∀ x ∈ xs, IsModerate x) (found : bounds? xs = some (low, high)) :
    IsModerate low ∧ IsModerate high := by
  cases xs with
  | nil => cases found
  | cons x xs =>
      rw [List.forall_mem_cons] at each
      simp only [bounds?, Option.some.injEq, Prod.mk.injEq] at found
      obtain ⟨rfl, rfl⟩ := found
      have lowest := foldl_choice (fun low y => decide (y < low)) each.1 each.2
      have highest := foldl_choice (fun high y => decide (high < y)) each.1 each.2
      simp only [decide_eq_true_eq] at lowest highest
      exact ⟨lowest, highest⟩

theorem isModerate_of_mem_numbers {cells : List Cell}
    (moderate : ∀ cell ∈ cells, cell.IsModerate) :
    ∀ x ∈ numbers cells, IsModerate x := by
  intro x member
  obtain ⟨cell, inside, denotes⟩ := List.mem_filterMap.1 member
  exact (moderate cell inside).number x denotes

theorem isModerate_of_numberAt? {args : List Cell} (moderate : ∀ arg ∈ args, arg.IsModerate)
    {place : ℕ} {x : Float} (found : numberAt? args place = some x) : IsModerate x := by
  obtain ⟨arg, here, denotes⟩ := Option.bind_eq_some_iff.1 found
  exact (moderate arg (List.mem_of_getElem? here)).number x denotes

theorem isModerate_givenNumber? {args : List Cell} (moderate : ∀ arg ∈ args, arg.IsModerate)
    (place : ℕ) {default : Float} (isDefault : IsModerate default) :
    IsModerate ((givenNumber? args place).getD default) := by
  cases found : givenNumber? args place with
  | none => exact isDefault
  | some x =>
      obtain ⟨arg, filled, denotes⟩ := Option.bind_eq_some_iff.1 found
      obtain ⟨here, -⟩ := Option.filter_eq_some_iff.1 filled
      exact (moderate arg (List.mem_of_getElem? here)).number x denotes

theorem keepsFinite_normalize : (Evaluator.aggregate normalize).KeepsFinite Cell.IsModerate := by
  intro cells args moderate moderateArgs short change found cell inside
  obtain ⟨⟨low, high⟩, bounds, rfl⟩ := Option.map_eq_some_iff.1 found
  obtain ⟨isLow, isHigh⟩ := isModerate_of_bounds? (isModerate_of_mem_numbers moderate) bounds
  refine .map fun x denotes => ?_
  have one : IsModerate 1.0 := isModerate_ofNat Nat.one_pos (by norm_num)
  exact isFinite_rescale (isModerate_givenNumber? moderateArgs 0 isLow)
    (isModerate_givenNumber? moderateArgs 1 isHigh) isModerate_zero one
    ((moderate cell inside).number x denotes)

theorem keepsFinite_scale : (Evaluator.aggregate scale).KeepsFinite Cell.IsModerate := by
  intro cells args moderate moderateArgs short change found cell inside
  obtain ⟨⟨low, high⟩, bounds, found⟩ := Option.bind_eq_some_iff.1 found
  obtain ⟨newLow, isNewLow, found⟩ := Option.bind_eq_some_iff.1 found
  obtain ⟨newHigh, isNewHigh, rfl⟩ := Option.map_eq_some_iff.1 found
  obtain ⟨isLow, isHigh⟩ := isModerate_of_bounds? (isModerate_of_mem_numbers moderate) bounds
  refine .map fun x denotes => ?_
  exact isFinite_rescale isLow isHigh (isModerate_of_numberAt? moderateArgs isNewLow)
    (isModerate_of_numberAt? moderateArgs isNewHigh) ((moderate cell inside).number x denotes)

theorem keepsFinite_standardize :
    (Evaluator.aggregate standardize).KeepsFinite Cell.IsModerate := by
  intro cells args moderate moderateArgs short change found cell inside
  have each : ∀ y ∈ numbers cells, AtMost 300 y := fun y member =>
    (isModerate_of_mem_numbers moderate y member).atMost
  have few : (numbers cells).length ≤ 2 ^ 64 := (length_numbers_le cells).trans short.le
  simp only [standardize] at found
  split at found
  next => cases found
  next filled =>
    cases found
    rw [List.isEmpty_iff] at filled
    refine .map fun x denotes => ?_
    split
    next => exact Cell.isFinite_ofNumber rfl
    next differ =>
      rw [Bool.not_eq_true] at differ
      exact Cell.isFinite_ofNumber (isFinite_standardized filled few each
        ((moderate cell inside).number x denotes).atMost differ)

theorem keepsFinite_rank (P : Cell → Prop) : (Evaluator.aggregate rank).KeepsFinite P := by
  intro cells args _ _ short change found cell inside
  obtain ⟨descending, -, found⟩ := Option.bind_eq_some_iff.1 found
  dsimp only at found
  split at found
  next => cases found
  next =>
    cases found
    refine .map fun x denotes => Cell.isFinite_ofCount ?_
    have most := rankOf_le descending (sortedNumbers cells) x
    have few := length_numbers_le cells
    rw [size_sortedNumbers] at most
    omega

theorem keepsFinite_bucket (P : Cell → Prop) : (Evaluator.aggregate bucket).KeepsFinite P := by
  intro cells args _ _ short change found cell inside
  obtain ⟨size, -, found⟩ := Option.bind_eq_some_iff.1 found
  split at found
  next =>
    cases found
    exact .map fun x denotes => trivial
  next => cases found

theorem keepsFinite_percentile (P : Cell → Prop) :
    (Evaluator.aggregate percentile).KeepsFinite P := by
  intro cells args _ _ short change found cell inside
  simp only [percentile] at found
  split at found
  next => cases found
  next filled =>
    cases found
    refine .map fun x denotes => Cell.isFinite_ofNumber ?_
    have most := countUpTo_le (sortedNumbers cells) x
    have few := length_numbers_le cells
    have some : 0 < (sortedNumbers cells).size := by
      rw [Array.isEmpty_iff_size_eq_zero] at filled
      omega
    rw [size_sortedNumbers] at most some ⊢
    exact isFinite_percent (by omega) some (by omega)

/-! ## Choices -/

theorem keepsFinite_coalesce : (Evaluator.scalar coalesce).KeepsFinite Cell.IsFinite := by
  intro context cell args finite finiteArgs _ answer member
  rw [coalesce] at member
  split at member
  next =>
    rcases Option.or_eq_some_iff.1 member with found | ⟨-, last⟩
    · exact finiteArgs answer (List.mem_of_find?_eq_some found)
    · exact finiteArgs answer (List.mem_of_getLast? last)
  next =>
    cases member
    exact finite

theorem keepsFinite_ifEmpty : (Evaluator.scalar ifEmpty).KeepsFinite Cell.IsFinite := by
  intro context cell args finite finiteArgs _ answer member
  rw [ifEmpty] at member
  split at member
  next => exact finiteArgs answer (List.mem_of_getElem? member)
  next =>
    cases member
    exact finite

theorem keepsFinite_ifTruthy : (Evaluator.scalar ifTruthy).KeepsFinite Cell.IsFinite := by
  intro context cell args finite finiteArgs _ answer member
  rw [ifTruthy] at member
  split at member
  next => exact finiteArgs answer (List.mem_of_getElem? member)
  next => exact finiteArgs answer (List.mem_of_getElem? member)

end Function

/-! ## The catalogue -/

namespace Catalog

open ColumnChain.Function

/-- The functions that rescale a column by numbers they compute from all of it. -/
def rescaling : List String :=
  ["NORMALIZE", "STANDARDIZE", "SCALE"]

theorem keepsFinite_textEntries :
    ∀ entry ∈ textEntries, entry.evaluator.KeepsFinite Cell.IsFinite := by
  simp only [textEntries, List.forall_mem_cons, List.not_mem_nil, false_imp_iff, implies_true,
    and_true, scalar, variadically]
  have plain (f : List Char → List Char) :
      (Evaluator.scalar fun _ cell _ => mapText f cell).KeepsFinite Cell.IsFinite :=
    (alwaysFinite_mapText f).keepsFinite Cell.IsFinite
  exact ⟨plain _, plain _, plain _, plain _, plain _, plain _,
    fun _ _ _ _ _ short => .some (Cell.isFinite_ofCount short.le), plain _, plain _,
    alwaysFinite_left.keepsFinite _, alwaysFinite_right.keepsFinite _,
    alwaysFinite_substring.keepsFinite _, alwaysFinite_replace.keepsFinite _,
    alwaysFinite_split.keepsFinite _, alwaysFinite_padLeft.keepsFinite _,
    alwaysFinite_padRight.keepsFinite _, fun _ _ _ _ _ _ => .some trivial⟩

theorem keepsFinite_arithmeticEntries :
    ∀ entry ∈ arithmeticEntries, entry.evaluator.KeepsFinite Cell.IsFinite := by
  simp only [arithmeticEntries, List.forall_mem_cons, List.not_mem_nil, false_imp_iff,
    implies_true, and_true, scalar]
  have single (f : Float → Float) :
      (Evaluator.scalar (mapNumber f)).KeepsFinite Cell.IsFinite :=
    fun context cell args _ _ _ => .mapNumber f context cell args
  have double (f : Float → Float → Float) :
      (Evaluator.scalar (combineNumbers f)).KeepsFinite Cell.IsFinite :=
    fun context cell args _ _ _ => .combineNumbers f context cell args
  exact ⟨double _, double _, double _, double _, alwaysFinite_round.keepsFinite _, single _,
    single _, single _, double _, single _, double _, double _, double _⟩

theorem keepsFinite_dateEntries :
    ∀ entry ∈ dateEntries, entry.evaluator.KeepsFinite Cell.IsFinite := by
  simp only [dateEntries, List.forall_mem_cons, List.not_mem_nil, false_imp_iff, implies_true,
    and_true, scalar]
  exact ⟨alwaysFinite_formatDate.keepsFinite _, alwaysFinite_extractYear.keepsFinite _,
    alwaysFinite_extractMonth.keepsFinite _, alwaysFinite_extractDay.keepsFinite _,
    alwaysFinite_dateAdd.keepsFinite _, fun _ _ _ _ _ _ => .map fun _ _ => trivial,
    alwaysFinite_daysBetween.keepsFinite _, alwaysFinite_ageInYears.keepsFinite _⟩

theorem keepsFinite_choiceEntries :
    ∀ entry ∈ choiceEntries, entry.evaluator.KeepsFinite Cell.IsFinite := by
  simp only [choiceEntries, List.forall_mem_cons, List.not_mem_nil, false_imp_iff, implies_true,
    and_true, scalar, variadically, randomly]
  exact ⟨keepsFinite_coalesce, keepsFinite_ifEmpty, keepsFinite_ifTruthy,
    fun _ _ _ _ _ _ => .some trivial, fun _ _ _ finite _ _ => .some finite⟩

/-- Every function but those that rescale has finite answers to finite cells. -/
theorem keepsFinite_of_mem {entry : Entry} (member : entry ∈ entries)
    (other : entry.name ∉ rescaling) : entry.evaluator.KeepsFinite Cell.IsFinite := by
  simp only [entries, List.mem_append] at member
  rcases member with (((text | arithmetic) | date) | choice) | column
  · exact keepsFinite_textEntries entry text
  · exact keepsFinite_arithmeticEntries entry arithmetic
  · exact keepsFinite_dateEntries entry date
  · exact keepsFinite_choiceEntries entry choice
  · simp only [columnEntries, List.mem_cons, List.not_mem_nil, or_false] at column
    rcases column with rfl | rfl | rfl | rfl | rfl | rfl
    · exact absurd (by decide) other
    · exact absurd (by decide) other
    · exact keepsFinite_rank _
    · exact keepsFinite_bucket _
    · exact keepsFinite_percentile _
    · exact absurd (by decide) other

/-- The functions that rescale have finite answers to moderate cells. -/
theorem keepsFinite_of_rescaling {entry : Entry} (member : entry ∈ entries)
    (rescales : entry.name ∈ rescaling) : entry.evaluator.KeepsFinite Cell.IsModerate := by
  have known : ∀ entry ∈ textEntries ++ arithmeticEntries ++ dateEntries ++ choiceEntries,
      entry.name ∉ rescaling := by
    decide
  rcases List.mem_append.1 member with other | column
  · exact absurd rescales (known entry other)
  · simp only [columnEntries, List.mem_cons, List.not_mem_nil, or_false] at column
    rcases column with rfl | rfl | rfl | rfl | rfl | rfl
    · exact keepsFinite_normalize
    · exact keepsFinite_standardize
    · exact keepsFinite_rank _
    · exact keepsFinite_bucket _
    · exact keepsFinite_percentile _
    · exact keepsFinite_scale

theorem isAggregate_of_rescaling : ∀ entry ∈ entries, entry.name ∈ rescaling →
    entry.isAggregate = true := by
  decide

/-- The defaults of the functions that rescale are zero and a hundred. -/
theorem default_of_rescaling : ∀ entry ∈ entries, entry.name ∈ rescaling →
    ∀ parameter ∈ entry.parameters, ∀ value ∈ parameter.default,
      value = "0" ∨ value = "100" := by
  decide

end Catalog

namespace Entry

/-- A function can be given a cell without its answer ceasing to be finite. -/
structure Accepts (entry : Entry) (cell : Cell) : Prop where
  finite : cell.IsFinite
  moderate : entry.name ∈ Catalog.rescaling → cell.IsModerate

theorem accepts_of_mem_leadingDefaults {entry : Entry} (member : entry ∈ Catalog.entries)
    {parameters : List Parameter} (within : parameters ⊆ entry.parameters) :
    ∀ cell ∈ leadingDefaults parameters, entry.Accepts cell := by
  induction parameters with
  | nil => rintro cell ⟨⟩
  | cons parameter rest ih =>
      intro cell inside
      rw [List.cons_subset] at within
      rw [leadingDefaults] at inside
      split at inside
      next value given =>
        rcases List.mem_cons.1 inside with rfl | later
        · refine ⟨trivial, fun rescales => ?_⟩
          have isDefault := Catalog.default_of_rescaling entry member rescales parameter
            within.1 value given
          rcases isDefault with rfl | rfl
          · refine ⟨trivial, ?_⟩
            rintro x ⟨⟩
            exact Number.isModerate_zero
          · have hundred : (Cell.text "100").asNumber? = some (Float.ofNat 100) := rfl
            exact Cell.isModerate_of_asNumber? trivial hundred (by norm_num) (by norm_num)
        · exact ih within.2 cell later
      next => cases inside

theorem accepts_of_mem_withDefaults {entry : Entry} (member : entry ∈ Catalog.entries)
    {args : List Cell} (accepts : ∀ arg ∈ args, entry.Accepts arg) :
    ∀ arg ∈ entry.withDefaults args, entry.Accepts arg := by
  intro arg inside
  rcases List.mem_append.1 inside with given | filled
  · exact accepts arg given
  · exact accepts_of_mem_leadingDefaults member (List.drop_subset _ _) arg filled

/-- Every function has finite answers to the cells that it accepts. -/
theorem keepsFinite {entry : Entry} (member : entry ∈ Catalog.entries) :
    entry.evaluator.KeepsFinite entry.Accepts := by
  by_cases rescales : entry.name ∈ Catalog.rescaling
  · exact (Catalog.keepsFinite_of_rescaling member rescales).mono fun cell accepts =>
      accepts.moderate rescales
  · exact (Catalog.keepsFinite_of_mem member rescales).mono fun cell accepts =>
      accepts.finite

end Entry
end ColumnChain
