import ColumnChain.Proofs.Comparison
import ColumnChain.Proofs.Dispatch
import ColumnChain.Proofs.Finiteness

/-!
# Ranks and percentiles as counts

`RANK` and `PERCENTILE` search the sorted numbers of a column. What they find is a count: how
many cells of the column denote a smaller number, a larger one, or one that is not larger. So
cells that denote one number share a rank, and the order of the cells does not matter.
-/

namespace ColumnChain

namespace Cell

/-- The rational number that a cell denotes. -/
def value? (cell : Cell) : Option ℚ :=
  cell.asNumber?.map Number.value

theorem isFinite_of_finite? {x y : Float} (found : finite? x = some y) : y.isFinite = true := by
  rw [finite?] at found
  split at found
  next finite =>
    cases found
    exact finite
  next => cases found

/-- Cells denote finite numbers only. -/
theorem isFinite_of_asNumber? {cell : Cell} {x : Float} (number : cell.asNumber? = some x) :
    x.isFinite = true := by
  cases cell with
  | null => cases number
  | bool value =>
      cases number
      cases value <;> rfl
  | number value => exact isFinite_of_finite? number
  | text value =>
      rw [asNumber?, textNumber?] at number
      obtain ⟨read, -, finite⟩ := Option.bind_eq_some_iff.1 number
      exact isFinite_of_finite? finite

end Cell

/-! ## Searching -/

namespace Function

/-- A property of numbers that holds up to some place, and from there on no more. -/
def IsPartitioned (holds : Float → Bool) (sorted : Array Float) : Prop :=
  sorted.toList.Pairwise fun x y => holds y = true → holds x = true

section Search

variable {holds : Float → Bool} {sorted : Array Float}

theorem IsPartitioned.any_of_le (partitioned : IsPartitioned holds sorted) {i j : ℕ}
    (le : i ≤ j) (found : (sorted[j]?).any holds = true) : (sorted[i]?).any holds = true := by
  rcases le.lt_or_eq with less | rfl
  · rw [← Array.getElem?_toList, Option.any_eq_true] at found ⊢
    obtain ⟨y, there, holdsThere⟩ := found
    obtain ⟨inside, rfl⟩ := List.getElem?_eq_some_iff.1 there
    have before : i < sorted.toList.length := less.trans inside
    exact ⟨_, List.getElem?_eq_getElem before,
      List.pairwise_iff_getElem.1 partitioned i j before inside less holdsThere⟩
  · exact found

/-- The search keeps the place between the two ends of its interval. -/
theorem lt_searchPlace_iff (partitioned : IsPartitioned holds sorted) {low high : ℕ}
    (order : low ≤ high)
    (below : ∀ i < low, (sorted[i]?).any holds = true)
    (above : ∀ i, high ≤ i → (sorted[i]?).any holds = false) (i : ℕ) :
    i < searchPlace holds sorted low high ↔ (sorted[i]?).any holds = true := by
  -- The ends of the interval keep what `below` and `above` say of them.
  induction low, high using searchPlace.induct holds sorted with
  | case1 low high less middle found ih =>
      rw [searchPlace, dif_pos less]
      simp only [middle] at found ih ⊢
      rw [if_pos found]
      exact ih (by omega) (fun i less => partitioned.any_of_le (by omega) found) above
  | case2 low high less middle missing ih =>
      rw [searchPlace, dif_pos less]
      simp only [middle] at missing ih ⊢
      rw [if_neg missing]
      refine ih (by omega) below fun i beyond => ?_
      by_contra holds
      exact missing (partitioned.any_of_le beyond (by simpa using holds))
  | case3 low high done =>
      rw [searchPlace, dif_neg done]
      constructor
      · exact below i
      · intro holds
        by_contra notBelow
        have fails := above i (by omega)
        rw [holds] at fails
        cases fails

/-- What holds of the members of a list up to some place only, holds of so many of them. -/
theorem countP_eq_of_lt_iff {α : Type} {p : α → Bool} {xs : List α} {n : ℕ}
    (split : ∀ i : ℕ, i < n ↔ (xs[i]?).any p = true) : xs.countP p = n := by
  induction xs generalizing n with
  | nil =>
      have none := split 0
      simp at none
      exact none.symm
  | cons x xs ih =>
      have first := split 0
      have others : ∀ i : ℕ, i < n - 1 ↔ (xs[i]?).any p = true := by
        intro i
        have next := split (i + 1)
        rw [List.getElem?_cons_succ] at next
        rw [← next]
        omega
      rw [List.countP_cons, ih others]
      rw [List.getElem?_cons_zero, Option.any_some] at first
      split
      next holds =>
        have some := first.2 holds
        omega
      next fails =>
        have none : ¬ 0 < n := fun some => fails (first.1 some)
        omega

theorem placeAfter_eq (partitioned : IsPartitioned holds sorted) :
    placeAfter holds sorted = sorted.toList.countP holds := by
  refine (countP_eq_of_lt_iff fun i => ?_).symm
  rw [Array.getElem?_toList]
  refine lt_searchPlace_iff partitioned (Nat.zero_le _) (by omega) (fun i beyond => ?_) i
  rw [Array.getElem?_eq_none beyond, Option.any_none]

end Search

theorem mem_sortedNumbers {cells : List Cell} {x : Float} :
    x ∈ (sortedNumbers cells).toList ↔ x ∈ numbers cells :=
  List.mem_mergeSort

theorem isFinite_of_mem_numbers {cells : List Cell} {x : Float} (member : x ∈ numbers cells) :
    x.isFinite = true := by
  obtain ⟨cell, -, number⟩ := List.mem_filterMap.1 member
  exact Cell.isFinite_of_asNumber? number

/-- In the sorted numbers of a column the numbers come in the order of their values. -/
theorem pairwise_sortedNumbers (cells : List Cell) :
    (sortedNumbers cells).toList.Pairwise fun x y => Number.value x ≤ Number.value y := by
  have sorted : (sortedNumbers cells).toList.Pairwise fun x y => Number.precedes x y = true :=
    List.pairwise_mergeSort Number.precedes_trans Number.precedes_total (numbers cells)
  refine sorted.imp_of_mem ?_
  intro x y left right order
  rw [mem_sortedNumbers] at left right
  exact Number.value_le_of_precedes (isFinite_of_mem_numbers left)
    (isFinite_of_mem_numbers right) order

/-! ## Counting -/

/-- How many cells of a column denote a number that has a property. -/
def countNumbers (p : ℚ → Prop) [DecidablePred p] (cells : List Cell) : ℕ :=
  cells.countP fun cell => cell.value?.any fun q => decide (p q)

/-- Whether a cell of a column denotes a number. -/
def hasNumber (cells : List Cell) : Bool :=
  cells.any fun cell => cell.value?.isSome

theorem countNumbers_perm (p : ℚ → Prop) [DecidablePred p] {cells others : List Cell}
    (permuted : others.Perm cells) : countNumbers p others = countNumbers p cells :=
  permuted.countP_eq _

section Counting

variable (p : ℚ → Prop) [DecidablePred p] (cells : List Cell)

theorem countNumbers_eq :
    countNumbers p cells = (numbers cells).countP fun x => decide (p (Number.value x)) := by
  rw [numbers, List.countP_filterMap]
  refine List.countP_congr fun cell _ => ?_
  rw [Cell.value?]
  cases cell.asNumber? <;> simp

theorem countNumbers_true : countNumbers (fun _ => True) cells = (numbers cells).length := by
  simp [countNumbers_eq]

/-- A number has a property or not. -/
theorem countNumbers_add_countNumbers_not :
    countNumbers p cells + countNumbers (fun q => ¬ p q) cells = (numbers cells).length := by
  rw [countNumbers_eq, countNumbers_eq,
    List.length_eq_countP_add_countP fun x => decide (p (Number.value x))]
  simp

theorem numbers_eq_nil_iff : numbers cells = [] ↔ hasNumber cells = false := by
  simp [numbers, hasNumber, Cell.value?]

/-- The search for a property of numbers that all smaller numbers have too counts the numbers
that have it. -/
theorem placeAfter_sortedNumbers {holds : Float → Bool}
    (reads : ∀ x, x.isFinite = true → (holds x = true ↔ p (Number.value x)))
    (closed : ∀ q r, q ≤ r → p r → p q) :
    placeAfter holds (sortedNumbers cells) = countNumbers p cells := by
  have partitioned : IsPartitioned holds (sortedNumbers cells) := by
    refine (pairwise_sortedNumbers cells).imp_of_mem fun {x y} left right order found => ?_
    rw [mem_sortedNumbers] at left right
    rw [reads y (isFinite_of_mem_numbers right)] at found
    rw [reads x (isFinite_of_mem_numbers left)]
    exact closed _ _ order found
  have same : (sortedNumbers cells).toList.Perm (numbers cells) := List.mergeSort_perm ..
  rw [placeAfter_eq partitioned, same.countP_eq, countNumbers_eq]
  refine List.countP_congr fun x member => ?_
  rw [reads x (isFinite_of_mem_numbers member), decide_eq_true_iff]

variable {x : Float} (finite : x.isFinite = true)
include finite

theorem countBelow_sortedNumbers :
    countBelow (sortedNumbers cells) x = countNumbers (· < Number.value x) cells := by
  refine placeAfter_sortedNumbers _ cells (fun y yFinite => ?_) fun q r le less => le.trans_lt less
  rw [decide_eq_true_iff, Number.lt_iff yFinite finite]

theorem countUpTo_sortedNumbers :
    countUpTo (sortedNumbers cells) x = countNumbers (· ≤ Number.value x) cells := by
  refine placeAfter_sortedNumbers _ cells (fun y yFinite => ?_) fun q r le upTo => le.trans upTo
  rw [decide_eq_true_iff, Number.le_iff yFinite finite]

end Counting

/-- The rank of a number in a column. -/
def rankAmong (cells : List Cell) (descending : Bool) (q : ℚ) : ℕ :=
  1 + if descending then countNumbers (q < ·) cells else countNumbers (· < q) cells

/-- How much of the numbers of a column is up to a number. -/
def percentAmong (cells : List Cell) (q : ℚ) : Float :=
  percent (countNumbers (· ≤ q) cells) (countNumbers (fun _ => True) cells)

theorem rankOf_sortedNumbers (cells : List Cell) (descending : Bool) {x : Float}
    (finite : x.isFinite = true) :
    rankOf descending (sortedNumbers cells) x = rankAmong cells descending (Number.value x) := by
  rw [rankOf, rankAmong, Nat.add_comm]
  cases descending with
  | false =>
      simp only [Bool.false_eq_true, if_false]
      rw [countBelow_sortedNumbers cells finite]
  | true =>
      have complement :=
        countNumbers_add_countNumbers_not (fun q => q ≤ Number.value x) cells
      simp only [not_le] at complement
      simp only [if_true]
      rw [countUpTo_sortedNumbers cells finite, size_sortedNumbers, ← complement]
      omega

theorem rankAmong_perm {cells others : List Cell} (permuted : others.Perm cells)
    (descending : Bool) (q : ℚ) :
    rankAmong others descending q = rankAmong cells descending q := by
  simp only [rankAmong, countNumbers_perm _ permuted]

theorem percentAmong_perm {cells others : List Cell} (permuted : others.Perm cells) (q : ℚ) :
    percentAmong others q = percentAmong cells q := by
  simp only [percentAmong, countNumbers_perm _ permuted]

/-! ## Statistics -/

/-- A statistic that makes a cell of each number, and that columns with a number have. -/
def forNumbers (cells : List Cell) (f : ℚ → Cell) : Option (Cell → Option Cell) :=
  if hasNumber cells then some fun cell => cell.value?.map f else none

section Statistics

variable {cells : List Cell} {f : ℚ → Cell}

/-- A statistic on the numbers of a column, when what it makes of a number is known by the value
of the number. -/
theorem eq_forNumbers {g : Float → Cell}
    (reads : ∀ x, x.isFinite = true → g x = f (Number.value x)) :
    (if (sortedNumbers cells).isEmpty then none else some (onNumber g)) = forNumbers cells f := by
  have empty : (sortedNumbers cells).isEmpty = !hasNumber cells := by
    rw [Array.isEmpty, size_sortedNumbers, Bool.eq_iff_iff, decide_eq_true_iff,
      List.length_eq_zero_iff, numbers_eq_nil_iff, Bool.not_eq_true']
  have changes : onNumber g = fun cell => cell.value?.map f := by
    funext cell
    rw [onNumber, Cell.value?, Option.map_map]
    cases number : cell.asNumber? with
    | none => rfl
    | some x => exact congrArg some (reads x (Cell.isFinite_of_asNumber? number))
  rw [forNumbers, empty, changes]
  cases hasNumber cells <;> rfl

/-- Cells that denote no number stay as they are. -/
theorem mapStatistic_forNumbers :
    mapStatistic (forNumbers cells f) cells =
      cells.map fun cell => (cell.value?.map f).getD cell := by
  rw [forNumbers]
  cases numeric : hasNumber cells with
  | true => rfl
  | false =>
      symm
      refine (List.map_congr_left fun cell member => ?_).trans (List.map_id cells)
      have none : cell.value? = none := by
        simpa using List.any_eq_false.1 numeric cell member
      rw [none]
      rfl

theorem rank_eq_forNumbers {args : List Cell} {order : List Char} {descending : Bool}
    (text : textAt? args 0 = some order)
    (asked : descending? (String.ofList (Text.lower (Text.trim order))) = some descending) :
    rank cells args = forNumbers cells fun q => Cell.ofCount (rankAmong cells descending q) := by
  rw [rank, text, Option.bind_some, asked, Option.bind_some]
  exact eq_forNumbers fun x finite => by rw [rankOf_sortedNumbers cells descending finite]

theorem percentile_eq_forNumbers (args : List Cell) :
    percentile cells args = forNumbers cells fun q => Cell.ofNumber (percentAmong cells q) := by
  refine eq_forNumbers fun x finite => ?_
  rw [countUpTo_sortedNumbers cells finite, size_sortedNumbers, percentAmong, countNumbers_true]

end Statistics

end Function

/-! ## Columns -/

/-- Whether arguments ask for the descending order; without any it is the ascending one. -/
def orderAsked? (args : List Cell) : Option Bool :=
  let order := (args.headD (.text "asc")).toText
  Function.descending? (String.ofList (Text.lower (Text.trim order.toList)))

theorem find?_rank : Catalog.find? "RANK" = some (Catalog.aggregate "RANK"
    [Catalog.optional "order" "asc"] "1-based competition rank within the column"
    Function.rank) := rfl

theorem find?_percentile : Catalog.find? "PERCENTILE" = some (Catalog.aggregate "PERCENTILE" []
    "Percent of the column at or below the value" Function.percentile) := rfl

theorem prepare?_rank {args : List Cell} {descending : Bool}
    (asked : orderAsked? args = some descending) (cells : List Cell) :
    Catalog.prepare? "RANK" cells args = Function.forNumbers cells fun q =>
      Cell.ofCount (Function.rankAmong cells descending q) := by
  rw [Catalog.prepare?, find?_rank, Option.bind_some]
  cases args <;> exact Function.rank_eq_forNumbers rfl asked

theorem prepare?_percentile (cells args : List Cell) :
    Catalog.prepare? "PERCENTILE" cells args = Function.forNumbers cells fun q =>
      Cell.ofNumber (Function.percentAmong cells q) := by
  rw [Catalog.prepare?, find?_percentile, Option.bind_some]
  exact Function.percentile_eq_forNumbers args

/-- Changing a column and permuting it give the same cells in whichever order they are done. -/
def PermutesWith (change : List Cell → List Cell) : Prop :=
  ∀ (size : ℕ) (column : Fin size → Cell) (σ : Equiv.Perm (Fin size)),
    ∃ results : Fin size → Cell,
      change (List.ofFn column) = List.ofFn results ∧
        change (List.ofFn (column ∘ σ)) = List.ofFn (results ∘ σ)

theorem permutesWith_of_map {change : List Cell → List Cell} {f : List Cell → Cell → Cell}
    (each : ∀ cells, change cells = cells.map (f cells))
    (invariant : ∀ {cells others : List Cell}, others.Perm cells → f others = f cells) :
    PermutesWith change := by
  intro size column σ
  refine ⟨f (List.ofFn column) ∘ column, ?_, ?_⟩
  · rw [each, List.map_ofFn]
  · rw [each, List.map_ofFn, invariant (Equiv.Perm.ofFn_comp_perm σ column)]
    rfl

namespace Engine

open ColumnChain.Function

variable (engine : Engine) (draws : Draws)

theorem applyColumn_of_forNumbers {name : String} {entry : Entry}
    (found : Catalog.find? name = some entry) (aggregate : entry.isAggregate = true)
    {cells args : List Cell} {f : ℚ → Cell}
    (prepared : Catalog.prepare? name cells args = forNumbers cells f) :
    engine.applyColumn draws name cells args =
      cells.map fun cell => (cell.value?.map f).getD cell := by
  rw [Catalog.prepare?, found, Option.bind_some] at prepared
  rw [engine.applyColumn_of_aggregate found aggregate, prepared, mapStatistic_forNumbers]

/-- `RANK` makes of a number one more than the count of the numbers of the column before it, be
they smaller or larger ones, and `PERCENTILE` makes of it the part of the numbers that are up to
it; numbers count for their values and other cells stay. So equal numbers share a rank, and a
permuted column has the results permuted. -/
theorem ranks_eq_counts {args : List Cell} {descending : Bool}
    (asked : orderAsked? args = some descending) :
    (∀ cells, Catalog.prepare? "RANK" cells args =
          forNumbers cells fun q => Cell.ofCount (rankAmong cells descending q)) ∧
      (∀ cells others, Catalog.prepare? "PERCENTILE" cells others =
          forNumbers cells fun q => Cell.ofNumber (percentAmong cells q)) ∧
      (∀ cells, engine.applyColumn draws "RANK" cells args = cells.map fun cell =>
          (cell.value?.map fun q => Cell.ofCount (rankAmong cells descending q)).getD cell) ∧
      (∀ cells others, engine.applyColumn draws "PERCENTILE" cells others = cells.map fun cell =>
          (cell.value?.map fun q => Cell.ofNumber (percentAmong cells q)).getD cell) ∧
      (∀ (cells : List Cell) (i j : ℕ) (q : ℚ), (cells[i]?).bind Cell.value? = some q →
          (cells[j]?).bind Cell.value? = some q →
          (engine.applyColumn draws "RANK" cells args)[i]? =
            (engine.applyColumn draws "RANK" cells args)[j]?) ∧
      PermutesWith (engine.applyColumn draws "RANK" · args) ∧
      ∀ others, PermutesWith (engine.applyColumn draws "PERCENTILE" · others) := by
  have ranks (cells : List Cell) :=
    engine.applyColumn_of_forNumbers draws find?_rank rfl (prepare?_rank asked cells)
  have percents (cells others : List Cell) :=
    engine.applyColumn_of_forNumbers draws find?_percentile rfl (prepare?_percentile cells others)
  refine ⟨prepare?_rank asked, prepare?_percentile, ranks, percents, ?_, ?_, fun others => ?_⟩
  · intro cells i j q first second
    obtain ⟨cell, here, denotes⟩ := Option.bind_eq_some_iff.1 first
    obtain ⟨other, there, denotesToo⟩ := Option.bind_eq_some_iff.1 second
    rw [ranks, List.getElem?_map, List.getElem?_map, here, there]
    simp only [Option.map_some, denotes, denotesToo, Option.getD_some]
  · refine permutesWith_of_map ranks fun {cells others} permuted => ?_
    funext cell
    simp only [rankAmong_perm permuted]
  · refine permutesWith_of_map (percents · others) fun {cells others} permuted => ?_
    funext cell
    simp only [percentAmong_perm permuted]

/-- A column in which numbers are written in several ways, one of them a negative zero. -/
def scores : List Cell :=
  [.number (-0.0), .text "0", .text "1,000", .bool true, .text "n/a", .null, .number 1]

/-- The zeros share the fourth rank of five and the ones the second, in whichever of the ways
they are written. -/
theorem ranks_eq_counts_scores :
    orderAsked? [.text " Desc "] = some true ∧
      ∀ (engine : Engine) (draws : Draws),
        engine.applyColumn draws "RANK" scores [.text " Desc "] =
            [.number 4, .number 4, .number 1, .number 2, .text "n/a", .null, .number 2] ∧
          engine.applyColumn draws "PERCENTILE" scores [] =
            [.number 40, .number 40, .number 100, .number 80, .text "n/a", .null, .number 80] ∧
          (engine.applyColumn draws "RANK" scores [.text " Desc "])[0]? =
            (engine.applyColumn draws "RANK" scores [.text " Desc "])[1]? ∧
          PermutesWith (engine.applyColumn draws "RANK" · [.text " Desc "]) := by
  have asked : orderAsked? [.text " Desc "] = some true := by decide
  refine ⟨asked, fun engine draws => ?_⟩
  obtain ⟨-, -, ranks, percents, ties, permutes, -⟩ := engine.ranks_eq_counts draws asked
  refine ⟨(ranks scores).trans ?_, (percents scores []).trans ?_, ?_, permutes⟩
  · decide +kernel
  · decide +kernel
  · exact ties scores 0 1 0 (by decide +kernel) (by decide +kernel)

end Engine

end ColumnChain
