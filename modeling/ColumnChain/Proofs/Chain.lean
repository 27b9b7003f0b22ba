import ColumnChain.Proofs.Keyed
import ColumnChain.Sequencing
import Mathlib.Data.List.Basic

/-!
# The chain of a column

Which records make up the chain of a column, in which order they come, and what number
comes after those of a chain. The order of a chain is total, and records that are equal
in it have one id, so that a chain is the only list of its records in order.
-/

namespace ColumnChain

instance : Std.TransCmp Instant.compare :=
  inferInstanceAs <| Std.TransCmp <|
    compareLex (compareOn fun i : Instant => i.date.ordinal) <|
      compareLex (compareOn Instant.second) (compareOn Instant.nanosecond)

namespace Transformation

/-- The order of creation, as an order of transformations. -/
def compareCreated (left right : Transformation) : Ordering :=
  left.created.compare right.created

instance : Std.TransCmp compareCreated where
  eq_swap := @fun left right =>
    @Std.OrientedCmp.eq_swap _ Instant.compare _ left.created right.created
  isLE_trans := @fun first second third =>
    @Std.TransCmp.isLE_trans _ Instant.compare _ first.created second.created third.created

instance : Std.TransCmp Transformation.compare :=
  inferInstanceAs <| Std.TransCmp <|
    compareLex (compareOn sequence) (compareLex compareCreated (compareOn id))

theorem precedes_trans (first second third : Transformation)
    (left : first.precedes second = true) (right : second.precedes third = true) :
    first.precedes third = true :=
  Std.TransCmp.isLE_trans left right

theorem precedes_total (left right : Transformation) :
    (left.precedes right || right.precedes left) = true := by
  have swapped : right.compare left = (left.compare right).swap :=
    Std.OrientedCmp.eq_swap
  simp only [precedes, swapped]
  cases left.compare right <;> rfl

/-- Records that may come in either order have one id. -/
theorem id_eq_of_precedes {left right : Transformation}
    (forth : left.precedes right = true) (back : right.precedes left = true) :
    left.id = right.id := by
  have equal : left.compare right = .eq := Std.OrientedCmp.isLE_antisymm forth back
  simp only [Transformation.compare, Ordering.then_eq_eq] at equal
  exact Std.LawfulEqOrd.eq_of_compare equal.2.2

/-- A smaller number comes first. -/
theorem precedes_of_sequence_lt {left right : Transformation}
    (smaller : left.sequence < right.sequence) : left.precedes right = true := by
  have order : Ord.compare left.sequence right.sequence = .lt := by
    simpa [Std.compare_eq_lt] using smaller
  simp [precedes, Transformation.compare, order]

/-- No other record of a chain starts with the same function name. -/
def IsUniqueIn (t : Transformation) (live : List Transformation) : Prop :=
  ∀ other ∈ live, other.id ≠ t.id → ∀ function,
    t.functionName? = some function → other.functionName? ≠ some function

/-- One record is a later form of another: only status, number and time of change may
differ. -/
def Revises (later earlier : Transformation) : Prop :=
  later = { earlier with
    status := later.status, sequence := later.sequence, updated := later.updated }

namespace Revises

variable {later earlier : Transformation}

theorem refl (t : Transformation) : t.Revises t := rfl

theorem trans {first : Transformation} (revises : later.Revises earlier)
    (before : earlier.Revises first) : later.Revises first := by
  rw [Revises, revises, before]

theorem id (revises : later.Revises earlier) : later.id = earlier.id := by
  rw [revises]

theorem dataset (revises : later.Revises earlier) : later.dataset = earlier.dataset := by
  rw [revises]

theorem column (revises : later.Revises earlier) : later.column = earlier.column := by
  rw [revises]

theorem functionName? (revises : later.Revises earlier) :
    later.functionName? = earlier.functionName? := by
  rw [revises]
  rfl

end Revises

end Transformation

namespace Store

variable {store : Store} {dataset column : String} {t : Transformation}

theorem mem_chain :
    t ∈ store.chain dataset column ↔
      t ∈ store.entries ∧ t.dataset = dataset ∧ t.column = column ∧ t.isLive = true := by
  simp only [chain, ofDataset, List.mem_mergeSort, List.mem_filter, beq_iff_eq,
    Bool.and_eq_true]
  constructor
  · rintro ⟨⟨member, sameDataset⟩, live, sameColumn⟩
    exact ⟨member, sameDataset, sameColumn, live⟩
  · rintro ⟨member, sameDataset, sameColumn, live⟩
    exact ⟨⟨member, sameDataset⟩, live, sameColumn⟩

theorem distinct_chain (store : Store) (dataset column : String) :
    ((store.chain dataset column).map Transformation.id).Nodup := by
  have sorted := List.mergeSort_perm
    ((store.ofDataset dataset).filter fun t => t.isLive && t.column == column)
    Transformation.precedes
  refine (sorted.map Transformation.id).nodup_iff.2 ?_
  exact store.distinct.sublist
    ((List.filter_sublist.trans List.filter_sublist).map Transformation.id)

theorem pairwise_chain (store : Store) (dataset column : String) :
    (store.chain dataset column).Pairwise fun left right => left.precedes right = true :=
  List.pairwise_mergeSort Transformation.precedes_trans Transformation.precedes_total _

/-- A chain is the only list of its records in order. -/
theorem chain_eq {records : List Transformation} (distinct : records.Nodup)
    (sorted : records.Pairwise fun left right => left.precedes right = true)
    (members : ∀ t, t ∈ records ↔ t ∈ store.chain dataset column) :
    store.chain dataset column = records := by
  have chainDistinct := (store.distinct_chain dataset column).of_map
  have perm : (store.chain dataset column).Perm records :=
    (List.perm_ext_iff_of_nodup chainDistinct distinct).2 fun t => (members t).symm
  refine perm.eq_of_pairwise ?_ (store.pairwise_chain dataset column) sorted
  intro left right leftMember rightMember forth back
  have leftStored := (mem_chain.1 leftMember).1
  have rightStored := (mem_chain.1 ((members right).1 rightMember)).1
  exact store.eq_of_key_eq leftStored rightStored (Transformation.id_eq_of_precedes forth back)

/-- The records of a chain other than the one with an id. -/
theorem mem_others {id : String} :
    t ∈ (store.chain dataset column).filter (fun other => other.id != id) ↔
      t ∈ store.chain dataset column ∧ t.id ≠ id := by
  simp

end Store

/-! ## The next number -/

namespace Store

theorem max_toNat (left right : UInt32) :
    (max left right).toNat = max left.toNat right.toNat := by
  change (if left ≤ right then right else left).toNat = _
  split
  next ordered =>
    rw [UInt32.le_iff_toNat_le] at ordered
    omega
  next unordered =>
    rw [UInt32.le_iff_toNat_le] at unordered
    omega

theorem le_foldl_max (numbers : List UInt32) (start : UInt32) :
    start.toNat ≤ (numbers.foldl max start).toNat ∧
      ∀ number ∈ numbers, number.toNat ≤ (numbers.foldl max start).toNat := by
  induction numbers generalizing start with
  | nil => simp
  | cons number rest ih =>
      obtain ⟨startLe, restLe⟩ := ih (max start number)
      rw [max_toNat] at startLe
      simp only [List.foldl_cons, List.mem_cons, forall_eq_or_imp]
      exact ⟨by omega, by omega, restLe⟩

theorem foldl_max_mem (numbers : List UInt32) (start : UInt32) :
    numbers.foldl max start = start ∨ numbers.foldl max start ∈ numbers := by
  induction numbers generalizing start with
  | nil => simp
  | cons number rest ih =>
      have choice : max start number = start ∨ max start number = number := by
        change (if start ≤ number then number else start) = _ ∨ (if _ then _ else _) = _
        split <;> simp
      simp only [List.foldl_cons, List.mem_cons]
      rcases ih (max start number) with unchanged | member
      · rw [unchanged]
        rcases choice with equal | equal
        · exact Or.inl equal
        · exact Or.inr (Or.inl equal)
      · exact Or.inr (Or.inr member)

section Next

variable {live : List Transformation} {t : Transformation} {sequence : UInt32}

theorem le_largestSequence (member : t ∈ live) :
    t.sequence.toNat ≤ (largestSequence live).toNat :=
  (le_foldl_max (live.map Transformation.sequence) 0).2 t.sequence (List.mem_map_of_mem member)

/-- The largest number is zero or that of a record. -/
theorem largestSequence_eq_zero_or_mem (live : List Transformation) :
    largestSequence live = 0 ∨ ∃ t ∈ live, t.sequence = largestSequence live := by
  rcases foldl_max_mem (live.map Transformation.sequence) 0 with zero | member
  · exact Or.inl zero
  · exact Or.inr (List.mem_map.1 member)

/-- The largest number is the last one exactly if a record has the last one. -/
theorem largestSequence_eq_last :
    largestSequence live = lastSequence ↔ ∃ t ∈ live, t.sequence = lastSequence := by
  constructor
  · intro last
    rcases largestSequence_eq_zero_or_mem live with zero | ⟨t, member, same⟩
    · rw [zero] at last
      exact absurd last (by decide)
    · exact ⟨t, member, same.trans last⟩
  · rintro ⟨t, member, last⟩
    have upper := le_largestSequence member
    have below := (largestSequence live).toNat_lt
    rw [last] at upper
    change 4294967295 ≤ _ at upper
    apply UInt32.toNat_inj.1
    change _ = 4294967295
    omega

/-- The next number is the largest one and one, without overflow. -/
theorem nextSequence_eq_ok :
    nextSequence live = .ok sequence ↔ sequence.toNat = (largestSequence live).toNat + 1 := by
  have below := sequence.toNat_lt
  rw [nextSequence]
  split
  next last =>
    rw [last]
    change _ ↔ _ = 4294967295 + 1
    constructor
    · intro given
      cases given
    · intro beyond
      omega
  next notLast =>
    have small : (largestSequence live).toNat ≠ 4294967295 :=
      fun equal => notLast (UInt32.toNat_inj.1 equal)
    have limit := (largestSequence live).toNat_lt
    have sum : (largestSequence live + 1).toNat = (largestSequence live).toNat + 1 := by
      rw [UInt32.toNat_add, UInt32.toNat_one]
      omega
    rw [Except.ok.injEq, ← UInt32.toNat_inj, sum]
    exact eq_comm

/-- There is no next number exactly if a record has the last one. -/
theorem nextSequence_eq_error {fault : Fault} :
    nextSequence live = .error fault ↔
      fault = .numbersExhausted ∧ ∃ t ∈ live, t.sequence = lastSequence := by
  rw [← largestSequence_eq_last, nextSequence]
  split
  next last => simp [last, eq_comm]
  next notLast => simp [notLast]

/-- Where no record has the last number, there is a next one. -/
theorem exists_nextSequence (bounded : ∀ t ∈ live, t.sequence ≠ lastSequence) :
    ∃ sequence, nextSequence live = .ok sequence := by
  cases next : nextSequence live with
  | ok sequence => exact ⟨sequence, rfl⟩
  | error fault =>
      obtain ⟨-, t, member, last⟩ := nextSequence_eq_error.1 next
      exact absurd last (bounded t member)

/-- The next number is larger than the numbers of a chain. -/
theorem sequence_lt_of_nextSequence (next : nextSequence live = .ok sequence)
    (member : t ∈ live) : t.sequence < sequence := by
  rw [UInt32.lt_iff_toNat_lt, nextSequence_eq_ok.1 next]
  exact Nat.lt_succ_of_le (le_largestSequence member)

theorem pos_of_nextSequence (next : nextSequence live = .ok sequence) : 0 < sequence := by
  rw [UInt32.lt_iff_toNat_lt, nextSequence_eq_ok.1 next]
  exact Nat.succ_pos _

end Next

/-! ## Numbering records in order -/

@[simp] theorem renumber_sequence (sequence : UInt32) (now : Instant) (t : Transformation) :
    (renumber sequence now t).sequence = sequence := by
  simp only [renumber]
  split
  next same => exact same
  next => rfl

theorem renumber_revises (sequence : UInt32) (now : Instant) (t : Transformation) :
    (renumber sequence now t).Revises t := by
  simp only [renumber]
  split
  next => exact .refl t
  next => rfl

@[simp] theorem renumber_isLive (sequence : UInt32) (now : Instant) (t : Transformation) :
    (renumber sequence now t).isLive = t.isLive := by
  simp only [renumber]
  split <;> rfl

@[simp] theorem length_numbered (now : Instant) (place : Nat) (records : List Transformation) :
    (numbered now place records).length = records.length := by
  induction records generalizing place with
  | nil => rfl
  | cons t rest ih => simp [numbered, ih]

theorem getElem?_numbered (now : Instant) (place : Nat) (records : List Transformation)
    (index : Nat) :
    (numbered now place records)[index]? =
      records[index]?.map (renumber (UInt32.ofNat (place + index)) now) := by
  induction records generalizing place index with
  | nil => simp [numbered]
  | cons t rest ih =>
      cases index with
      | zero => simp [numbered]
      | succ index =>
          simp only [numbered, List.getElem?_cons_succ, ih]
          rw [Nat.add_right_comm, Nat.add_assoc]

/-- A numbered record comes from the record in its place. -/
theorem exists_of_mem_numbered {now : Instant} {place : Nat} {records : List Transformation}
    {later : Transformation} (member : later ∈ numbered now place records) :
    ∃ index earlier, (numbered now place records)[index]? = some later ∧
      records[index]? = some earlier ∧
      later = renumber (UInt32.ofNat (place + index)) now earlier := by
  obtain ⟨index, here⟩ := List.mem_iff_getElem?.1 member
  have origin := getElem?_numbered now place records index
  rw [here] at origin
  obtain ⟨earlier, there, equal⟩ := Option.map_eq_some_iff.1 origin.symm
  exact ⟨index, earlier, here, there, equal.symm⟩

@[simp] theorem map_id_numbered (now : Instant) (place : Nat)
    (records : List Transformation) :
    (numbered now place records).map Transformation.id =
      records.map Transformation.id := by
  induction records generalizing place with
  | nil => rfl
  | cons t rest ih => simp [numbered, ih, (renumber_revises _ now t).id]

end Store
end ColumnChain
