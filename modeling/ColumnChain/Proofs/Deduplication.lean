import ColumnChain.Proofs.Calls

/-!
# Removing duplicates

A live record is a duplicate where another live record of its column starts with the same
function name and comes before it, by number, then by age, then by id. A cleanup removes the
duplicates of a dataset and no other record, in whatever store: what stays, stays in its order,
of each column and function name the first live record is kept, and there is nothing left for
a second cleanup.
-/

namespace ColumnChain

namespace Transformation

/-- One record comes before another of its column that starts with the same function name. -/
def Outranks (first t : Transformation) : Prop :=
  first.IsSibling t ∧ t.functionName?.isSome = true ∧ first.functionName? = t.functionName? ∧
    first.compare t = .lt

instance (first t : Transformation) : Decidable (first.Outranks t) :=
  inferInstanceAs (Decidable (_ ∧ _))

theorem not_compare_lt_self (t : Transformation) : t.compare t ≠ .lt := by
  have same : t.compare t = .eq := Std.ReflCmp.compare_self
  rw [same]
  decide

/-- Of records with different ids one comes before the other. -/
theorem compare_lt_or_of_id_ne {left right : Transformation} (different : left.id ≠ right.id) :
    left.compare right = .lt ∨ right.compare left = .lt := by
  cases order : left.compare right with
  | lt => exact Or.inl rfl
  | gt => exact Or.inr (Std.OrientedCmp.gt_iff_lt.1 order)
  | eq =>
      have back : right.compare left = .eq := Std.OrientedCmp.eq_comm.1 order
      exact absurd (id_eq_of_precedes (by rw [precedes, order]; rfl)
        (by rw [precedes, back]; rfl)) different

end Transformation

namespace Store

open Transformation

/-- A record of a dataset that a live record of its column and function name comes before. -/
def IsDuplicate (store : Store) (dataset : String) (t : Transformation) : Prop :=
  t.dataset = dataset ∧ ∃ first ∈ store.entries, first.Outranks t

instance (store : Store) (dataset : String) (t : Transformation) :
    Decidable (store.IsDuplicate dataset t) :=
  inferInstanceAs (Decidable (_ ∧ _))

variable {store : Store} {dataset : String} {t : Transformation}

/-! ## The pass over the live records -/

/-- The live records of a dataset, in the order of a chain. -/
def inChainOrder (store : Store) (dataset : String) : List Transformation :=
  ((store.ofDataset dataset).filter Transformation.isLive).mergeSort Transformation.precedes

theorem mem_inChainOrder :
    t ∈ store.inChainOrder dataset ↔
      t ∈ store.entries ∧ t.dataset = dataset ∧ t.isLive = true := by
  simp [inChainOrder, ofDataset, and_comm]

theorem nodup_inChainOrder (store : Store) (dataset : String) :
    (store.inChainOrder dataset).Nodup := by
  refine (List.mergeSort_perm _ _).nodup_iff.2 ?_
  exact (store.distinct.of_map.filter _).filter _

/-- Each of the records comes before those after it, since no two have one id. -/
theorem pairwise_inChainOrder (store : Store) (dataset : String) :
    (store.inChainOrder dataset).Pairwise fun left right => left.compare right = .lt := by
  have sorted : (store.inChainOrder dataset).Pairwise fun left right =>
      left.precedes right = true :=
    List.pairwise_mergeSort precedes_trans precedes_total _
  refine (sorted.and (store.nodup_inChainOrder dataset)).imp_of_mem ?_
  intro left right leftMember rightMember ⟨ordered, different⟩
  have apart : left.id ≠ right.id := fun same => different
    (store.eq_of_key_eq (mem_inChainOrder.1 leftMember).1 (mem_inChainOrder.1 rightMember).1 same)
  rcases compare_lt_or_of_id_ne apart with before | after
  · exact before
  · rw [precedes, Std.OrientedCmp.gt_of_lt after] at ordered
    cases ordered

theorem duplicates_sublist (seen : List (String × String)) (records : List Transformation) :
    (duplicates seen records).Sublist records := by
  induction records generalizing seen with
  | nil => exact .slnil
  | cons head rest ih =>
      simp only [duplicates]
      split
      next => exact (ih seen).cons head
      next =>
        split
        next => exact (ih seen).cons_cons head
        next => exact (ih _).cons head

/-- A pass takes out the records whose column and function name are seen before it, or at a
record that comes before. -/
theorem mem_duplicates {seen : List (String × String)} {records : List Transformation}
    (sorted : records.Pairwise fun left right => left.compare right = .lt) :
    t ∈ duplicates seen records ↔
      t ∈ records ∧ ∃ function, t.functionName? = some function ∧
        ((t.column, function) ∈ seen ∨ ∃ first ∈ records, first.column = t.column ∧
          first.functionName? = some function ∧ first.compare t = .lt) := by
  induction records generalizing seen with
  | nil => simp [duplicates]
  | cons head rest ih =>
      obtain ⟨headFirst, restSorted⟩ := List.pairwise_cons.1 sorted
      have notBefore : ∀ first ∈ head :: rest, first.compare head ≠ .lt := by
        rw [List.forall_mem_cons]
        refine ⟨head.not_compare_lt_self, fun first member => ?_⟩
        have after : first.compare head = .gt := Std.OrientedCmp.gt_of_lt (headFirst first member)
        rw [after]
        decide
      have notIn : head ∉ rest := fun member =>
        head.not_compare_lt_self (headFirst head member)
      simp only [duplicates]
      split
      next unnamed =>
        -- Without a name the head is not taken out, and no record is a duplicate of it.
        rw [ih restSorted]
        grind
      next function named =>
        split
        next isSeen =>
          -- What the head makes a duplicate is one already by what was seen.
          rw [List.mem_cons, ih restSorted]
          grind
        next isNew =>
          -- From here on the column and the name of the head are seen.
          rw [ih restSorted]
          grind

/-- A cleanup takes out the duplicates. -/
theorem mem_duplicates_iff_isDuplicate :
    t ∈ duplicates [] (store.inChainOrder dataset) ↔
      t ∈ store.entries ∧ store.IsDuplicate dataset t := by
  rw [mem_duplicates (store.pairwise_inChainOrder dataset), mem_inChainOrder]
  constructor
  · rintro ⟨⟨stored, here, live⟩, function, named, seen | ⟨first, listed, column, same, before⟩⟩
    · cases seen
    · obtain ⟨firstStored, firstHere, firstLive⟩ := mem_inChainOrder.1 listed
      refine ⟨stored, here, first, firstStored,
        ⟨firstLive, live, firstHere.trans here.symm, column⟩, ?_, same.trans named.symm, before⟩
      rw [named, Option.isSome_some]
  · rintro ⟨stored, here, first, firstStored, siblings, named, same, before⟩
    obtain ⟨firstLive, live, sameDataset, column⟩ := siblings
    obtain ⟨function, isName⟩ := Option.isSome_iff_exists.1 named
    have listed : first ∈ store.inChainOrder dataset :=
      mem_inChainOrder.2 ⟨firstStored, sameDataset.trans here, firstLive⟩
    exact ⟨⟨stored, here, live⟩, function, isName,
      Or.inr ⟨first, listed, column, same.trans isName, before⟩⟩

/-! ## The store after a cleanup -/

/-- A cleanup leaves all records that are no duplicates, in their order. -/
theorem entries_cleanup (store : Store) (dataset : String) :
    (store.cleanup dataset).2.entries =
      store.entries.filter fun t => ¬ store.IsDuplicate dataset t := by
  have erased := Keyed.entries_foldl_erase (duplicates [] (store.inChainOrder dataset))
    Transformation.id store
  refine erased.trans (List.filter_congr fun t stored => ?_)
  rw [decide_eq_decide, not_iff_not]
  constructor
  · intro named
    obtain ⟨other, removed, same⟩ := List.mem_map.1 named
    obtain ⟨otherStored, isDuplicate⟩ := mem_duplicates_iff_isDuplicate.1 removed
    rwa [store.eq_of_key_eq stored otherStored same.symm]
  · intro isDuplicate
    exact List.mem_map_of_mem (mem_duplicates_iff_isDuplicate.2 ⟨stored, isDuplicate⟩)

/-- A cleanup tells how many records are duplicates. -/
theorem fst_cleanup (store : Store) (dataset : String) :
    (store.cleanup dataset).1 =
      store.entries.countP fun t => store.IsDuplicate dataset t := by
  have perm : (duplicates [] (store.inChainOrder dataset)).Perm
      (store.entries.filter fun t => store.IsDuplicate dataset t) := by
    refine (List.perm_ext_iff_of_nodup
      ((store.nodup_inChainOrder dataset).sublist (duplicates_sublist [] _))
      (store.distinct.of_map.filter _)).2 fun t => ?_
    rw [mem_duplicates_iff_isDuplicate, List.mem_filter, decide_eq_true_eq]
  rw [List.countP_eq_length_filter]
  exact perm.length_eq

/-- Live records of a column that are left have different function names. -/
theorem eq_of_mem_cleanup {left right : Transformation}
    (leftMember : left ∈ (store.cleanup dataset).2.entries)
    (rightMember : right ∈ (store.cleanup dataset).2.entries) (here : left.dataset = dataset)
    (siblings : left.IsSibling right) (named : left.functionName?.isSome = true)
    (same : left.functionName? = right.functionName?) : left = right := by
  rw [entries_cleanup, List.mem_filter, decide_eq_true_eq] at leftMember rightMember
  by_contra different
  have apart : left.id ≠ right.id := fun equal =>
    different (store.eq_of_key_eq leftMember.1 rightMember.1 equal)
  rcases compare_lt_or_of_id_ne apart with before | after
  · exact rightMember.2 ⟨siblings.2.2.1 ▸ here, left, leftMember.1, siblings, same ▸ named, same,
      before⟩
  · exact leftMember.2 ⟨here, right, rightMember.1, siblings.symm, named, same.symm, after⟩

/-- There are no duplicates after a cleanup. -/
theorem not_isDuplicate_cleanup (store : Store) (dataset : String) :
    ∀ t ∈ (store.cleanup dataset).2.entries,
      ¬ (store.cleanup dataset).2.IsDuplicate dataset t := by
  intro t member ⟨here, first, firstMember, siblings, named, same, before⟩
  have equal := eq_of_mem_cleanup firstMember member (siblings.2.2.1.trans here) siblings
    (same ▸ named) same
  rw [equal] at before
  exact t.not_compare_lt_self before

/-- A cleanup removes from a dataset exactly the live records that another live record of their
column and function name comes before, and tells how many these are. All other records stay, in
their order; no two live records of a column that are left start with the same function name,
and a second cleanup finds nothing. -/
theorem cleanup_keeps_first (store : Store) (dataset : String) :
    (store.cleanup dataset).2.entries =
        store.entries.filter (fun t => ¬ store.IsDuplicate dataset t) ∧
      (store.cleanup dataset).1 =
        store.entries.countP (fun t => store.IsDuplicate dataset t) ∧
      (∀ left ∈ (store.cleanup dataset).2.entries, ∀ right ∈ (store.cleanup dataset).2.entries,
        left.dataset = dataset → left.IsSibling right → left.functionName?.isSome = true →
          left.functionName? = right.functionName? → left = right) ∧
      (store.cleanup dataset).2.cleanup dataset = (0, (store.cleanup dataset).2) := by
  have nothing : ((store.cleanup dataset).2.cleanup dataset).1 = 0 := by
    rw [fst_cleanup, List.countP_eq_zero]
    intro t member
    simpa using store.not_isDuplicate_cleanup dataset t member
  refine ⟨store.entries_cleanup dataset, store.fst_cleanup dataset, ?_,
    Prod.ext nothing (snd_cleanup_of_fst nothing)⟩
  intro left leftMember right rightMember here siblings named same
  exact eq_of_mem_cleanup leftMember rightMember here siblings named same

/-- Two live records with one name and one number, whose ids put them in order, and beside them
a draft with the name and two live records without a name. -/
def repeatingStore : Store where
  entries := [
    sampleRecord "b" "trim(name)" .active 2,
    sampleRecord "c" "Trim(name)" .draft 1,
    sampleRecord "d" "(name)" .active 2,
    sampleRecord "a" "TRIM(name)" .applied 2,
    sampleRecord "e" "(name)" .active 2]
  distinct := by decide

example : (repeatingStore.entries.filter fun t => repeatingStore.IsDuplicate "people" t) =
    [sampleRecord "b" "trim(name)" .active 2] := by decide

end Store
end ColumnChain
