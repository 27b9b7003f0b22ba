import ColumnChain.Proofs.Commitment

/-!
# Views of a store

The listing of a dataset, the chain of a column and the pipeline that is committed for it
are three views of one set of records. A chain is what a listing has of the live records of
its column, a pipeline takes the steps of a chain, and a view only depends on which records
of its dataset, or of its column, there are: the order in which they are kept does not count.
-/

namespace ColumnChain

namespace Transformation

/-- The order of a listing, as an order of transformations. -/
def compareListed : Transformation → Transformation → Ordering :=
  compareLex (compareOn column) Transformation.compare

instance : Std.TransCmp compareListed :=
  inferInstanceAs (Std.TransCmp (compareLex (compareOn column) Transformation.compare))

end Transformation

namespace Store

open Transformation

/-! ## The order of a listing -/

theorem listedBefore_trans (first second third : Transformation)
    (left : listedBefore first second = true) (right : listedBefore second third = true) :
    listedBefore first third = true :=
  @Std.TransCmp.isLE_trans _ compareListed _ first second third left right

theorem listedBefore_total (left right : Transformation) :
    (listedBefore left right || listedBefore right left) = true := by
  have swapped : compareListed right left = (compareListed left right).swap :=
    Std.OrientedCmp.eq_swap
  change ((compareListed left right).isLE || (compareListed right left).isLE) = true
  rw [swapped]
  cases compareListed left right <;> rfl

/-- Records that may be listed in either order have one id. -/
theorem id_eq_of_listedBefore {left right : Transformation}
    (forth : listedBefore left right = true) (back : listedBefore right left = true) :
    left.id = right.id := by
  have equal : compareListed left right = .eq := Std.OrientedCmp.isLE_antisymm forth back
  have inChain : left.compare right = .eq := (Ordering.then_eq_eq.1 equal).2
  have swapped : right.compare left = (left.compare right).swap := Std.OrientedCmp.eq_swap
  rw [inChain] at swapped
  exact id_eq_of_precedes (by rw [precedes, inChain]; rfl) (by rw [precedes, swapped]; rfl)

/-- Within a column a listing has the order of the chain. -/
theorem listedBefore_of_column_eq {left right : Transformation}
    (same : left.column = right.column) : listedBefore left right = left.precedes right := by
  have equal : Ord.compare left.column right.column = .eq :=
    Std.LawfulEqCmp.compare_eq_iff_eq.2 same
  rw [listedBefore, equal]
  rfl

variable {store left right : Store} {dataset column : String} {t : Transformation}

theorem mem_list : t ∈ store.list dataset ↔ t ∈ store.entries ∧ t.dataset = dataset := by
  simp [list, ofDataset]

theorem nodup_list (store : Store) (dataset : String) : (store.list dataset).Nodup := by
  refine (List.mergeSort_perm _ _).nodup_iff.2 ?_
  exact store.distinct.of_map.filter _

theorem pairwise_list (store : Store) (dataset : String) :
    (store.list dataset).Pairwise fun left right => listedBefore left right = true :=
  List.pairwise_mergeSort listedBefore_trans listedBefore_total _

/-- A listing is the only list of its records in order. -/
theorem list_eq {records : List Transformation} (distinct : records.Nodup)
    (sorted : records.Pairwise fun left right => listedBefore left right = true)
    (members : ∀ t, t ∈ records ↔ t ∈ store.list dataset) : store.list dataset = records := by
  have perm : (store.list dataset).Perm records :=
    (List.perm_ext_iff_of_nodup (store.nodup_list dataset) distinct).2 fun t =>
      (members t).symm
  refine perm.eq_of_pairwise ?_ (store.pairwise_list dataset) sorted
  intro left right leftMember rightMember forth back
  have leftStored := (mem_list.1 leftMember).1
  have rightStored := (mem_list.1 ((members right).1 rightMember)).1
  exact store.eq_of_key_eq leftStored rightStored (id_eq_of_listedBefore forth back)

/-- A chain is what the listing of its dataset has of the live records of its column. -/
theorem chain_eq_filter_list (store : Store) (dataset column : String) :
    store.chain dataset column =
      (store.list dataset).filter fun t => t.isLive && t.column == column := by
  apply chain_eq
  · exact (store.nodup_list dataset).filter _
  · refine ((store.pairwise_list dataset).filter _).imp_of_mem ?_
    intro left right leftMember rightMember listed
    have leftColumn := (List.mem_filter.1 leftMember).2
    have rightColumn := (List.mem_filter.1 rightMember).2
    simp only [Bool.and_eq_true, beq_iff_eq] at leftColumn rightColumn
    rwa [listedBefore_of_column_eq (leftColumn.2.trans rightColumn.2.symm)] at listed
  · intro t
    simp only [List.mem_filter, mem_list, mem_chain, Bool.and_eq_true, beq_iff_eq]
    constructor
    · rintro ⟨⟨stored, inDataset⟩, live, inColumn⟩
      exact ⟨stored, inDataset, inColumn, live⟩
    · rintro ⟨stored, inDataset, inColumn, live⟩
      exact ⟨⟨stored, inDataset⟩, live, inColumn⟩

/-! ## What a view depends on -/

/-- A listing depends only on which records of the dataset there are. -/
theorem list_congr
    (same : ∀ t, t.dataset = dataset → (t ∈ left.entries ↔ t ∈ right.entries)) :
    left.list dataset = right.list dataset := by
  refine list_eq (right.nodup_list dataset) (right.pairwise_list dataset) fun t => ?_
  rw [mem_list, mem_list]
  exact and_congr_left fun inDataset => (same t inDataset).symm

/-- A chain depends only on which live records of the column there are. -/
theorem chain_congr_of_isLive
    (same : ∀ t, t.isLive = true → t.dataset = dataset → t.column = column →
      (t ∈ left.entries ↔ t ∈ right.entries)) :
    left.chain dataset column = right.chain dataset column := by
  refine chain_eq (right.distinct_chain dataset column).of_map
    (right.pairwise_chain dataset column) fun t => ?_
  rw [mem_chain, mem_chain]
  exact and_congr_left fun ⟨inDataset, inColumn, live⟩ =>
    (same t live inDataset inColumn).symm

/-- A chain depends only on which records of the column there are. -/
theorem chain_congr
    (same : ∀ t, t.dataset = dataset → t.column = column →
      (t ∈ left.entries ↔ t ∈ right.entries)) :
    left.chain dataset column = right.chain dataset column :=
  chain_congr_of_isLive fun t _ => same t

/-- A pipeline takes the steps of the chain of its column. -/
theorem pipeline_congr (same : left.chain dataset column = right.chain dataset column) :
    left.pipeline dataset column = right.pipeline dataset column := by
  rw [pipeline_eq, pipeline_eq, same]

/-- The views of a store agree with each other, and they are the same in whatever order the
records are kept. -/
theorem views_of_perm {other : Store} (reordered : other.entries.Perm store.entries)
    (dataset column : String) :
    store.pipeline dataset column =
        ⟨column, (store.chain dataset column).map fun t => Step.read t.expression t.output⟩ ∧
      store.chain dataset column =
        (store.list dataset).filter (fun t => t.isLive && t.column == column) ∧
      other.list dataset = store.list dataset ∧
      other.chain dataset column = store.chain dataset column ∧
      other.pipeline dataset column = store.pipeline dataset column := by
  have sameChain : other.chain dataset column = store.chain dataset column :=
    chain_congr fun t _ _ => reordered.mem_iff
  exact ⟨rfl, store.chain_eq_filter_list dataset column,
    list_congr fun t _ => reordered.mem_iff, sameChain, pipeline_congr sameChain⟩

/-- Two live records that only their ids put in order, and a draft with their number. -/
def tiedStore : Store where
  entries := [
    sampleRecord "b" "TRIM(name)" .active 1,
    sampleRecord "c" "REVERSE(name)" .draft 1,
    sampleRecord "a" "UPPERCASE(name)" .applied 1]
  distinct := by decide

/-- The records of the sample, kept in the order of their ids. -/
def untiedStore : Store where
  entries := [
    sampleRecord "a" "UPPERCASE(name)" .applied 1,
    sampleRecord "b" "TRIM(name)" .active 1,
    sampleRecord "c" "REVERSE(name)" .draft 1]
  distinct := by decide

theorem views_of_tiedStore :
    untiedStore.entries.Perm tiedStore.entries ∧
      tiedStore.pipeline "people" "name" =
        ⟨"name", (tiedStore.chain "people" "name").map fun t =>
          Step.read t.expression t.output⟩ ∧
      tiedStore.chain "people" "name" =
        (tiedStore.list "people").filter (fun t => t.isLive && t.column == "name") ∧
      untiedStore.list "people" = tiedStore.list "people" ∧
      untiedStore.chain "people" "name" = tiedStore.chain "people" "name" ∧
      untiedStore.pipeline "people" "name" = tiedStore.pipeline "people" "name" :=
  ⟨by decide, views_of_perm (by decide) "people" "name"⟩

end Store
end ColumnChain
