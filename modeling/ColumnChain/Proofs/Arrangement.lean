import ColumnChain.Proofs.Views

/-!
# Putting chains in order

A list of ids puts a chain in order exactly where it names every live record of the column,
each of them once. Afterwards the records of the chain come in the order of the list and have
the numbers from one on. The store that this makes is said by itself, without a look at the
chain: every record stays in its place, the live ones of the column get their place in the
list as their number, and a time of change is noted where that is another number than before.
-/

namespace ColumnChain

namespace Transformation

/-- Whether a record is live on a column of a dataset. -/
def isLiveOn (dataset column : String) (t : Transformation) : Bool :=
  t.isLive && t.dataset == dataset && t.column == column

/-- The record with its place in a list of ids as its number. The time of the change is noted
only where that is another number than before. -/
def placed (ids : List String) (now : Instant) (t : Transformation) : Transformation :=
  let sequence := UInt32.ofNat (ids.idxOf t.id + 1)
  { t with sequence, updated := if t.sequence = sequence then t.updated else some now }

theorem placed_eq_renumber (ids : List String) (now : Instant) (t : Transformation) :
    t.placed ids now = Store.renumber (UInt32.ofNat (ids.idxOf t.id + 1)) now t := by
  simp only [placed, Store.renumber]
  split
  next same => rw [← same]
  next => rfl

end Transformation

namespace Store

open Transformation

/-! ## The store with a chain in order -/

/-- The live records of a column, in the order of the store. -/
def liveOn (store : Store) (dataset column : String) : List Transformation :=
  store.entries.filter (isLiveOn dataset column)

/-- The store with the live records of a column numbered in the order of some ids, each record
in its place. -/
def arrange (store : Store) (dataset column : String) (ids : List String) (now : Instant) :
    Store :=
  store.mapEntries (fun t => if t.isLiveOn dataset column then t.placed ids now else t) fun t => by
    split <;> rfl

variable {store : Store} {dataset column : String} {ids : List String} {now : Instant}
  {ordered : List Transformation} {t : Transformation}

theorem mem_chain_iff_isLiveOn :
    t ∈ store.chain dataset column ↔ t ∈ store.entries ∧ t.isLiveOn dataset column = true := by
  rw [mem_chain]
  simp only [isLiveOn, Bool.and_eq_true, beq_iff_eq]
  tauto

/-- A chain has the live records of its column. -/
theorem chain_perm_liveOn (store : Store) (dataset column : String) :
    (store.chain dataset column).Perm (store.liveOn dataset column) := by
  have distinct : (store.liveOn dataset column).Nodup := store.distinct.of_map.filter _
  rw [List.perm_ext_iff_of_nodup (store.distinct_chain dataset column).of_map distinct]
  intro t
  rw [mem_chain_iff_isLiveOn, liveOn, List.mem_filter]

/-! ## Ids that name a chain -/

/-- Records are found for ids if there is one for each of them. -/
theorem exists_withIds? {live : List Transformation}
    (known : ∀ id ∈ ids, id ∈ live.map Transformation.id) :
    ∃ ordered, withIds? live ids = some ordered := by
  induction ids with
  | nil => exact ⟨[], rfl⟩
  | cons id ids ih =>
      rw [List.forall_mem_cons] at known
      obtain ⟨rest, restFound⟩ := ih known.2
      obtain ⟨t, member, named⟩ := List.mem_map.1 known.1
      have present : (live.find? fun t => t.id == id).isSome = true := by
        rw [List.find?_isSome]
        exact ⟨t, member, by rw [named, beq_self_eq_true]⟩
      obtain ⟨first, found⟩ := Option.isSome_iff_exists.1 present
      exact ⟨first :: rest, by rw [withIds?, List.mapM_cons, found, ← withIds?, restFound]; rfl⟩

/-- Ids that name every record of a chain once are found in it, in their order, and the chain
is numbered in this order. -/
theorem reorder_of_perm (short : (store.chain dataset column).length < UInt32.size)
    (names : ids.Perm ((store.chain dataset column).map Transformation.id)) (now : Instant) :
    ∃ ordered, ordered.map Transformation.id = ids ∧
      ordered.Perm (store.chain dataset column) ∧
      store.reorder dataset column ids now =
        (.ok (numbered now 1 ordered), store.withOrder now ordered) := by
  obtain ⟨ordered, found⟩ := exists_withIds? fun id member => names.mem_iff.1 member
  have distinct : ids.Nodup := names.nodup_iff.2 (store.distinct_chain dataset column)
  have complete : ids.length = (store.chain dataset column).length := by
    rw [names.length_eq, List.length_map]
  have perm := perm_of_withIds? found distinct complete
  refine ⟨ordered, (withIds?_eq_some found).1, perm, ?_⟩
  simp only [reorder, found]
  rw [if_pos ⟨distinct, complete⟩, if_pos (by rwa [length_numbered, perm.length_eq])]
  rfl

/-- Any other ids are refused. -/
theorem reorder_of_not_perm
    (refused : ¬ ids.Perm ((store.chain dataset column).map Transformation.id)) (now : Instant) :
    store.reorder dataset column ids now =
      (.error (.incompleteReorder column (store.chain dataset column).length ids.length),
        store) := by
  simp only [reorder]
  split
  next ordered found =>
    split
    next lawful =>
      have perm := perm_of_withIds? found lawful.1 lawful.2
      rw [← (withIds?_eq_some found).1] at refused
      exact absurd (perm.map Transformation.id) refused
    next => rfl
  next => rfl

/-! ## The records of an order -/

/-- Numbering records in order gives each of them its place. -/
theorem numbered_eq_map_placed (distinct : (ordered.map Transformation.id).Nodup) :
    numbered now 1 ordered =
      ordered.map (Transformation.placed (ordered.map Transformation.id) now) := by
  apply List.ext_getElem?
  intro place
  rw [getElem?_numbered, List.getElem?_map]
  cases here : ordered[place]? with
  | none => rfl
  | some t =>
      obtain ⟨inside, rfl⟩ := List.getElem?_eq_some_iff.1 here
      have atPlace : (ordered.map Transformation.id).idxOf ordered[place].id = place := by
        have found := distinct.idxOf_getElem place (by rwa [List.length_map])
        rwa [List.getElem_map] at found
      rw [Option.map_some, Option.map_some, placed_eq_renumber, atPlace, Nat.add_comm 1]

/-- The numbers of a chain in order are those from one on. -/
theorem map_sequence_numbered (now : Instant) (short : ordered.length < UInt32.size) :
    (numbered now 1 ordered).map (fun t => t.sequence.toNat) =
      List.range' 1 ordered.length := by
  apply List.ext_getElem
  · rw [List.length_map, length_numbered, List.length_range']
  · intro place inNumbered inRange
    rw [List.length_map] at inNumbered
    rw [List.getElem_map, List.getElem_range',
      toNat_sequence_of_getElem?_numbered short (List.getElem?_eq_getElem inNumbered)]
    omega

theorem pairwise_numbered (now : Instant) (short : ordered.length < UInt32.size) :
    (numbered now 1 ordered).Pairwise fun left right => left.precedes right = true := by
  have ascending : (List.range' 1 ordered.length).Pairwise (· < ·) := List.pairwise_lt_range'
  rw [← map_sequence_numbered now short, List.pairwise_map] at ascending
  exact ascending.imp fun smaller => precedes_of_sequence_lt (UInt32.lt_iff_toNat_lt.2 smaller)

/-- The records of a chain in order are the chain. -/
theorem chain_withOrder (complete : ordered.Perm (store.chain dataset column))
    (short : ordered.length < UInt32.size) :
    (store.withOrder now ordered).chain dataset column = numbered now 1 ordered := by
  apply chain_eq
  · apply List.Nodup.of_map Transformation.id
    rw [map_id_numbered]
    exact nodup_of_complete complete
  · exact pairwise_numbered now short
  · intro t
    rw [mem_chain_iff_isLiveOn, mem_withOrder_of_short complete short]
    constructor
    · intro member
      obtain ⟨index, earlier, -, there, rfl⟩ := exists_of_mem_numbered member
      have inChain := mem_chain.1 (complete.subset (List.mem_of_getElem? there))
      have revises := renumber_revises (UInt32.ofNat (1 + index)) now earlier
      refine ⟨Or.inl member, ?_⟩
      simp only [isLiveOn, renumber_isLive, revises.dataset, revises.column, inChain,
        beq_self_eq_true, Bool.and_self]
    · rintro ⟨member | ⟨stored, outside⟩, live⟩
      · exact member
      · have inChain := mem_chain_iff_isLiveOn.2 ⟨stored, live⟩
        exact absurd (List.mem_map_of_mem (complete.symm.subset inChain)) outside

/-- Putting a chain in order numbers its records in their places. -/
theorem withOrder_eq_arrange (complete : ordered.Perm (store.chain dataset column))
    (short : ordered.length < UInt32.size) :
    store.withOrder now ordered =
      store.arrange dataset column (ordered.map Transformation.id) now := by
  have distinct := nodup_of_complete complete
  apply Keyed.eq_of_keys_eq
  · rw [keys_withOrder complete, arrange, Keyed.keys_mapEntries]
  · intro later member
    rw [arrange, Keyed.mapEntries, List.mem_map]
    rcases (mem_withOrder_of_short complete short).1 member with moved | ⟨stored, outside⟩
    · rw [numbered_eq_map_placed distinct] at moved
      obtain ⟨earlier, listed, rfl⟩ := List.mem_map.1 moved
      obtain ⟨stored, live⟩ := mem_chain_iff_isLiveOn.1 (complete.subset listed)
      exact ⟨earlier, stored, if_pos live⟩
    · refine ⟨later, stored, if_neg fun live => outside ?_⟩
      have inChain := mem_chain_iff_isLiveOn.2 ⟨stored, live⟩
      exact List.mem_map_of_mem (complete.symm.subset inChain)

/-- Ids put a chain in order exactly where they name each live record of the column once, in
whatever store. Then the chain comes in the order of the ids, numbered from one on, and it is
the answer; every record keeps its place in the store, and only numbers, and the times of
records whose number is another one, are changed. Otherwise nothing changes. -/
theorem reorder_isOk_iff_perm
    (short : (store.liveOn dataset column).length < UInt32.size) (ids : List String)
    (now : Instant) :
    ((∃ chain, (store.reorder dataset column ids now).1 = .ok chain) ↔
        ids.Perm ((store.liveOn dataset column).map Transformation.id)) ∧
      (∀ chain, (store.reorder dataset column ids now).1 = .ok chain →
        (store.reorder dataset column ids now).2 = store.arrange dataset column ids now ∧
          (store.reorder dataset column ids now).2.chain dataset column = chain ∧
          chain.map Transformation.id = ids ∧
          chain.map (fun t => t.sequence.toNat) = List.range' 1 ids.length) ∧
      ∀ fault, (store.reorder dataset column ids now).1 = .error fault →
        (store.reorder dataset column ids now).2 = store := by
  have sameRecords := store.chain_perm_liveOn dataset column
  have shortChain : (store.chain dataset column).length < UInt32.size := by
    rwa [sameRecords.length_eq]
  by_cases names : ids.Perm ((store.liveOn dataset column).map Transformation.id)
  · obtain ⟨ordered, rfl, complete, reordered⟩ :=
      reorder_of_perm shortChain (names.trans (sameRecords.map Transformation.id).symm) now
    have shortOrder : ordered.length < UInt32.size := by rwa [complete.length_eq]
    rw [reordered]
    refine ⟨⟨fun _ => names, fun _ => ⟨_, rfl⟩⟩, ?_, ?_⟩
    · intro chain answered
      cases answered
      refine ⟨withOrder_eq_arrange complete shortOrder, chain_withOrder complete shortOrder,
        map_id_numbered now 1 ordered, ?_⟩
      rw [map_sequence_numbered now shortOrder, List.length_map]
    · intro fault answered
      cases answered
  · have refused := reorder_of_not_perm
      (fun perm => names (perm.trans (sameRecords.map Transformation.id))) now
    rw [refused]
    refine ⟨⟨?_, fun perm => absurd perm names⟩, ?_, fun _ _ => rfl⟩
    · intro ⟨chain, answered⟩
      cases answered
    · intro chain answered
      cases answered

/-- In the sample both live records have one number. The record that gets it again notes no
time, and an id that is named twice puts nothing in order. -/
theorem reorder_isOk_iff_perm_tiedStore :
    (tiedStore.liveOn "people" "name").length < UInt32.size ∧
      ((∃ chain, (tiedStore.reorder "people" "name" ["b", "a"] default).1 = .ok chain) ∧
        (tiedStore.reorder "people" "name" ["b", "a"] default).2.entries.map
            (fun t => (t.id, t.sequence, t.updated)) =
          [("b", 1, none), ("c", 1, none), ("a", 2, some default)]) ∧
      ¬ ∃ chain, (tiedStore.reorder "people" "name" ["b", "b"] default).1 = .ok chain := by
  have short : (tiedStore.liveOn "people" "name").length < UInt32.size := by decide
  obtain ⟨succeeds, effect, -⟩ := reorder_isOk_iff_perm short ["b", "a"] default
  obtain ⟨repeated, -, -⟩ := reorder_isOk_iff_perm short ["b", "b"] default
  obtain ⟨chain, answered⟩ := succeeds.2 (by decide)
  refine ⟨short, ⟨⟨chain, answered⟩, ?_⟩, fun accepted => absurd (repeated.1 accepted) (by decide)⟩
  rw [(effect chain answered).1]
  decide

end Store
end ColumnChain
