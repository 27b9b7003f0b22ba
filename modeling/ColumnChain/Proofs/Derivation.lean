import ColumnChain.Dataset
import ColumnChain.Proofs.Commitment
import ColumnChain.Proofs.Locality
import ColumnChain.Proofs.Sharing

/-!
# Previews and derived data

The chains of a dataset run one column after the other, so that a chain sees what those
before it have written, and those after it may write over what it has written. Where
neither concerns the columns that a chain reads and a candidate writes, the derived data
has in the target of the candidate what its own chain makes of the source rows.
-/

namespace ColumnChain

namespace Store

variable {store committed : Store} {proposal : Proposal} {id : String} {now : Instant}
  {t : Transformation} {dataset column : String}

/-! ## The chains of other columns -/

/-- The columns that the chain of a column writes. -/
def writes (store : Store) (dataset column : String) : List String :=
  (store.chain dataset column).map fun t => t.step.target column

/-- A new record leaves the chains of the other columns as they are. -/
theorem chain_put_of_ne (fresh : t.id ∉ store.keys) {other : String}
    (different : other ≠ t.column) :
    chain (store.put t) dataset other = store.chain dataset other := by
  apply chain_eq (store.distinct_chain dataset other).of_map
    (store.pairwise_chain dataset other)
  intro record
  simp only [mem_chain, Keyed.mem_put]
  constructor
  · rintro ⟨stored, inDataset, inColumn, live⟩
    have kept : record.id ≠ t.id :=
      fun same => fresh (same ▸ List.mem_map_of_mem stored)
    exact ⟨Or.inr ⟨stored, kept⟩, inDataset, inColumn, live⟩
  · rintro ⟨rfl | ⟨stored, -⟩, inDataset, inColumn, live⟩
    · exact absurd inColumn.symm different
    · exact ⟨stored, inDataset, inColumn, live⟩

theorem chain_of_create_of_ne (created : store.create proposal id now = (.ok t, committed))
    (fresh : id ∉ store.keys) {other : String} (different : other ≠ proposal.column) :
    committed.chain dataset other = store.chain dataset other := by
  obtain ⟨sequence, -, rfl, rfl⟩ := of_create_eq_ok created
  exact chain_put_of_ne fresh different

/-! ## Running the chains of columns -/

theorem applyColumns_append (store : Store) (engine : Engine) (draws : Draws)
    (dataset : String) (place : Nat) (first second : List String) (rows : List Row) :
    store.applyColumns engine draws dataset place (first ++ second) rows =
      store.applyColumns engine draws dataset (place + first.length) second
        (store.applyColumns engine draws dataset place first rows) := by
  induction first generalizing place rows with
  | nil => rfl
  | cons column first ih =>
      simp only [List.cons_append, applyColumns, ih, List.length_cons]
      congr 1
      omega

theorem length_applyColumns (store : Store) (engine : Engine) (draws : Draws)
    (dataset : String) (place : Nat) (columns : List String) (rows : List Row) :
    (store.applyColumns engine draws dataset place columns rows).length = rows.length := by
  induction columns generalizing place rows with
  | nil => rfl
  | cons column columns ih =>
      rw [applyColumns, ih, Store.apply, Pipeline.length_apply]

/-- Where work is shared out makes no difference to what chains derive. -/
theorem applyColumns_sharing (store : Store) (engine : Engine) (threshold workers : Nat)
    (draws : Draws) (dataset : String) (place : Nat) (columns : List String) (rows : List Row) :
    store.applyColumns (engine.sharing threshold workers) draws dataset place columns rows =
      store.applyColumns engine draws dataset place columns rows := by
  induction columns generalizing place rows with
  | nil => rfl
  | cons column columns ih =>
      have first : store.apply (engine.sharing threshold workers) (draws.under place) dataset
          column rows = store.apply engine (draws.under place) dataset column rows :=
        engine.applySteps_sharing threshold workers _ _ 0 _ rows
      rw [applyColumns, applyColumns, first, ih]

/-- What is derived depends on the settings and the day only, not on how many workers there
are. -/
theorem derive_congr {engine other : Engine} (sameSettings : engine.settings = other.settings)
    (sameDay : engine.today = other.today) (store : Store) (draws : Draws) (data : Dataset) :
    data.derive store engine draws = data.derive store other draws := by
  have shared : engine = other.sharing engine.settings.parallelThreshold engine.workers := by
    simp only [Engine.sharing, ← sameSettings, ← sameDay]
  rw [shared, Dataset.derive, applyColumns_sharing, ← Dataset.derive]

/-- The derived data has as many rows as the dataset. -/
theorem length_derive (store : Store) (engine : Engine) (draws : Draws) (data : Dataset) :
    (data.derive store engine draws).length = data.rows.length :=
  length_applyColumns store engine draws data.id 0 data.columnNames data.rows

section Kept

variable {R : Row → Row → Prop} [Std.Refl R] [IsTrans Row R]

/-- What the chain of a column keeps in every row. -/
theorem forall₂_apply
    (writes : ∀ name ∈ store.writes dataset column, ∀ row cell, R row (Row.write row name cell))
    (engine : Engine) (draws : Draws) (rows : List Row) :
    List.Forall₂ R rows (store.apply engine draws dataset column rows) := by
  apply engine.forall₂_applySteps draws
  rw [pipeline_eq, List.forall_mem_map]
  intro t member
  exact writes _ (List.mem_map_of_mem member)

/-- What the chains of columns keep in every row. -/
theorem forall₂_applyColumns {columns : List String}
    (writes : ∀ column ∈ columns, ∀ name ∈ store.writes dataset column, ∀ row cell,
      R row (Row.write row name cell))
    (engine : Engine) (draws : Draws) (place : Nat) (rows : List Row) :
    List.Forall₂ R rows (store.applyColumns engine draws dataset place columns rows) := by
  induction columns generalizing place rows with
  | nil => exact List.forall₂_refl rows
  | cons column columns ih =>
      simp only [List.mem_cons, forall_eq_or_imp] at writes
      exact forall₂_trans (forall₂_apply writes.1 engine _ rows)
        (ih writes.2 (place + 1) _)

end Kept

/-- Columns after a chain are the same for tables that agree on what these depend on. -/
theorem agreeOn_apply {names : List String} {left right : List Row}
    (agree : AgreeOn (ColumnChain.needs column (store.pipeline dataset column).steps names)
      left right) (engine : Engine) (draws : Draws) :
    AgreeOn names (store.apply engine draws dataset column left)
      (store.apply engine draws dataset column right) :=
  engine.agreeOn_applySteps draws agree 0

/-- Chains leave every column alone that they do not write. -/
theorem agreeOn_applyColumns_self {names columns : List String}
    (outside : ∀ column ∈ columns, ∀ name ∈ store.writes dataset column, name ∉ names)
    (engine : Engine) (draws : Draws) (place : Nat) (rows : List Row) :
    AgreeOn names rows (store.applyColumns engine draws dataset place columns rows) :=
  forall₂_applyColumns
    (fun column member name written => Row.agreeOn_write (outside column member name written))
    engine draws place rows

/-! ## What a candidate has in the derived data -/

/-- What the target of a candidate for a column depends on, at the end of the chain. -/
def needs (store : Store) (dataset column : String) (candidate : Step) : List String :=
  ColumnChain.needs column ((store.pipeline dataset column).steps ++ [candidate])
    [candidate.target column]

/-- The chains of other columns leave a candidate for a column alone: none of those before
it writes what the target of the candidate depends on, and none of those after it writes
the target. -/
structure Isolates (store : Store) (dataset column : String) (candidate : Step)
    (before after : List String) : Prop where
  before : ∀ other ∈ before, ∀ name ∈ store.writes dataset other,
    name ∉ store.needs dataset column candidate
  after : ∀ other ∈ after, candidate.target column ∉ store.writes dataset other

section Committed

variable {data : Dataset} {before after : List String}
  (created : store.create proposal id now = (.ok t, committed)) (live : t.isLive = true)
  (fresh : id ∉ store.keys)
  (deterministic : store.IsDeterministicOn proposal.dataset proposal.column)
  (candidateDeterministic : proposal.step.isDeterministic = true)
  (inDataset : proposal.dataset = data.id)
  (order : data.columnNames = before ++ proposal.column :: after)
  (distinct : data.columnNames.Nodup)
  (isolates : store.Isolates data.id proposal.column proposal.step before after)

include created live fresh deterministic candidateDeterministic inDataset order
  distinct isolates

/-- The derived data has in the target of a candidate what the committed chain of its
column makes of the source rows. -/
theorem agreeOn_derive (engine : Engine) (draws derivedDraws : Draws) :
    AgreeOn [proposal.step.target proposal.column]
      (committed.apply engine draws data.id proposal.column data.rows)
      (data.derive committed engine derivedDraws) := by
  have longer := chain_of_create created live (id_ne_of_mem_chain fresh)
  have committedDeterministic := isDeterministicOn_of_create created live
    (id_ne_of_mem_chain fresh) deterministic candidateDeterministic
  have step := step_of_create_eq_ok created
  rw [inDataset] at longer committedDeterministic
  rw [order, List.nodup_append, List.nodup_cons] at distinct
  obtain ⟨-, ⟨notAfter, -⟩, apart⟩ := distinct
  have writes : ∀ other, other ≠ proposal.column →
      committed.writes data.id other = store.writes data.id other := by
    intro other different
    rw [Store.writes, Store.writes, chain_of_create_of_ne created fresh different]
  have needs : ColumnChain.needs proposal.column
      (committed.pipeline data.id proposal.column).steps
        [proposal.step.target proposal.column] =
      store.needs data.id proposal.column proposal.step := by
    simp only [Store.needs, pipeline_eq, longer, List.map_append, List.map_singleton, step]
  -- The chains before leave alone what the target depends on.
  have start : AgreeOn (store.needs data.id proposal.column proposal.step) data.rows
      (committed.applyColumns engine derivedDraws data.id 0 before data.rows) := by
    apply agreeOn_applyColumns_self
    intro other member name written
    rw [writes other (apart other member _ List.mem_cons_self)] at written
    exact isolates.before other member name written
  rw [← needs] at start
  have middle := agreeOn_apply start engine (derivedDraws.under (0 + before.length))
  rw [apply_draws committedDeterministic engine _ draws data.rows] at middle
  -- The chains after leave the target alone.
  have rest : ∀ rows, AgreeOn [proposal.step.target proposal.column] rows
      (committed.applyColumns engine derivedDraws data.id (0 + before.length + 1) after
        rows) := by
    intro rows
    apply agreeOn_applyColumns_self
    intro other member name written inTarget
    have different : other ≠ proposal.column := by
      rintro rfl
      exact notAfter member
    rw [writes other different] at written
    rw [List.mem_singleton.1 inTarget] at written
    exact isolates.after other member written
  rw [Dataset.derive, order, applyColumns_append]
  exact middle.trans (rest _)

/-- What a preview on the source rows shows of a row after the candidate is what the
derived data has there once the candidate is created. -/
theorem map_after_preview_eq (filled : data.rows ≠ []) (engine : Engine)
    (draws previewDraws derivedDraws : Draws) :
    (Preview.onChain engine previewDraws (store.pipeline data.id proposal.column)
        (trialOf proposal [] data.rows)).pairs.map Pair.after =
      (Preview.places engine.settings.previewLimit
        ((store.apply engine draws data.id proposal.column data.rows).map
          fun row => Row.get row proposal.column)).map fun place =>
        Row.get ((data.derive committed engine derivedDraws)[place]?.getD default)
          (proposal.step.target proposal.column) := by
  have agree := agreeOn_derive created live fresh deterministic
    candidateDeterministic inDataset order distinct isolates engine draws derivedDraws
  have pairs := pairs_onChain engine [] previewDraws draws draws filled created live
    (id_ne_of_mem_chain fresh) deterministic candidateDeterministic
  rw [inDataset] at pairs
  have beforeLength : (store.apply engine draws data.id proposal.column data.rows).length =
    data.rows.length := Pipeline.length_apply _ _ _ _
  have afterLength : (committed.apply engine draws data.id proposal.column data.rows).length =
    data.rows.length := Pipeline.length_apply _ _ _ _
  generalize store.apply engine draws data.id proposal.column data.rows = beforeRows at *
  generalize committed.apply engine draws data.id proposal.column data.rows = afterRows at *
  have befores : ((trialOf proposal [] data.rows).pairs beforeRows afterRows).map Pair.before =
      beforeRows.map fun row => Row.get row proposal.column :=
    Trial.map_before_pairs _ (afterLength.trans beforeLength.symm)
  -- The same places are shown, so that only what stands there is left to compare.
  rw [pairs, ← befores]
  apply Preview.map_shown
  intro place pair here
  obtain ⟨row, later, -, there, rfl⟩ := List.getElem?_zipWith_eq_some.1 here
  obtain ⟨derived, inDerived, same⟩ := agree.getElem? there
  rw [inDerived]
  exact same.get (List.mem_singleton.2 rfl)

end Committed

end Store
end ColumnChain
