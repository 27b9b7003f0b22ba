import ColumnChain.Proofs.Derivation

/-!
# What derivation leaves as it is

Derived rows come one for each source row and in the same order. Each begins with the columns
of its source row, in their order, and what was not a target of any live transformation is
there as it was: only targets are added, and only the cells of targets change.
-/

namespace ColumnChain

namespace Row

/-- What a row may become where only some columns are written: the columns that it had come
first and in their order, those that come to it are written ones, and a column that is not
written is as it was. -/
structure ChangesOnly (targets : List String) (row derived : Row) : Prop where
  keys : ∃ more, derived.keys = row.keys ++ more ∧ more ⊆ targets
  cells : ∀ name, name ∉ targets → Row.get? derived name = Row.get? row name

namespace ChangesOnly

variable {targets : List String}

instance : Std.Refl (ChangesOnly targets) where
  refl _ := ⟨⟨[], (List.append_nil _).symm, List.nil_subset targets⟩, fun _ _ => rfl⟩

instance : IsTrans Row (ChangesOnly targets) where
  trans first second third left right := by
    obtain ⟨more, leftKeys, leftWithin⟩ := left.keys
    obtain ⟨further, rightKeys, rightWithin⟩ := right.keys
    refine ⟨⟨more ++ further, ?_, List.append_subset.2 ⟨leftWithin, rightWithin⟩⟩, ?_⟩
    · rw [rightKeys, leftKeys, List.append_assoc]
    · intro name outside
      rw [right.cells name outside, left.cells name outside]

end ChangesOnly

/-- Writing adds at most the column that is written, and changes no other. -/
theorem changesOnly_write {targets : List String} {target : String}
    (written : target ∈ targets) (row : Row) (cell : Cell) :
    row.ChangesOnly targets (row.write target cell) where
  keys := by
    simp only [Row.write]
    split
    next => exact ⟨[], (List.append_nil _).symm, List.nil_subset targets⟩
    next =>
      rw [Row.set, Keyed.keys_put]
      split
      next => exact ⟨[], (List.append_nil _).symm, List.nil_subset targets⟩
      next => exact ⟨[target], rfl, List.cons_subset.2 ⟨written, List.nil_subset targets⟩⟩
  cells := by
    intro name outside
    have different : target ≠ name := fun same => outside (same ▸ written)
    exact get?_write_of_ne different row cell

end Row

/-- The columns that the steps of a pipeline write: its own, or new ones. -/
def Pipeline.targets (pipeline : Pipeline) : List String :=
  pipeline.steps.map fun step => step.output.target pipeline.column

/-- The columns that the live transformations of a dataset write: those that they are
attached to, or new ones. -/
def Store.targets (store : Store) (dataset : String) : List String :=
  ((store.ofDataset dataset).filter Transformation.isLive).map fun t =>
    t.output.target t.column

theorem Store.mem_targets_of_mem_writes {store : Store} {dataset column name : String}
    (written : name ∈ store.writes dataset column) : name ∈ store.targets dataset := by
  obtain ⟨t, member, rfl⟩ := List.mem_map.1 written
  obtain ⟨stored, inDataset, rfl, live⟩ := Store.mem_chain.1 member
  have listed : t ∈ (store.ofDataset dataset).filter Transformation.isLive := by
    simp [Store.ofDataset, stored, inDataset, live]
  exact List.mem_map.2 ⟨t, listed, rfl⟩

/-- Derivation makes of each row of a dataset one that differs only in the targets of live
transformations, and a pipeline makes of each row one that differs only in the targets of its
steps. -/
theorem Dataset.changesOnly_derive (engine : Engine) (draws : Draws) :
    (∀ (data : Dataset) (store : Store),
        List.Forall₂ (Row.ChangesOnly (store.targets data.id)) data.rows
          (data.derive store engine draws)) ∧
      ∀ (pipeline : Pipeline) (rows : List Row),
        List.Forall₂ (Row.ChangesOnly pipeline.targets) rows
          (pipeline.apply engine draws rows) := by
  constructor
  · intro data store
    apply Store.forall₂_applyColumns
    intro column _ name written
    exact Row.changesOnly_write (Store.mem_targets_of_mem_writes written)
  · intro pipeline rows
    apply engine.forall₂_applySteps
    intro step member
    exact Row.changesOnly_write (List.mem_map_of_mem member)

end ColumnChain
