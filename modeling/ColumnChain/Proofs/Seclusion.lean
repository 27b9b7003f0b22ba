import ColumnChain.Proofs.Loading
import ColumnChain.Proofs.Planning
import ColumnChain.Proofs.Verbatim

/-!
# Columns that keep to themselves

Where all chains of a dataset overwrite their own columns and the chain of one column mentions
no other column, what is derived in that column is what its chain makes of the cells of the
column alone. So neither the cells nor the chains of other columns matter to it, nor where
among them it stands.
-/

namespace ColumnChain

/-! ## Tables with the same columns -/

/-- Rows that change only in columns that they have keep the columns that they have. -/
theorem HaveColumns.of_changesOnly {names targets : List String} {rows derived : List Row}
    (same : HaveColumns names rows) (within : targets ⊆ names)
    (changes : List.Forall₂ (Row.ChangesOnly targets) rows derived) :
    HaveColumns names derived := by
  induction changes with
  | nil => exact same
  | @cons row other rows derived change _ ih =>
      intro member inDerived name
      rcases List.mem_cons.1 inDerived with rfl | later
      · obtain ⟨more, keys, added⟩ := change.keys
        have columns := same row List.mem_cons_self name
        rw [keys, List.mem_append, columns]
        exact or_iff_left_of_imp fun new => within (added new)
      · exact ih (fun row rowMember => same row (List.mem_cons_of_mem _ rowMember)) member
          later name

namespace Engine

variable (engine : Engine) {column : String} {names : List String} {rows : List Row}

theorem applyStep_draws_of_haveColumns {step : Step}
    (deterministic : ∀ entry ∈ step.callee? column names, entry.name ≠ "GENERATE_ID")
    (same : HaveColumns names rows) (left right : Draws) :
    engine.applyStep left column step rows = engine.applyStep right column step rows := by
  by_cases empty : rows = []
  · rw [empty, applyStep_nil, applyStep_nil]
  · have planned : step.plan column rows =
        Plan.ofExpression column (fun name => names.contains name) step.expression :=
      Step.plan_eq (fun row member name _ _ => same.contains member name) empty
    have ignores : ∀ entry subject parameters,
        step.plan column rows = .call entry subject parameters →
          entry.evaluator.IgnoresToken := by
      intro entry subject parameters calls
      have called : entry ∈ step.callee? column names := by
        rw [Option.mem_def, Step.callee?, ← planned, calls]
        rfl
      exact Step.ignoresToken_of_callee? called (deterministic entry called)
    simp only [applyStep, engine.results?_draws column ignores left right]

/-- A chain that overwrites a column and calls nothing random makes the same rows wherever
its steps draw. -/
theorem applySteps_draws_of_haveColumns {steps : List Step} (member : column ∈ names)
    (overwrites : ∀ step ∈ steps, step.output = .overwrite)
    (deterministic : ∀ step ∈ steps, ∀ entry ∈ step.callee? column names,
      entry.name ≠ "GENERATE_ID")
    (same : HaveColumns names rows) (left right : Draws) (leftPlace rightPlace : Nat) :
    engine.applySteps left column leftPlace steps rows =
      engine.applySteps right column rightPlace steps rows := by
  induction steps generalizing leftPlace rightPlace rows with
  | nil => rfl
  | cons step steps ih =>
      simp only [List.mem_cons, forall_eq_or_imp] at overwrites deterministic
      have target : step.target column ∈ names := by
        rw [Step.target, overwrites.1]
        exact member
      have changes := engine.forall₂_applyStep (right.under rightPlace)
        (Row.changesOnly_write target) rows
      simp only [applySteps]
      rw [engine.applyStep_draws_of_haveColumns deterministic.1 same _
        (right.under rightPlace)]
      exact ih overwrites.2 deterministic.2
        (same.of_changesOnly (List.Subset.refl names) changes) (leftPlace + 1)
        (rightPlace + 1)

end Engine

/-- A chain needs its own column, what its steps mention and what is wanted of it. -/
theorem forall_mem_needs {column : String} {steps : List Step} {wanted : List String}
    {p : String → Prop} (own : p column)
    (mentioned : ∀ step ∈ steps, ∀ name ∈ step.expression.mentions, p name)
    (asked : ∀ name ∈ wanted, p name) : ∀ name ∈ needs column steps wanted, p name := by
  induction steps with
  | nil => exact asked
  | cons step steps ih =>
      simp only [List.mem_cons, forall_eq_or_imp] at mentioned
      have rest := ih mentioned.2
      rw [needs, List.foldr_cons, Step.needs]
      split
      next =>
        simp only [List.forall_mem_cons, List.forall_mem_append]
        exact ⟨own, mentioned.1, rest⟩
      next => exact rest

/-! ## Secluded columns -/

/-- A column of some rows keeps to itself: the rows have the same columns, this one among
them, all live transformations of the dataset overwrite, and those of the column mention no
other column of the rows and call nothing random. -/
structure Store.Secludes (store : Store) (dataset : String) (rows : List Row)
    (column : String) : Prop where
  same : ∀ left ∈ rows, ∀ right ∈ rows, left.keys ⊆ right.keys
  member : column ∈ (Dataset.ofRows dataset rows).columnNames
  overwrites : ∀ t ∈ store.entries, t.dataset = dataset → t.isLive = true →
    t.output = .overwrite
  mentions : ∀ t ∈ store.chain dataset column, ∀ name ∈ t.step.expression.mentions,
    name = column ∨ name ∉ (Dataset.ofRows dataset rows).columnNames
  deterministic : ∀ t ∈ store.chain dataset column,
    ∀ entry ∈ t.step.callee? column (Dataset.ofRows dataset rows).columnNames,
      entry.name ≠ "GENERATE_ID"

namespace Store.Secludes

variable {store : Store} {dataset column : String} {rows : List Row}
  (secludes : store.Secludes dataset rows column)

include secludes

theorem haveColumns : HaveColumns (Dataset.ofRows dataset rows).columnNames rows := by
  intro row member name
  rw [Dataset.columnNames_ofRows, Dataset.mem_namesOf]
  constructor
  · exact fun has => ⟨row, member, has⟩
  · rintro ⟨other, otherMember, has⟩
    exact secludes.same other otherMember row member has

theorem eq_of_mem_writes {other name : String} (written : name ∈ store.writes dataset other) :
    name = other := by
  obtain ⟨t, member, rfl⟩ := List.mem_map.1 written
  obtain ⟨stored, inDataset, -, live⟩ := Store.mem_chain.1 member
  have output : t.step.output = .overwrite := secludes.overwrites t stored inDataset live
  rw [Step.target, output]
  rfl

theorem output_of_mem_steps {step : Step}
    (member : step ∈ (store.pipeline dataset column).steps) : step.output = .overwrite := by
  rw [pipeline_eq] at member
  obtain ⟨t, inChain, rfl⟩ := List.mem_map.1 member
  obtain ⟨stored, inDataset, -, live⟩ := Store.mem_chain.1 inChain
  exact secludes.overwrites t stored inDataset live

/-- What the chain of the column needs is the column, and nothing else that the rows have. -/
theorem forall_mem_needs :
    ∀ name ∈ ColumnChain.needs column (store.pipeline dataset column).steps [column],
      name = column ∨ name ∉ (Dataset.ofRows dataset rows).columnNames := by
  have mentioned : ∀ step ∈ (store.pipeline dataset column).steps,
      ∀ name ∈ step.expression.mentions,
        name = column ∨ name ∉ (Dataset.ofRows dataset rows).columnNames := by
    rw [pipeline_eq, List.forall_mem_map]
    exact secludes.mentions
  exact ColumnChain.forall_mem_needs (Or.inl rfl) mentioned fun name member =>
    Or.inl (List.mem_singleton.1 member)

/-- The cells of the column, as rows of their own, agree with the rows on all that the chain
of the column needs. -/
theorem agreeOn_single :
    AgreeOn (ColumnChain.needs column (store.pipeline dataset column).steps [column])
      (((Dataset.ofRows dataset rows).cells column).map (Row.single column)) rows := by
  rw [Dataset.cells, List.map_map, AgreeOn, List.forall₂_map_left_iff]
  refine List.forall₂_same.2 fun row member name needed => ?_
  have columns := secludes.haveColumns row member name
  rw [← Keyed.contains_eq_true_iff, Row.contains_eq_isSome_get?] at columns
  rw [Function.comp_apply, Row.get?_single]
  rcases secludes.forall_mem_needs name needed with rfl | outside
  · obtain ⟨cell, here⟩ := Option.isSome_iff_exists.1 (columns.2 secludes.member)
    rw [if_pos rfl, Row.get, here, Option.getD_some]
  · have different : column ≠ name := fun same => outside (same ▸ secludes.member)
    rw [if_neg different]
    exact (Option.not_isSome_iff_eq_none.1 fun has => outside (columns.1 has)).symm

/-- The chains of other columns leave alone what the chain of the column needs. -/
theorem agreeOn_applyColumns {others : List String}
    (within : others ⊆ (Dataset.ofRows dataset rows).columnNames) (absent : column ∉ others)
    (engine : Engine) (draws : Draws) (place : Nat) (table : List Row) :
    AgreeOn (ColumnChain.needs column (store.pipeline dataset column).steps [column]) table
      (store.applyColumns engine draws dataset place others table) := by
  apply agreeOn_applyColumns_self
  intro other member name written needed
  rw [secludes.eq_of_mem_writes written] at needed
  rcases secludes.forall_mem_needs other needed with rfl | outside
  · exact absent member
  · exact outside (within member)

theorem haveColumns_applyColumns {others : List String}
    (within : others ⊆ (Dataset.ofRows dataset rows).columnNames)
    (engine : Engine) (draws : Draws) (place : Nat) :
    HaveColumns (Dataset.ofRows dataset rows).columnNames
      (store.applyColumns engine draws dataset place others rows) := by
  apply secludes.haveColumns.of_changesOnly (List.Subset.refl _)
  apply forall₂_applyColumns
  intro other member name written
  rw [secludes.eq_of_mem_writes written]
  exact Row.changesOnly_write (within member)

/-- What is derived in the column agrees with what its chain makes of its cells alone. -/
theorem agreeOn_derive (engine : Engine) (draws others : Draws) :
    AgreeOn [column]
      ((store.pipeline dataset column).apply engine others
        (((Dataset.ofRows dataset rows).cells column).map (Row.single column)))
      ((Dataset.ofRows dataset rows).derive store engine draws) := by
  have distinct : (Dataset.ofRows dataset rows).columnNames.Nodup := by
    rw [Dataset.columnNames_ofRows]
    exact Dataset.nodup_namesOf rows
  obtain ⟨before, after, order⟩ := List.append_of_mem secludes.member
  have beforeWithin : before ⊆ (Dataset.ofRows dataset rows).columnNames := by
    rw [order]
    exact List.subset_append_left before _
  have afterWithin : after ⊆ (Dataset.ofRows dataset rows).columnNames := by
    rw [order]
    exact List.subset_append_of_subset_right before (List.subset_cons_self column after)
  rw [order, List.nodup_append, List.nodup_cons] at distinct
  obtain ⟨-, ⟨notAfter, -⟩, apart⟩ := distinct
  have notBefore : column ∉ before :=
    fun member => apart column member column List.mem_cons_self rfl
  -- The chains before leave alone what the chain needs.
  have start := secludes.agreeOn_single.trans
    (secludes.agreeOn_applyColumns beforeWithin notBefore engine draws 0 rows)
  have middle := agreeOn_apply start engine others
  -- The chain draws nothing, so that it does not matter where it would.
  have sameDraws : store.apply engine others dataset column
      (store.applyColumns engine draws dataset 0 before rows) =
        store.apply engine (draws.under (0 + before.length)) dataset column
          (store.applyColumns engine draws dataset 0 before rows) := by
    apply engine.applySteps_draws_of_haveColumns secludes.member
    · exact fun step => secludes.output_of_mem_steps
    · rw [pipeline_eq, List.forall_mem_map]
      exact secludes.deterministic
    · exact secludes.haveColumns_applyColumns beforeWithin engine draws 0
  -- The chains after write other columns.
  have rest : ∀ table, AgreeOn [column] table
      (store.applyColumns engine draws dataset (0 + before.length + 1) after table) := by
    intro table
    apply agreeOn_applyColumns_self
    intro other member name written inColumn
    rw [secludes.eq_of_mem_writes written, List.mem_singleton] at inColumn
    exact notAfter (inColumn ▸ member)
  have derived : (Dataset.ofRows dataset rows).derive store engine draws =
      store.applyColumns engine draws dataset (0 + before.length + 1) after
        (store.apply engine (draws.under (0 + before.length)) dataset column
          (store.applyColumns engine draws dataset 0 before rows)) := by
    rw [Dataset.derive, order, applyColumns_append]
    rfl
  rw [derived]
  rw [sameDraws] at middle
  exact middle.trans (rest _)

end Store.Secludes

/-- The cells that are derived in a column that keeps to itself are those that its chain makes
of the cells of the column. So they are the same in every dataset that has these cells in
such a column with the same chain. -/
theorem Store.cells_derive {store : Store} {dataset column : String} {rows : List Row}
    (secludes : store.Secludes dataset rows column) (engine : Engine)
    (draws others : Draws) :
    let data := Dataset.ofRows dataset rows
    let derived := (data.derive store engine draws).map fun row => Row.get row column
    derived =
        (store.pipeline dataset column).applyValues engine others (data.cells column) ∧
      ∀ (otherStore : Store) (otherDataset : String) (otherRows : List Row),
        otherStore.Secludes otherDataset otherRows column →
          otherStore.pipeline otherDataset column = store.pipeline dataset column →
            let other := Dataset.ofRows otherDataset otherRows
            other.cells column = data.cells column →
              (other.derive otherStore engine others).map (fun row => Row.get row column) =
                derived := by
  intro data derived
  have alone : ∀ {store : Store} {dataset : String} {rows : List Row},
      store.Secludes dataset rows column → ∀ draws others : Draws,
        ((Dataset.ofRows dataset rows).derive store engine draws).map
            (fun row => Row.get row column) =
          (store.pipeline dataset column).applyValues engine others
            ((Dataset.ofRows dataset rows).cells column) := by
    intro store dataset rows secludes draws others
    have agree := secludes.agreeOn_derive engine draws others
    exact (agree.map_eq fun rows => rows.get (List.mem_singleton.2 rfl)).symm
  refine ⟨alone secludes draws others, ?_⟩
  intro otherStore otherDataset otherRows otherSecludes sameChain other sameCells
  rw [alone otherSecludes others others, sameChain, sameCells]
  exact (alone secludes draws others).symm

/-! ## An example -/

namespace Store

/-- Rows of which each column has a chain. -/
def neighbourRows : List Row :=
  [.ofPairs [("name", .text " 7"), ("town", .text "Ulm")],
    .ofPairs [("town", .text "Bern"), ("name", .text "9 ")]]

/-- One chain keeps to itself and looks at its whole column; the other one, which runs
later, reads what the first derives. -/
def neighbourStore : Store where
  entries := [
    { sampleRecord "c" "CONCAT(town, name)" .active 1 with column := "town" },
    sampleRecord "a" "TRIM(name)" .active 1,
    sampleRecord "b" "RANK(desc)" .applied 2]
  distinct := by decide

theorem chain_neighbourStore :
    neighbourStore.chain "people" "name" =
      [sampleRecord "a" "TRIM(name)" .active 1, sampleRecord "b" "RANK(desc)" .applied 2] := by
  simp only [Store.chain]
  exact List.mergeSort_of_pairwise (by decide)

theorem columnNames_neighbourRows :
    (Dataset.ofRows "people" neighbourRows).columnNames = ["name", "town"] := by
  rw [Dataset.columnNames_ofRows]
  decide

theorem secludes_neighbourStore : neighbourStore.Secludes "people" neighbourRows "name" where
  same := by decide
  member := by
    rw [columnNames_neighbourRows]
    decide
  overwrites := by decide
  mentions := by
    rw [chain_neighbourStore, columnNames_neighbourRows]
    decide
  deterministic := by
    rw [chain_neighbourStore, columnNames_neighbourRows]
    decide

theorem cells_derive_neighbourStore :
    let data := Dataset.ofRows "people" neighbourRows
    let derived := (data.derive neighbourStore sampleEngine sampleDraws).map fun row =>
      Row.get row "name"
    neighbourStore.Secludes "people" neighbourRows "name" ∧
      derived = (neighbourStore.pipeline "people" "name").applyValues sampleEngine sampleDraws
        (data.cells "name") ∧
      ∀ (otherStore : Store) (otherDataset : String) (otherRows : List Row),
        otherStore.Secludes otherDataset otherRows "name" →
          otherStore.pipeline otherDataset "name" = neighbourStore.pipeline "people" "name" →
            let other := Dataset.ofRows otherDataset otherRows
            other.cells "name" = data.cells "name" →
              (other.derive otherStore sampleEngine sampleDraws).map
                (fun row => Row.get row "name") = derived :=
  ⟨secludes_neighbourStore,
    cells_derive secludes_neighbourStore sampleEngine sampleDraws sampleDraws⟩

end Store
end ColumnChain
