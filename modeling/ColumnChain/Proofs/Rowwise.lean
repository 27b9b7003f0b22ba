import ColumnChain.Proofs.Commitment
import ColumnChain.Proofs.Planning

/-!
# Chains that look at single rows

Where all rows have the same columns and a chain calls neither a function on whole columns
nor `GENERATE_ID`, it makes of each row what it makes of that row alone, if no step is led by
a name that an earlier step makes a column. The order of the rows then does not matter, and
rows can be dropped or added without an effect on the others.
-/

namespace ColumnChain

/-- Of rows with some columns a pipeline looks at one after the other: no step calls a
function on whole columns or draws on the random source, and no step is led by a name that an
earlier step makes a column, unless it is the column of the pipeline or one that is there. -/
structure Pipeline.IsRowwise (pipeline : Pipeline) (names : List String) : Prop where
  scalar : ∀ step ∈ pipeline.steps, ∀ entry ∈ step.callee? pipeline.column names,
    entry.isAggregate = false
  deterministic : ∀ step ∈ pipeline.steps, ∀ entry ∈ step.callee? pipeline.column names,
    entry.name ≠ "GENERATE_ID"
  settled : pipeline.steps.Pairwise fun earlier later =>
    ∀ name ∈ later.expression.lead?, earlier.output = .column name →
      name = pipeline.column ∨ name ∈ names

/-! ## One step -/

/-- Whether the names that lead some steps are columns of a row tells whether they are among
some names. The column of the chain is left open. -/
def Row.IsSettled (row : Row) (column : String) (names : List String) (steps : List Step) :
    Prop :=
  ∀ step ∈ steps, ∀ name ∈ step.expression.lead?, name ≠ column →
    row.contains name = names.contains name

theorem Row.isSettled_of_haveColumns {names : List String} {rows : List Row}
    (same : HaveColumns names rows) (column : String) (steps : List Step) :
    ∀ row ∈ rows, row.IsSettled column names steps :=
  fun _ member _ _ name _ _ => same.contains member name

/-- A plan that calls nothing random makes the same of a row wherever it draws. -/
theorem Plan.result?_token {plan : Plan}
    (ignores : ∀ entry ∈ plan.callee?, entry.evaluator.IgnoresToken)
    (engine : Engine) (left right : Token 8) (row : Row) (cell : Cell) :
    plan.result? engine left row cell = plan.result? engine right row cell := by
  cases plan with
  | identity => rfl
  | copy name => rfl
  | call entry subject parameters =>
      have same := Entry.apply_token (ignores entry rfl)
      exact congrArg some (same (engine.context right) left cell _)

namespace Engine

variable (engine : Engine) (token : Token 8) (column : String) (names : List String)

/-- What a step makes of a row by itself, planned over some columns. -/
def applyToRow (step : Step) (row : Row) : Row :=
  row.follow engine token column (step.target column)
    (Plan.ofExpression column (fun name => names.contains name) step.expression)

variable {column names} {step : Step} {steps : List Step} {rows : List Row}

/-- A step that looks at single rows makes of each what it makes of it alone. -/
theorem applyStep_eq_map (draws : Draws)
    (scalar : ∀ entry ∈ step.callee? column names, entry.isAggregate = false)
    (deterministic : ∀ entry ∈ step.callee? column names, entry.name ≠ "GENERATE_ID")
    (settled : ∀ row ∈ rows, row.IsSettled column names (step :: steps)) :
    engine.applyStep draws column step rows =
      rows.map (engine.applyToRow token column names step) := by
  by_cases empty : rows = []
  · rw [empty, applyStep_nil, List.map_nil]
  · have planned := Step.plan_eq
      (fun row member => settled row member step List.mem_cons_self) empty
    rw [engine.applyStep_eq_mapIdx draws column (by rw [planned]; exact scalar), planned]
    have ignores : ∀ entry ∈ step.callee? column names, entry.evaluator.IgnoresToken :=
      fun entry calls => Step.ignoresToken_of_callee? calls (deterministic entry calls)
    apply List.ext_getElem?
    intro place
    rw [List.getElem?_mapIdx, List.getElem?_map]
    congr 1
    funext row
    simp only [applyToRow, Row.follow]
    rw [Plan.result?_token ignores engine (draws [place]) token]

end Engine

/-- A step that makes no column that leads a later one leaves settled what was so. -/
theorem Row.IsSettled.applyToRow {row : Row} {column : String} {names : List String}
    {step : Step} {steps : List Step} (settled : row.IsSettled column names (step :: steps))
    (apart : ∀ later ∈ steps, ∀ name ∈ later.expression.lead?,
      step.output = .column name → name = column ∨ name ∈ names)
    (engine : Engine) (token : Token 8) :
    (engine.applyToRow token column names step row).IsSettled column names steps := by
  intro later member name leads foreign
  have before := settled later (List.mem_cons_of_mem step member) name leads foreign
  simp only [Engine.applyToRow, Row.follow]
  generalize Plan.result? engine token row _ _ = result
  cases result with
  | none => exact before
  | some cell =>
      rw [← before]
      simp only [Row.take, Row.contains_eq_isSome_get?]
      by_cases written : step.target column = name
      · -- What is written and leads a later step was a column already.
        have inNames : name ∈ names := by
          cases output : step.output with
          | overwrite =>
              rw [Step.target, output] at written
              exact absurd written.symm foreign
          | column other =>
              rw [Step.target, output] at written
              subst written
              exact (apart later member _ leads output).resolve_left foreign
        have there : (Row.get? row name).isSome = true := by
          rw [← Row.contains_eq_isSome_get?, before, List.contains_iff_mem]
          exact inNames
        have notNone : (Row.get? row name).isNone = false := by
          rw [Option.isNone_eq_false_iff]
          exact there
        rw [written, Row.get?_write_self, notNone, there]
        simp
      · rw [Row.get?_write_of_ne written]

/-! ## Chains -/

namespace Engine

variable (engine : Engine) (token : Token 8) {column : String} {names : List String}
  {steps : List Step}

/-- A chain that looks at single rows makes of each what it makes of it alone. -/
theorem applySteps_eq_map
    (scalar : ∀ step ∈ steps, ∀ entry ∈ step.callee? column names,
      entry.isAggregate = false)
    (deterministic : ∀ step ∈ steps, ∀ entry ∈ step.callee? column names,
      entry.name ≠ "GENERATE_ID")
    (apart : steps.Pairwise fun earlier later => ∀ name ∈ later.expression.lead?,
      earlier.output = .column name → name = column ∨ name ∈ names)
    (draws : Draws) (place : Nat) {rows : List Row}
    (settled : ∀ row ∈ rows, row.IsSettled column names steps) :
    engine.applySteps draws column place steps rows =
      rows.map fun row =>
        steps.foldl (fun row step => engine.applyToRow token column names step row) row := by
  induction steps generalizing place rows with
  | nil => simp [applySteps]
  | cons step steps ih =>
      simp only [List.mem_cons, forall_eq_or_imp] at scalar deterministic
      rw [List.pairwise_cons] at apart
      have first := engine.applyStep_eq_map token (draws.under place) scalar.1
        deterministic.1 settled
      have stillSettled : ∀ row ∈ rows.map (engine.applyToRow token column names step),
          row.IsSettled column names steps := by
        intro row member
        obtain ⟨source, sourceMember, rfl⟩ := List.mem_map.1 member
        exact (settled source sourceMember).applyToRow apart.1 engine token
      rw [applySteps, first, ih scalar.2 deterministic.2 apart.2 (place + 1) stillSettled,
        List.map_map]
      rfl

end Engine

namespace Pipeline

variable {pipeline : Pipeline} {names : List String} {rows : List Row}

/-- What a pipeline makes of a row by itself. -/
def applyToRow (pipeline : Pipeline) (engine : Engine) (names : List String) (row : Row) :
    Row :=
  pipeline.steps.foldl
    (fun row step => engine.applyToRow (fun _ => 0) pipeline.column names step row) row

theorem apply_eq_map (rowwise : pipeline.IsRowwise names) (same : HaveColumns names rows)
    (engine : Engine) (draws : Draws) :
    pipeline.apply engine draws rows = rows.map (pipeline.applyToRow engine names) :=
  engine.applySteps_eq_map (fun _ => 0) rowwise.scalar rowwise.deterministic rowwise.settled
    draws 0 (Row.isSettled_of_haveColumns same pipeline.column pipeline.steps)

/-- Each row of what is derived comes from its own source row alone. So the rows at some
places, taken in any order, are derived as they are among all the others, and rows that are
put together are derived as they are apart. -/
theorem apply_rowwise (rowwise : pipeline.IsRowwise names) (same : HaveColumns names rows)
    (engine : Engine) (draws others : Draws) :
    (∀ (place : Nat) (row : Row), rows[place]? = some row → ∃ derived,
        pipeline.apply engine others [row] = [derived] ∧
          (pipeline.apply engine draws rows)[place]? = some derived) ∧
      (∀ places : List Nat,
        pipeline.apply engine others (places.filterMap fun place => rows[place]?) =
          places.filterMap fun place => (pipeline.apply engine draws rows)[place]?) ∧
      ∀ first second, rows = first ++ second →
        pipeline.apply engine draws rows =
          pipeline.apply engine others first ++ pipeline.apply engine others second := by
  have fewer : ∀ part : List Row, part ⊆ rows →
      pipeline.apply engine others part = part.map (pipeline.applyToRow engine names) :=
    fun part within =>
      apply_eq_map rowwise (fun row member => same row (within member)) engine others
  have whole := apply_eq_map rowwise same engine draws
  refine ⟨?_, ?_, ?_⟩
  · intro place row here
    refine ⟨pipeline.applyToRow engine names row, ?_, ?_⟩
    · exact fewer [row] (List.cons_subset.2 ⟨List.mem_of_getElem? here, List.nil_subset rows⟩)
    · rw [whole, List.getElem?_map, here]
      rfl
  · intro places
    have within : (places.filterMap fun place : Nat => rows[place]?) ⊆ rows := by
      intro row member
      obtain ⟨place, -, here⟩ := List.mem_filterMap.1 member
      exact List.mem_of_getElem? here
    rw [fewer _ within, whole, List.map_filterMap]
    simp only [List.getElem?_map]
  · rintro first second rfl
    rw [whole, List.map_append, fewer first (List.subset_append_left first second),
      fewer second (List.subset_append_right first second)]

/-! ## An example -/

/-- A chain that makes a new column, which may be left out of some rows, and then reads it as
a parameter. -/
def signing : Pipeline where
  column := "name"
  steps := [
    Step.read "LEFT(name, 1)" (.column "short"),
    Step.read "CONCAT(town, \", \", short)" .overwrite,
    Step.read "name" .overwrite,
    Step.read "town" (.column "name")]

/-- Rows with the same columns, though not in the same order. -/
def townRows : List Row :=
  [.ofPairs [("name", .null), ("town", .text "Ulm")],
    .ofPairs [("town", .text "Bern"), ("name", .text "Ada")]]

theorem isRowwise_signing : signing.IsRowwise ["name", "town"] where
  scalar := by decide
  deterministic := by decide
  settled := by decide

theorem haveColumns_townRows : HaveColumns ["name", "town"] townRows := by
  have same : ∀ row ∈ townRows, row.keys.Perm ["name", "town"] := by decide
  exact fun row member _ => (same row member).mem_iff

theorem apply_rowwise_signing :
    let run := signing.apply Store.sampleEngine Store.sampleDraws
    signing.IsRowwise ["name", "town"] ∧ HaveColumns ["name", "town"] townRows ∧
      (∀ (place : Nat) (row : Row), townRows[place]? = some row →
        ∃ derived, run [row] = [derived] ∧ (run townRows)[place]? = some derived) ∧
      (∀ places : List Nat,
        run (places.filterMap fun place => townRows[place]?) =
          places.filterMap fun place => (run townRows)[place]?) ∧
      ∀ first second, townRows = first ++ second →
        run townRows = run first ++ run second :=
  ⟨isRowwise_signing, haveColumns_townRows,
    apply_rowwise isRowwise_signing haveColumns_townRows Store.sampleEngine
      Store.sampleDraws Store.sampleDraws⟩

end Pipeline
end ColumnChain
