import ColumnChain.Proofs.Locality
import ColumnChain.Proofs.Randomness

/-!
# What plans start from

A step is planned once for all rows, by the columns of the first of them. The plan depends
on a single name of the expression, the one that leads it: whether that is a column of the
first row decides whether it is read, handed to the function or called. A plan that calls no
statistic works on each row by itself: it starts from one cell of the row and makes its
result of that.

So a step that names a column reads it in every row that has it where the first row has it,
and in no row otherwise.
-/

namespace ColumnChain

/-- The function that a plan calls. -/
def Plan.callee? : Plan → Option Entry
  | .identity => none
  | .copy _ => none
  | .call entry _ _ => some entry

/-- A plan calls nothing, or the function of its expression. -/
theorem Plan.expression_callee?_of_callee? {column : String} {isColumn : String → Bool}
    {expression : Expression} {entry : Entry}
    (calls : (ofExpression column isColumn expression).callee? = some entry) :
    expression.callee? = some entry := by
  cases planned : ofExpression column isColumn expression with
  | identity =>
      rw [planned] at calls
      cases calls
  | copy name =>
      rw [planned] at calls
      cases calls
  | call other subject parameters =>
      rw [planned] at calls
      cases calls
      exact callee?_of_ofExpression planned

/-! ## Rows with the same columns -/

/-- The rows have these columns, all of them and no others. -/
def HaveColumns (names : List String) (rows : List Row) : Prop :=
  ∀ row ∈ rows, ∀ name, name ∈ row.keys ↔ name ∈ names

theorem HaveColumns.contains {names : List String} {rows : List Row}
    (same : HaveColumns names rows) {row : Row} (member : row ∈ rows) (name : String) :
    row.contains name = names.contains name := by
  rw [Bool.eq_iff_iff, Keyed.contains_eq_true_iff, List.contains_iff_mem]
  exact same row member name

namespace Step

/-- The function that a step calls in the chain of a column, over rows with some columns. -/
def callee? (step : Step) (column : String) (names : List String) : Option Entry :=
  (Plan.ofExpression column (fun name => names.contains name) step.expression).callee?

theorem expression_callee?_of_callee? {step : Step} {column : String} {names : List String}
    {entry : Entry} (calls : entry ∈ step.callee? column names) :
    step.expression.callee? = some entry :=
  Plan.expression_callee?_of_callee? calls

/-- A function that is not `GENERATE_ID` draws nothing. -/
theorem ignoresToken_of_callee? {step : Step} {column : String} {names : List String}
    {entry : Entry} (calls : entry ∈ step.callee? column names)
    (other : entry.name ≠ "GENERATE_ID") : entry.evaluator.IgnoresToken := by
  have member := Expression.mem_of_callee? (expression_callee?_of_callee? calls)
  exact Catalog.ignoresToken_of_mem entry member
    ((Catalog.deterministic_eq_true_iff member).2 other)

/-- The plan of a step is that over some columns where the leading name is a column of the
first row when it is one of them. -/
theorem plan_eq {step : Step} {column : String} {names : List String} {rows : List Row}
    (settled : ∀ row ∈ rows, ∀ name ∈ step.expression.lead?, name ≠ column →
      row.contains name = names.contains name) (filled : rows ≠ []) :
    step.plan column rows =
      Plan.ofExpression column (fun name => names.contains name) step.expression := by
  obtain ⟨first, rest, rfl⟩ := List.exists_cons_of_ne_nil filled
  exact Plan.ofExpression_eq_of_lead (settled first List.mem_cons_self)

end Step

/-! ## Rows by themselves -/

namespace Plan

/-- The cell of a row that a plan starts from. -/
def start (row : Row) (column : String) : Plan → Cell
  | .identity => Row.get row column
  | .copy name => Row.get row name
  | .call _ subject _ => row.input column subject

/-- What a plan makes of the cell that it starts from, unless it changes nothing. -/
def result? (engine : Engine) (token : Token 8) (row : Row) (cell : Cell) :
    Plan → Option Cell
  | .identity => none
  | .copy _ => some cell
  | .call entry _ parameters =>
      some (entry.apply (engine.context token) cell (parameters.map (Argument.resolve row)))

end Plan

namespace Row

/-- Take over a result, if there is one. -/
def take (row : Row) (target : String) : Option Cell → Row
  | none => row
  | some cell => row.write target cell

/-- What a plan makes of a row that it is taken on by itself. -/
def follow (row : Row) (engine : Engine) (token : Token 8) (column target : String)
    (plan : Plan) : Row :=
  row.take target (plan.result? engine token row (plan.start row column))

end Row

namespace Engine

variable (engine : Engine) (draws : Draws) (column : String)

/-- A step that calls no statistic takes its plan on every row by itself. -/
theorem applyStep_eq_mapIdx {step : Step} {rows : List Row}
    (scalar : ∀ entry ∈ (step.plan column rows).callee?, entry.isAggregate = false) :
    engine.applyStep draws column step rows = rows.mapIdx fun place row =>
      row.follow engine (draws [place]) column (step.target column)
        (step.plan column rows) := by
  apply List.ext_getElem?
  intro place
  simp only [applyStep]
  cases planned : step.plan column rows with
  | identity =>
      cases here : rows[place]? <;>
        simp [results?, here, Row.follow, Row.take, Plan.result?]
  | copy name =>
      cases here : rows[place]? <;>
        simp [results?, List.getElem?_zipWith, here, Row.follow, Row.take, Plan.result?,
          Plan.start, Step.target]
  | call entry subject parameters =>
      have single : entry.isAggregate = false := scalar entry (by rw [planned]; rfl)
      cases here : rows[place]? <;>
        simp [results?, single, mapShared_eq, List.getElem?_zipWith, here, Row.follow,
          Row.take, Plan.result?, Plan.start, Step.target]

end Engine

/-! ## Steps that name a column -/

/-- An expression that names a column to read: the bare name, or a call with the name in
the first place, of a function on single cells that has a use for all arguments as
parameters. -/
inductive Expression.Names (name : String) : Expression → Prop
  | bare : Names name (.bare name)
  | call {function : String} {rest : List Argument} {entry : Entry}
      (found : Catalog.find? function = some entry) (fixed : entry.variadic = false)
      (scalar : entry.isAggregate = false) (few : rest.length < entry.parameters.length) :
      Names name (.call ⟨function, .column name :: rest⟩)

namespace Step

variable {step : Step} {column name : String} {first row : Row} {rest : List Row}

theorem plan_cons (step : Step) (column : String) (first : Row) (rest : List Row) :
    step.plan column (first :: rest) =
      Plan.ofExpression column (fun name => first.contains name) step.expression := rfl

/-- In a row that has the column that a step names, the step starts from that column if the
first row has it, too, and from the column of the chain if not. -/
theorem start_of_names (names : step.expression.Names name) (different : name ≠ column)
    (has : row.contains name = true) :
    (step.plan column (first :: rest)).start row column =
      if first.contains name then Row.get row name else Row.get row column := by
  rw [plan_cons]
  obtain ⟨expression, output⟩ := step
  cases names with
  | bare =>
      simp only [Plan.ofExpression, if_neg different]
      split
      next => rfl
      next => split <;> rfl
  | @call function args entry found fixed scalar few =>
      have noSpare : Plan.hasSpare entry (.column name :: args) = false := by
        simp only [Plan.hasSpare, fixed, List.length_cons, Bool.not_false, Bool.true_and,
          decide_eq_false_iff_not]
        omega
      have foreign : (name == column) = false := beq_false_of_ne different
      simp only [Plan.ofExpression, found, Call.splitSubject, noSpare, foreign,
        Bool.false_or, Bool.or_false]
      split
      next =>
        rw [Row.contains_eq_isSome_get?] at has
        obtain ⟨cell, here⟩ := Option.isSome_iff_exists.1 has
        simp [Plan.start, Row.input, Row.get, here]
      next => rfl

/-- A step starts from the column that it names in every row that has it, exactly where the
first row has it or where the column of the chain has the same cells. -/
theorem starts_from_named_iff (names : step.expression.Names name)
    (different : name ≠ column) :
    (∀ row ∈ first :: rest, row.contains name = true →
        (step.plan column (first :: rest)).start row column = Row.get row name) ↔
      first.contains name = true ∨
        ∀ row ∈ rest, row.contains name = true → Row.get row column = Row.get row name := by
  constructor
  · intro starts
    by_cases has : first.contains name = true
    · exact Or.inl has
    · refine Or.inr fun row member present => ?_
      rw [← starts row (List.mem_cons_of_mem first member) present,
        start_of_names names different present, if_neg has]
  · rintro (has | same) row member present
    · rw [start_of_names names different present, if_pos has]
    · rw [start_of_names names different present]
      split
      next => rfl
      next absent =>
        rcases List.mem_cons.1 member with rfl | later
        · exact absurd present absent
        · exact same row later present

end Step

/-! ## An example -/

/-- A row in which a chain has made a new column. -/
def filledRow : Row :=
  .ofPairs [("name", .text "Ada"), ("short", .text "A")]

/-- A row in which the new column would have been empty and was not made. -/
def emptyRow : Row :=
  .single "name" .null

theorem names_left_short :
    (Step.read "LEFT(short)" .overwrite).expression.Names "short" := by
  have reads : (Step.read "LEFT(short)" .overwrite).expression =
      .call ⟨"LEFT", [.column "short"]⟩ := by
    decide
  have found : Catalog.find? "LEFT" = some (Catalog.scalar .text "LEFT"
      [Catalog.optional "length" "1"] "First n characters" Function.left) := rfl
  rw [reads]
  exact .call found rfl rfl (by decide)

theorem names_short : (Step.read "short" .overwrite).expression.Names "short" := by
  have reads : (Step.read "short" .overwrite).expression = .bare "short" := by decide
  rw [reads]
  exact .bare

/-- Where a row that has the column comes first, the column is read. -/
theorem starts_from_short :
    (Step.read "LEFT(short)" .overwrite).expression.Names "short" ∧ "short" ≠ "name" ∧
      ∀ row ∈ [filledRow, emptyRow], row.contains "short" = true →
        ((Step.read "LEFT(short)" .overwrite).plan "name" [filledRow, emptyRow]).start row
          "name" = Row.get row "short" :=
  ⟨names_left_short, by decide,
    (Step.starts_from_named_iff names_left_short (by decide)).2 (Or.inl (by decide))⟩

/-- Where a row without the column comes first, the column is not read: a step may start
from another cell of a row that has it, so that the order of the rows decides what the step
makes of them. -/
theorem starts_elsewhere :
    (¬ ∀ (column name : String) (rows : List Row) (step : Step),
      step.expression.Names name → name ≠ column →
        (∃ row ∈ rows, row.contains name = true) →
          ∀ row ∈ rows, row.contains name = true →
            (step.plan column rows).start row column = Row.get row name) ∧
      ∀ (engine : Engine) (draws : Draws),
        (Pipeline.apply ⟨"name", [Step.read "short" .overwrite]⟩ engine draws
            [emptyRow, filledRow]).map (fun row => Row.get row "name") =
          [.null, .text "Ada"] ∧
        (Pipeline.apply ⟨"name", [Step.read "short" .overwrite]⟩ engine draws
            [filledRow, emptyRow]).map (fun row => Row.get row "name") =
          [.text "A", .null] := by
  constructor
  · intro starts
    have member : filledRow ∈ [emptyRow, filledRow] := by simp
    have read := starts "name" "short" [emptyRow, filledRow] (Step.read "short" .overwrite)
      names_short (by decide) ⟨filledRow, member, by decide⟩ filledRow member (by decide)
    exact absurd read (by decide)
  · intro engine draws
    exact ⟨rfl, rfl⟩

end ColumnChain
