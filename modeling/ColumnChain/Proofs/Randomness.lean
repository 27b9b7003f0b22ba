import ColumnChain.Pipeline

/-!
# What draws on the random source

Of the functions in the catalogue only `GENERATE_ID` looks at what the random source
yields. A chain that never calls it makes the same rows whatever the source yields and
wherever its steps draw.
-/

namespace ColumnChain

/-- The answers do not depend on what the random source yields. Statistics never look
at it. -/
def Evaluator.IgnoresToken : Evaluator → Prop
  | .scalar run => ∀ (context : Function.Context) (token : Token 8) (cell : Cell)
      (args : List Cell), run { context with token } cell args = run context cell args
  | .aggregate _ => True

/-! ## The catalogue -/

namespace Catalog

/-- The functions marked as deterministic are so. -/
theorem ignoresToken_of_mem :
    ∀ entry ∈ entries, entry.deterministic = true → entry.evaluator.IgnoresToken := by
  simp only [entries, textEntries, arithmeticEntries, dateEntries, choiceEntries,
    columnEntries, List.forall_mem_append, List.forall_mem_cons, List.not_mem_nil,
    false_imp_iff, implies_true, and_true, scalar, aggregate, variadically, randomly,
    Evaluator.IgnoresToken, Bool.false_eq_true, true_and, true_imp_iff]
  and_intros <;> (intros; rfl)

/-- The functions marked as deterministic are all but `GENERATE_ID`. -/
theorem deterministic_eq_true_iff {entry : Entry} (member : entry ∈ entries) :
    entry.deterministic = true ↔ entry.name ≠ "GENERATE_ID" := by
  have check : ∀ entry ∈ entries,
      entry.deterministic = true ↔ entry.name ≠ "GENERATE_ID" := by
    decide
  exact check entry member

theorem mem_of_find? {name : String} {entry : Entry} (found : find? name = some entry) :
    entry ∈ entries := by
  rw [find?] at found
  exact List.mem_of_find?_eq_some found

end Catalog

/-! ## Expressions and steps -/

/-- The function an expression may call. Whether a bare name does depends on the columns
there are. -/
def Expression.callee? : Expression → Option Entry
  | .call invocation => Catalog.find? invocation.function
  | .bare name => Catalog.find? name
  | .opaqueText _ => none

/-- Whether the expression of a step cannot call `GENERATE_ID`. -/
def Step.isDeterministic (step : Step) : Bool :=
  step.expression.callee?.all Entry.deterministic

theorem Expression.mem_of_callee? {expression : Expression} {entry : Entry}
    (names : expression.callee? = some entry) : entry ∈ Catalog.entries := by
  cases expression with
  | call invocation =>
      rw [callee?] at names
      exact Catalog.mem_of_find? names
  | bare name =>
      rw [callee?] at names
      exact Catalog.mem_of_find? names
  | opaqueText text => simp [callee?] at names

theorem Step.isDeterministic_iff (step : Step) :
    step.isDeterministic = true ↔
      ∀ entry, step.expression.callee? = some entry → entry.name ≠ "GENERATE_ID" := by
  rw [isDeterministic, Option.all_eq_true]
  constructor
  · intro all entry names
    exact (Catalog.deterministic_eq_true_iff (Expression.mem_of_callee? names)).1
      (all entry names)
  · intro all entry names
    exact (Catalog.deterministic_eq_true_iff (Expression.mem_of_callee? names)).2
      (all entry names)

/-- The expressions that are planned as calls: the calls and bare names of functions. -/
theorem Plan.cases_of_ofExpression {column : String} {isColumn : String → Bool}
    {expression : Expression} {entry : Entry} {subject : Option String}
    {parameters : List Argument}
    (plan : ofExpression column isColumn expression = call entry subject parameters) :
    (∃ invocation accepts, expression = .call invocation ∧
        Catalog.find? invocation.function = some entry ∧
        invocation.splitSubject accepts = (subject, parameters)) ∨
      ∃ name, expression = .bare name ∧ Catalog.find? name = some entry ∧ subject = none ∧
        parameters = [] := by
  cases expression with
  | opaqueText text => simp [ofExpression] at plan
  | call invocation =>
      simp only [ofExpression] at plan
      split at plan
      next => cases plan
      next found =>
        cases plan
        exact Or.inl ⟨invocation, _, rfl, found, rfl⟩
  | bare name =>
      simp only [ofExpression] at plan
      split at plan
      next => cases plan
      next =>
        split at plan
        next => cases plan
        next =>
          split at plan
          next found =>
            cases plan
            exact Or.inr ⟨name, rfl, found, rfl, rfl⟩
          next => cases plan

/-- A plan calls only the function of its expression. -/
theorem Plan.callee?_of_ofExpression {column : String} {isColumn : String → Bool}
    {expression : Expression} {entry : Entry} {subject : Option String}
    {parameters : List Argument}
    (plan : ofExpression column isColumn expression = call entry subject parameters) :
    expression.callee? = some entry := by
  rcases cases_of_ofExpression plan with
    ⟨invocation, accepts, rfl, found, -⟩ | ⟨name, rfl, found, -⟩
  · exact found
  · exact found

theorem Entry.apply_token {entry : Entry} (ignores : entry.evaluator.IgnoresToken)
    (context : Function.Context) (token : Token 8) (cell : Cell) (args : List Cell) :
    entry.apply { context with token } cell args = entry.apply context cell args := by
  simp only [Entry.apply]
  split
  next run scalar =>
    rw [scalar] at ignores
    rw [ignores context token]
  next => rfl

/-! ## Chains -/

namespace Engine

variable (engine : Engine) (column : String)

/-- A plan that calls nothing random has the same results wherever it draws. -/
theorem results?_draws {plan : Plan}
    (ignores : ∀ entry subject parameters, plan = .call entry subject parameters →
      entry.evaluator.IgnoresToken)
    (left right : Draws) (rows : List Row) :
    engine.results? left column rows plan = engine.results? right column rows plan := by
  cases plan with
  | identity => rfl
  | copy name => rfl
  | call entry subject parameters =>
      have same := Entry.apply_token (ignores entry subject parameters rfl)
      simp only [results?]
      split
      next => rfl
      next =>
        congr 2
        funext place row
        exact same (engine.context (right [place])) (left [place]) _ _

theorem applyStep_draws {step : Step} (deterministic : step.isDeterministic = true)
    (left right : Draws) (rows : List Row) :
    engine.applyStep left column step rows = engine.applyStep right column step rows := by
  have ignores : ∀ entry subject parameters,
      step.plan column rows = .call entry subject parameters →
        entry.evaluator.IgnoresToken := by
    intro entry subject parameters plan
    have names := Plan.callee?_of_ofExpression plan
    rw [Step.isDeterministic, names] at deterministic
    exact Catalog.ignoresToken_of_mem entry (Expression.mem_of_callee? names) deterministic
  simp only [applyStep, engine.results?_draws column ignores left right]

/-- A chain that calls nothing random makes the same rows wherever its steps draw. -/
theorem applySteps_draws {steps : List Step}
    (deterministic : ∀ step ∈ steps, step.isDeterministic = true) (left right : Draws)
    (leftPlace rightPlace : Nat) (rows : List Row) :
    engine.applySteps left column leftPlace steps rows =
      engine.applySteps right column rightPlace steps rows := by
  induction steps generalizing leftPlace rightPlace rows with
  | nil => rfl
  | cons step steps ih =>
      simp only [List.mem_cons, forall_eq_or_imp] at deterministic
      simp only [applySteps]
      rw [engine.applyStep_draws column deterministic.1 _ (right.under rightPlace)]
      exact ih deterministic.2 (leftPlace + 1) (rightPlace + 1) _

end Engine
end ColumnChain
