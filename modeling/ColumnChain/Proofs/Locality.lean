import ColumnChain.Proofs.Keeping
import ColumnChain.Proofs.Keyed

/-!
# What a step reads and writes

A step reads the column of its chain and the columns its expression mentions, and it
writes one column. So a chain makes the same of rows that agree on these columns, and
leaves every column alone that none of its steps writes. What some columns depend on
after a chain is collected from the last step back to the first.
-/

namespace ColumnChain

/-! ## Rows -/

namespace Row

theorem get?_set (row : Row) (target name : String) (cell : Cell) :
    Row.get? (Row.set row target cell) name =
      if target = name then some cell else Row.get? row name := by
  simp only [Row.get?, Row.set, Keyed.find?_put]
  split <;> rfl

theorem get?_single (column name : String) (cell : Cell) :
    Row.get? (Row.single column cell) name = if column = name then some cell else none := by
  by_cases same : column = name <;> simp [Row.get?, Row.single, Keyed.find?, same]

theorem contains_eq_isSome_get? (row : Row) (name : String) :
    row.contains name = (Row.get? row name).isSome := by
  rw [Bool.eq_iff_iff]
  simp [Row.get?, Keyed.find?, Keyed.contains]

/-- Writing leaves the other columns alone. -/
theorem get?_write_of_ne {target name : String} (different : target ≠ name) (row : Row)
    (cell : Cell) : Row.get? (row.write target cell) name = Row.get? row name := by
  simp only [Row.write]
  split
  next => rfl
  next => rw [get?_set, if_neg different]

theorem get?_write_self (row : Row) (target : String) (cell : Cell) :
    Row.get? (row.write target cell) target =
      if cell.isNull && (Row.get? row target).isNone then none else some cell := by
  rw [Row.write, contains_eq_isSome_get?]
  cases present : Row.get? row target <;> cases cell.isNull <;> simp [present, get?_set]

/-- Two rows have the same cells in some columns, or neither of them has the column. -/
def AgreeOn (names : List String) (left right : Row) : Prop :=
  ∀ name ∈ names, Row.get? left name = Row.get? right name

namespace AgreeOn

variable {names : List String} {left right : Row}

instance : Std.Refl (AgreeOn names) where
  refl _ _ _ := rfl

instance : IsTrans Row (AgreeOn names) where
  trans _ _ _ first second name member := (first name member).trans (second name member)

theorem get (agree : left.AgreeOn names right) {name : String} (member : name ∈ names) :
    Row.get left name = Row.get right name := by
  rw [Row.get, Row.get, agree name member]

theorem contains (agree : left.AgreeOn names right) {name : String} (member : name ∈ names) :
    Keyed.contains left name = Keyed.contains right name := by
  rw [contains_eq_isSome_get?, contains_eq_isSome_get?, agree name member]

theorem write (agree : left.AgreeOn names right) (target : String) (cell : Cell) :
    (left.write target cell).AgreeOn names (right.write target cell) := by
  intro name member
  by_cases same : target = name
  · subst same
    rw [get?_write_self, get?_write_self, agree target member]
  · rw [get?_write_of_ne same, get?_write_of_ne same, agree name member]

end AgreeOn

/-- Writing a column that is not among some columns leaves these alone. -/
theorem agreeOn_write {names : List String} {target : String} (outside : target ∉ names)
    (row : Row) (cell : Cell) : row.AgreeOn names (row.write target cell) := by
  intro name member
  have different : target ≠ name := fun same => outside (same ▸ member)
  rw [get?_write_of_ne different]

end Row
/-! ## What is read -/

/-- The column an argument can stand for. -/
def Argument.name? : Argument → Option String
  | .column name => some name
  | .text _ | .number _ => none

/-- The columns that an expression can read besides that of its chain. -/
def Expression.mentions : Expression → List String
  | .call invocation => invocation.args.filterMap Argument.name?
  | .bare name => [name]
  | .opaqueText _ => []

namespace Expression

/-- The name that leads an expression: the bare name, or the token in the first place of a
call. -/
def lead? : Expression → Option String
  | .call ⟨_, .column name :: _⟩ => some name
  | .call _ => none
  | .bare name => some name
  | .opaqueText _ => none

theorem mem_mentions_of_lead? {expression : Expression} {name : String}
    (leads : name ∈ expression.lead?) : name ∈ expression.mentions := by
  cases expression with
  | call invocation =>
      obtain ⟨function, args⟩ := invocation
      cases args with
      | nil => cases leads
      | cons argument rest =>
          cases argument with
          | column other =>
              simp only [lead?, Option.mem_some_iff] at leads
              simp [mentions, Argument.name?, leads]
          | text value => cases leads
          | number value => cases leads
  | bare other =>
      simp only [lead?, Option.mem_some_iff] at leads
      simp [mentions, leads]
  | opaqueText text => cases leads

end Expression

theorem Argument.resolve_eq_of_agreeOn {names : List String} {left right : Row}
    (agree : left.AgreeOn names right) {argument : Argument}
    (within : ∀ name, argument.name? = some name → name ∈ names) :
    argument.resolve left = argument.resolve right := by
  cases argument with
  | text value => rfl
  | number value => rfl
  | column name => rw [resolve, resolve, agree name (within name rfl)]

theorem Row.AgreeOn.input {names : List String} {left right : Row}
    (agree : left.AgreeOn names right) {column : String} (member : column ∈ names)
    {subject : Option String} (within : ∀ name, subject = some name → name ∈ names) :
    left.input column subject = right.input column subject := by
  cases subject with
  | none => exact agree.get member
  | some name =>
      simp only [Row.input]
      rw [agree name (within name rfl), agree.get member]

namespace Plan

/-- The columns that a plan reads besides that of the chain. -/
def reads : Plan → List String
  | .identity => []
  | .copy name => [name]
  | .call _ subject parameters => subject.toList ++ parameters.filterMap Argument.name?

/-- A subject and parameters are among the arguments. -/
theorem reads_splitSubject (entry : Entry) (invocation : Call) (accepts : String → Bool) :
    reads (.call entry (invocation.splitSubject accepts).1
        (invocation.splitSubject accepts).2) =
      invocation.args.filterMap Argument.name? := by
  simp only [Call.splitSubject]
  split
  next name rest arguments =>
    split <;> simp [reads, arguments, Argument.name?]
  next => simp [reads]

/-- A plan reads no more than its expression mentions. -/
theorem reads_ofExpression (column : String) (isColumn : String → Bool)
    (expression : Expression) :
    (ofExpression column isColumn expression).reads ⊆ expression.mentions := by
  cases expression with
  | opaqueText text => simp [ofExpression, reads]
  | call invocation =>
      simp only [ofExpression]
      split
      next => simp [reads]
      next entry found =>
        rw [reads_splitSubject]
        exact List.Subset.refl _
  | bare name =>
      simp only [ofExpression]
      split
      next => simp [reads]
      next =>
        split
        next => simp [reads, Expression.mentions]
        next => split <;> simp [reads]

/-- Only a name that leads a call can be accepted as its subject. -/
theorem splitSubject_eq_of_lead {invocation : Call} {left right : String → Bool}
    (same : ∀ name ∈ Expression.lead? (.call invocation), left name = right name) :
    invocation.splitSubject left = invocation.splitSubject right := by
  obtain ⟨function, args⟩ := invocation
  cases args with
  | nil => rfl
  | cons argument rest =>
      cases argument with
      | column name => simp only [Call.splitSubject, same name rfl]
      | text value => rfl
      | number value => rfl

/-- Which plan an expression has depends only on whether its leading name is a column, and
that only where the name is not the column of the chain. -/
theorem ofExpression_eq_of_lead {column : String} {left right : String → Bool}
    {expression : Expression}
    (same : ∀ name ∈ expression.lead?, name ≠ column → left name = right name) :
    ofExpression column left expression = ofExpression column right expression := by
  cases expression with
  | opaqueText text => rfl
  | call invocation =>
      simp only [ofExpression]
      split
      next => rfl
      next entry found =>
        have subjects :
            (invocation.splitSubject fun name =>
              name == column || left name || hasSpare entry invocation.args) =
            invocation.splitSubject fun name =>
              name == column || right name || hasSpare entry invocation.args := by
          apply splitSubject_eq_of_lead
          intro name leads
          by_cases own : name = column
          · simp [own]
          · rw [same name leads own]
        rw [subjects]
  | bare name =>
      simp only [ofExpression]
      by_cases own : name = column
      · rw [if_pos own, if_pos own]
      · rw [same name rfl own]

end Plan

/-! ## Tables that agree -/

/-- Two tables have as many rows, and the rows agree in some columns, one by one. -/
abbrev AgreeOn (names : List String) (left right : List Row) : Prop :=
  List.Forall₂ (Row.AgreeOn names) left right

namespace AgreeOn

variable {names : List String} {left middle right : List Row}

theorem refl (rows : List Row) : AgreeOn names rows rows :=
  List.forall₂_refl rows

theorem trans (first : AgreeOn names left middle) (second : AgreeOn names middle right) :
    AgreeOn names left right :=
  forall₂_trans first second

theorem symm (agree : AgreeOn names left right) : AgreeOn names right left :=
  agree.flip.imp fun _ _ rows name member => (rows name member).symm

theorem mono {fewer : List String} (agree : AgreeOn names left right)
    (within : fewer ⊆ names) : AgreeOn fewer left right :=
  agree.imp fun _ _ rows name member => rows name (within member)

theorem getElem? (agree : AgreeOn names left right) {place : Nat} {row : Row}
    (here : left[place]? = some row) :
    ∃ other, right[place]? = some other ∧ row.AgreeOn names other := by
  obtain ⟨inside, rfl⟩ := List.getElem?_eq_some_iff.1 here
  have alsoInside : place < right.length := by
    rw [← agree.length_eq]
    exact inside
  exact ⟨right[place], List.getElem?_eq_getElem alsoInside, agree.get inside alsoInside⟩

/-- What is made of each row alike is the same for both tables. -/
theorem map_eq {β : Type} (agree : AgreeOn names left right) {f : Row → β}
    (alike : ∀ {row other : Row}, row.AgreeOn names other → f row = f other) :
    left.map f = right.map f := by
  induction agree with
  | nil => rfl
  | cons row _ ih => rw [List.map_cons, List.map_cons, alike row, ih]

theorem map_zipIdx_eq {β : Type} (agree : AgreeOn names left right) {f : Nat → Row → β}
    (alike : ∀ place {row other : Row}, row.AgreeOn names other → f place row = f place other)
    (start : Nat) :
    (left.zipIdx start).map (fun (row, place) => f place row) =
      (right.zipIdx start).map fun (row, place) => f place row := by
  induction agree generalizing start with
  | nil => rfl
  | cons row _ ih =>
      simp only [List.zipIdx_cons, List.map_cons, alike start row, ih (start + 1)]

theorem write (agree : AgreeOn names left right) (target : String) (cells : List Cell) :
    AgreeOn names (List.zipWith (fun row cell => row.write target cell) left cells)
      (List.zipWith (fun row cell => row.write target cell) right cells) := by
  induction agree generalizing cells with
  | nil => exact .nil
  | cons row _ ih =>
      cases cells with
      | nil => exact .nil
      | cons cell cells => exact .cons (row.write target cell) (ih cells)

/-- Two tables that agree give a plan of a step the same first row. -/
theorem head?_contains (agree : AgreeOn names left right) {name : String}
    (member : name ∈ names) :
    (left.head?.any fun row => row.contains name) =
      right.head?.any fun row => row.contains name := by
  cases agree with
  | nil => rfl
  | cons row _ => exact row.contains member

end AgreeOn

/-! ## Steps and chains -/

/-- What some columns after a step depend on: themselves and, where the step writes one of
them, all that it reads. -/
def Step.needs (step : Step) (column : String) (wanted : List String) : List String :=
  if step.target column ∈ wanted then column :: (step.expression.mentions ++ wanted)
  else wanted

/-- What some columns after a chain depend on. -/
def needs (column : String) (steps : List Step) (wanted : List String) : List String :=
  steps.foldr (fun step wanted => step.needs column wanted) wanted

namespace Engine

variable (engine : Engine) (draws : Draws) {names : List String} {column : String}
  {left right : List Row}

theorem mapShared_eq_of_agreeOn (agree : AgreeOn names left right) {f : Nat → Row → Cell}
    (alike : ∀ place {row other : Row}, row.AgreeOn names other →
      f place row = f place other) :
    engine.mapShared f left = engine.mapShared f right := by
  rw [mapShared_eq, mapShared_eq]
  exact agree.map_zipIdx_eq alike 0

theorem results?_congr (agree : AgreeOn names left right) (member : column ∈ names)
    {plan : Plan} (within : plan.reads ⊆ names) :
    engine.results? draws column left plan = engine.results? draws column right plan := by
  cases plan with
  | identity => rfl
  | copy name =>
      have read : name ∈ names := within (by simp [Plan.reads])
      simp only [results?]
      rw [agree.map_eq fun rows => rows.get read]
  | call entry subject parameters =>
      have subjectWithin : ∀ name, subject = some name → name ∈ names := by
        rintro name rfl
        exact within (by simp [Plan.reads])
      have inputs : (left.map fun row => Row.input row column subject) =
          right.map fun row => Row.input row column subject :=
        agree.map_eq fun rows => rows.input member subjectWithin
      have resolved : ∀ {row other : Row}, row.AgreeOn names other →
          parameters.map (Argument.resolve row) = parameters.map (Argument.resolve other) := by
        intro row other rows
        apply List.map_congr_left
        intro argument argumentMember
        apply Argument.resolve_eq_of_agreeOn rows
        intro name named
        apply within
        simp only [Plan.reads, List.mem_append, List.mem_filterMap]
        exact Or.inr ⟨argument, argumentMember, named⟩
      simp only [results?, inputs]
      split
      next => rfl
      next =>
        -- With the same inputs the statistics of the column are the same, too.
        apply congrArg some
        apply engine.mapShared_eq_of_agreeOn agree
        intro place row other rows
        rw [rows.input member subjectWithin, resolved rows]

/-- A step leaves every column alone but the one it writes. -/
theorem agreeOn_applyStep_self {step : Step} (outside : step.target column ∉ names)
    (rows : List Row) : AgreeOn names rows (engine.applyStep draws column step rows) :=
  engine.forall₂_applyStep draws (Row.agreeOn_write outside) rows

/-- A step makes the same of tables that agree on all that it reads. -/
theorem agreeOn_applyStep (agree : AgreeOn names left right) (member : column ∈ names)
    {step : Step} (within : step.expression.mentions ⊆ names) :
    AgreeOn names (engine.applyStep draws column step left)
      (engine.applyStep draws column step right) := by
  have samePlan : step.plan column left = step.plan column right :=
    Plan.ofExpression_eq_of_lead fun name leads _ =>
      agree.head?_contains (within (Expression.mem_mentions_of_lead? leads))
  have reads : (step.plan column right).reads ⊆ names :=
    List.Subset.trans (Plan.reads_ofExpression _ _ _) within
  simp only [applyStep, samePlan, engine.results?_congr draws agree member reads]
  split
  next => exact agree
  next cells results => exact agree.write _ cells

/-- Columns after a step are the same for tables that agree on what these depend on. -/
theorem agreeOn_applyStep_of_needs {step : Step}
    (agree : AgreeOn (step.needs column names) left right) :
    AgreeOn names (engine.applyStep draws column step left)
      (engine.applyStep draws column step right) := by
  -- What is wanted is computed from what agrees, or it is not written at all.
  rw [Step.needs] at agree
  split at agree
  next =>
    have whole := engine.agreeOn_applyStep draws agree List.mem_cons_self
      (List.subset_cons_of_subset column (List.subset_append_left _ names))
    exact whole.mono (List.subset_cons_of_subset column (List.subset_append_right _ names))
  next outside =>
    have leftSame := engine.agreeOn_applyStep_self draws outside left
    have rightSame := engine.agreeOn_applyStep_self draws outside right
    exact leftSame.symm.trans (agree.trans rightSame)

/-- Columns after a chain are the same for tables that agree on what these depend on. -/
theorem agreeOn_applySteps {steps : List Step}
    (agree : AgreeOn (needs column steps names) left right) (place : Nat) :
    AgreeOn names (engine.applySteps draws column place steps left)
      (engine.applySteps draws column place steps right) := by
  induction steps generalizing place left right with
  | nil => exact agree
  | cons step steps ih =>
      exact ih (engine.agreeOn_applyStep_of_needs (draws.under place) agree) (place + 1)

end Engine
end ColumnChain
