import ColumnChain.Proofs.Locality
import ColumnChain.Proofs.Naming
import ColumnChain.Proofs.Randomness

/-!
# Ways of calling a function

A function can be called on one cell, on the cells of a column, and in a chain of that
column. The ways differ in when they fill in defaults and in where a statistic comes from.
They have the same answers all the same, except where the answers are random.
-/

namespace ColumnChain

/-- An argument that is written out: a quoted text or a number. -/
def Argument.IsLiteral : Argument → Prop
  | .text _ | .number _ => True
  | .column _ => False

/-- A literal is the same cell in every row and outside of rows. -/
theorem Argument.IsLiteral.resolve_eq {argument : Argument} (literal : argument.IsLiteral)
    (row : Row) : argument.resolve row = argument.literal := by
  cases argument with
  | text value => rfl
  | number value => rfl
  | column name => exact literal.elim

/-! ## Defaults -/

namespace Entry

/-- Past the defaults that were filled in there is none to fill in. -/
theorem leadingDefaults_drop (parameters : List Parameter) :
    leadingDefaults (parameters.drop (leadingDefaults parameters).length) = [] := by
  induction parameters with
  | nil => rfl
  | cons parameter rest ih =>
      cases given : parameter.default with
      | none => simp [leadingDefaults, given]
      | some value => simp [leadingDefaults, given, ih]

/-- Defaults are filled in once. -/
@[simp] theorem withDefaults_withDefaults (entry : Entry) (args : List Cell) :
    entry.withDefaults (entry.withDefaults args) = entry.withDefaults args := by
  have done := leadingDefaults_drop (entry.parameters.drop args.length)
  rw [List.drop_drop] at done
  rw [withDefaults, withDefaults, List.length_append, done, List.append_nil]

theorem prepare?_withDefaults (entry : Entry) (cells args : List Cell) :
    entry.prepare? cells (entry.withDefaults args) = entry.prepare? cells args := by
  simp only [prepare?, withDefaults_withDefaults]

/-- A statistic that is called on one cell is that of a column with this cell alone. -/
theorem apply_eq_of_isAggregate {entry : Entry} (aggregate : entry.isAggregate = true)
    (context : Function.Context) (cell : Cell) (args : List Cell) :
    [entry.apply context cell args] = mapStatistic (entry.prepare? [cell] args) [cell] := by
  simp only [apply, prepare?_withDefaults]
  split
  next run scalar => simp [isAggregate, scalar] at aggregate
  next =>
    cases entry.prepare? [cell] args with
    | none => rfl
    | some statistic => rfl

end Entry

/-! ## Columns -/

namespace Engine

variable (engine : Engine) {name : String} {entry : Entry}

theorem mapShared_eq_map {α : Type} (f : α → Cell) (items : List α) :
    engine.mapShared (fun _ => f) items = items.map f := by
  have forgotten : items.zipIdx.map (f ∘ Prod.fst) = items.map f := by
    rw [← List.map_map, List.zipIdx_map_fst]
  rw [mapShared_eq]
  exact forgotten

/-- A statistic in a chain is that of the cells that the rows start from. -/
theorem results?_of_aggregate (aggregate : entry.isAggregate = true) (draws : Draws)
    (column : String) (rows : List Row) (subject : Option String) (parameters : List Argument) :
    engine.results? draws column rows (.call entry subject parameters) =
      some (mapStatistic
        (entry.prepare? (rows.map fun row => row.input column subject)
          (parameters.map Argument.literal))
        (rows.map fun row => row.input column subject)) := by
  simp only [results?, aggregate, if_true]
  split
  next nothing => rw [nothing, mapStatistic]
  next change prepared => rw [prepared, mapStatistic, mapShared_eq_map]

theorem apply_of_find? (found : Catalog.find? name = some entry) (token : Token 8)
    (cell : Cell) (args : List Cell) :
    engine.apply token name cell args = entry.apply (engine.context token) cell args := by
  rw [apply, found]

theorem applyColumn_of_absent (absent : Catalog.find? name = none) (draws : Draws)
    (cells args : List Cell) : engine.applyColumn draws name cells args = cells := by
  simp [applyColumn, Catalog.isAggregate, apply, absent, List.mapIdx_eq_zipIdx_map]

theorem applyColumn_of_aggregate (found : Catalog.find? name = some entry)
    (aggregate : entry.isAggregate = true) (draws : Draws) (cells args : List Cell) :
    engine.applyColumn draws name cells args =
      mapStatistic (entry.prepare? cells args) cells := by
  simp [applyColumn, Catalog.isAggregate, Catalog.prepare?, found, aggregate]

/-- A function on single cells that is not random works on every cell of a column by
itself. -/
theorem applyColumn_of_scalar (found : Catalog.find? name = some entry)
    (scalar : entry.isAggregate = false) (ignores : entry.evaluator.IgnoresToken)
    (draws : Draws) (token : Token 8) (cells args : List Cell) :
    engine.applyColumn draws name cells args =
      cells.map fun cell => entry.apply (engine.context token) cell args := by
  have single : Catalog.isAggregate name = false := by
    simp [Catalog.isAggregate, found, scalar]
  have same : ∀ place cell, engine.apply (draws [place]) name cell args =
      entry.apply (engine.context token) cell args := by
    intro place cell
    rw [engine.apply_of_find? found]
    exact Entry.apply_token ignores (engine.context token) (draws [place]) cell args
  rw [applyColumn, single, if_neg Bool.false_ne_true]
  simp only [same]
  apply List.ext_getElem?
  intro place
  rw [List.getElem?_mapIdx, List.getElem?_map]

/-- A column with a single cell is that cell by itself. -/
theorem applyColumn_singleton (ignores : ∀ entry ∈ Catalog.find? name,
      entry.evaluator.IgnoresToken)
    (draws : Draws) (token : Token 8) (cell : Cell) (args : List Cell) :
    engine.applyColumn draws name [cell] args = [engine.apply token name cell args] := by
  cases found : Catalog.find? name with
  | none => rw [engine.applyColumn_of_absent found, apply, found]
  | some entry =>
      rw [engine.apply_of_find? found]
      cases kind : entry.isAggregate with
      | true =>
          rw [engine.applyColumn_of_aggregate found kind,
            Entry.apply_eq_of_isAggregate kind]
      | false =>
          rw [engine.applyColumn_of_scalar found kind (ignores entry found) draws token]
          rfl

end Engine

/-! ## Chains -/

theorem Row.get_write_single (column : String) (cell result : Cell) :
    Row.get ((Row.single column cell).write column result) column = result := by
  rw [Row.get, Row.get?_write_self, Row.get?_single]
  simp

/-- What is written into rows of one column is read from them again. -/
theorem map_get_zipWith_write {column : String} {cells results : List Cell}
    (complete : results.length = cells.length) :
    (List.zipWith (fun row cell => Row.write row column cell)
        (cells.map (Row.single column)) results).map (fun row => Row.get row column) =
      results := by
  induction cells generalizing results with
  | nil =>
      rw [List.length_nil] at complete
      rw [List.length_eq_zero_iff.1 complete]
      rfl
  | cons cell cells ih =>
      cases results with
      | nil => simp at complete
      | cons result results =>
          rw [List.map_cons, List.zipWith_cons_cons, List.map_cons, Row.get_write_single,
            ih (by simpa using complete)]

namespace Pipeline

/-- The chain of a single call on a column. -/
def calling (column function : String) (args : List Argument) : Pipeline :=
  ⟨column, [⟨.call ⟨function, .column column :: args⟩, .overwrite⟩]⟩

variable (engine : Engine) (draws : Draws) {column function : String}
  {args : List Argument}

theorem plan_calling (rows : List Row) :
    Plan.ofExpression column (fun name => rows.head?.any fun row => row.contains name)
        (.call ⟨function, .column column :: args⟩) =
      match Catalog.find? function with
      | none => .identity
      | some entry => .call entry (some column) args := by
  cases found : Catalog.find? function with
  | none => simp only [Plan.ofExpression, found]
  | some entry =>
      simp only [Plan.ofExpression, found, Call.splitSubject, beq_self_eq_true, Bool.true_or,
        if_true]

/-- A call on a column makes of the cells what is written over them, or leaves them. -/
theorem applyValues_calling (cells : List Cell) :
    (calling column function args).applyValues engine draws cells =
      match Catalog.find? function with
      | none => cells
      | some entry =>
          (engine.results? (draws.under 0) column (cells.map (Row.single column))
            (.call entry (some column) args)).getD cells := by
  have kept : ((cells.map (Row.single column)).map fun row => Row.get row column) = cells := by
    rw [List.map_map]
    conv_rhs => rw [← List.map_id cells]
    apply List.map_congr_left
    intro cell _
    simp [Row.get, Row.get?_single]
  simp only [applyValues, apply, calling, Engine.applySteps, Engine.applyStep, Step.plan,
    plan_calling]
  cases Catalog.find? function with
  | none => exact kept
  | some entry =>
      cases results : engine.results? (draws.under 0) column (cells.map (Row.single column))
          (.call entry (some column) args) with
      | none => simp only [results]; exact kept
      | some written =>
          have complete := engine.length_of_results? (draws.under 0) column results
          rw [List.length_map] at complete
          simp only [results]
          exact map_get_zipWith_write complete

/-- A call with literal arguments makes in a chain what it makes of a column. -/
theorem applyValues_calling_eq (literal : ∀ argument ∈ args, argument.IsLiteral)
    (ignores : ∀ entry ∈ Catalog.find? function, entry.evaluator.IgnoresToken)
    (others : Draws) (cells : List Cell) :
    (calling column function args).applyValues engine draws cells =
      engine.applyColumn others function cells (args.map Argument.literal) := by
  have resolved : ∀ row, args.map (Argument.resolve row) = args.map Argument.literal :=
    fun row => List.map_congr_left fun argument member =>
      (literal argument member).resolve_eq row
  have input : ∀ cell, (Row.single column cell).input column (some column) = cell := by
    intro cell
    simp [Row.input, Row.get?_single]
  have inputs : ((cells.map (Row.single column)).map fun row =>
      row.input column (some column)) = cells := by
    rw [List.map_map]
    conv_rhs => rw [← List.map_id cells]
    exact List.map_congr_left fun cell _ => input cell
  rw [applyValues_calling]
  cases found : Catalog.find? function with
  | none => rw [engine.applyColumn_of_absent found]
  | some entry =>
      cases kind : entry.isAggregate with
      | true =>
          rw [engine.applyColumn_of_aggregate found kind]
          dsimp only
          rw [engine.results?_of_aggregate kind, inputs, Option.getD_some]
      | false =>
          -- The cells draw at addresses of their own, and none looks at what it draws.
          have same := Entry.apply_token (ignores entry found) (engine.context (others []))
          have drawless : (fun place row => entry.apply
              (engine.context (draws.under 0 [place])) (row.input column (some column))
              (args.map (Argument.resolve row))) =
              fun _ row => entry.apply (engine.context (others []))
                (row.input column (some column)) (args.map Argument.literal) := by
            funext place row
            rw [resolved]
            exact same (draws.under 0 [place]) _ _
          rw [engine.applyColumn_of_scalar found kind (ignores entry found) others (others [])]
          simp only [Engine.results?, kind, Bool.false_eq_true, if_false, drawless,
            Engine.mapShared_eq_map, Option.getD_some, List.map_map, Function.comp_def, input]

theorem applyValues_calling_congr {other : String}
    (same : Catalog.find? function = Catalog.find? other) (cells : List Cell) :
    (calling column function args).applyValues engine draws cells =
      (calling column other args).applyValues engine draws cells := by
  rw [applyValues_calling, applyValues_calling, same]

end Pipeline

/-! ## All ways at once -/

/-- What a name other than `GENERATE_ID` calls is not random. -/
theorem Catalog.ignoresToken_of_find? {name : String} (isName : Expression.IsName name.toList)
    (other : Text.uppercased name ≠ "GENERATE_ID") :
    ∀ entry ∈ find? name, entry.evaluator.IgnoresToken := by
  intro entry found
  have named : entry.name = Text.uppercased (Text.trimmed name) := by
    rw [Option.mem_def, find?] at found
    simpa using List.find?_some found
  rw [Text.trimmed, isName.trim_eq, String.ofList_toList] at named
  have member := mem_of_find? found
  refine ignoresToken_of_mem entry member ((deterministic_eq_true_iff member).2 ?_)
  rw [named]
  exact other

/-- A function other than `GENERATE_ID` has the same answers whichever way it is called with
literal arguments: by the only step of the chain of a column, whatever the column is named,
and on the cells of the column without a chain. On a single cell it has the answer that it
has in the column of this cell alone. -/
theorem Engine.applyColumn_agrees (engine : Engine) {name function : String}
    (isName : Expression.IsName name.toList)
    (spelled : function = name ∨ function = Text.uppercased name)
    (other : Text.uppercased name ≠ "GENERATE_ID") (draws : Draws) :
    (∀ (column : String) (args : List Argument) (cells : List Cell) (others : Draws),
        (∀ argument ∈ args, argument.IsLiteral) →
          (Pipeline.calling column function args).applyValues engine others cells =
            engine.applyColumn draws name cells (args.map Argument.literal)) ∧
      ∀ (cell : Cell) (args : List Cell) (token : Token 8),
        engine.applyColumn draws name [cell] args = [engine.apply token name cell args] := by
  have ignores := Catalog.ignoresToken_of_find? isName other
  have same : Catalog.find? function = Catalog.find? name := by
    rcases spelled with rfl | rfl
    · rfl
    · exact Catalog.find?_uppercased isName
  constructor
  · intro column args cells others literal
    rw [Pipeline.applyValues_calling_congr engine others same]
    exact Pipeline.applyValues_calling_eq engine others literal ignores draws cells
  · intro cell args token
    exact engine.applyColumn_singleton ignores draws token cell args

/-- A function on whole columns that leaves an argument to its default, called in lower case
on a column whose name could not be written in an expression. -/
theorem Engine.applyColumn_agrees_scale :
    let engine := Settings.engine {} default 4
    let prices : List Cell := [.number 3, .text "1,000", .null, .bool true]
    Expression.IsName "scale".toList ∧ Text.uppercased "scale" ≠ "GENERATE_ID" ∧
      (∀ argument ∈ [Argument.number 0.5], argument.IsLiteral) ∧
      ∀ (draws others : Draws) (token : Token 8),
        (Pipeline.calling "price, net" "SCALE" [.number 0.5]).applyValues engine others
            prices = engine.applyColumn draws "scale" prices [Argument.literal (.number 0.5)] ∧
          engine.applyColumn draws "scale" [.number 3] [] =
            [engine.apply token "scale" (.number 3) []] := by
  intro engine prices
  have isName : Expression.IsName "scale".toList := by simp [Expression.IsName]
  have upper : "SCALE" = Text.uppercased "scale" := by decide
  have other : Text.uppercased "scale" ≠ "GENERATE_ID" := by
    rw [← upper]
    decide
  have literal : ∀ argument ∈ [Argument.number 0.5], argument.IsLiteral := by
    simp [Argument.IsLiteral]
  refine ⟨isName, other, literal, fun draws others token => ?_⟩
  have agrees := engine.applyColumn_agrees isName (Or.inr upper) other draws
  exact ⟨agrees.1 "price, net" [.number 0.5] prices others literal,
    agrees.2 (.number 3) [] token⟩

end ColumnChain
