import ColumnChain.Json.Tables
import ColumnChain.Proofs.Dispatch
import ColumnChain.Proofs.Finiteness
import ColumnChain.Proofs.Grammar
import ColumnChain.Proofs.Loading

/-!
# Numbers that overflow

A column of finite numbers keeps finite numbers when a function is called on it, and so does
a table of texts through a whole chain. Only the functions that rescale a column can make
numbers of it that are not finite, and only of numbers that are very large or very small:
the span of a column is not looked at before it is divided by.
-/

namespace ColumnChain

/-! ## Calls -/

namespace Entry

variable {entry : Entry}

theorem answersFinite_of_prepare? (member : entry ∈ Catalog.entries) {cells args : List Cell}
    (short : cells.length < 2 ^ 64) (accepts : ∀ cell ∈ cells, entry.Accepts cell)
    (acceptsArgs : ∀ arg ∈ args, entry.Accepts arg) {change : Cell → Option Cell}
    (prepared : entry.prepare? cells args = some change) :
    ∀ cell ∈ cells, AnswersFinite (change cell) := by
  have keeps := keepsFinite member
  rw [prepare?] at prepared
  split at prepared
  next => cases prepared
  next prepare aggregate =>
    rw [aggregate] at keeps
    exact keeps cells (entry.withDefaults args) accepts
      (accepts_of_mem_withDefaults member acceptsArgs) short change prepared

theorem isFinite_of_mem_mapStatistic (member : entry ∈ Catalog.entries)
    {cells args : List Cell} (short : cells.length < 2 ^ 64)
    (accepts : ∀ cell ∈ cells, entry.Accepts cell)
    (acceptsArgs : ∀ arg ∈ args, entry.Accepts arg) :
    ∀ cell ∈ mapStatistic (entry.prepare? cells args) cells, cell.IsFinite := by
  intro cell inside
  cases prepared : entry.prepare? cells args with
  | none =>
      rw [prepared] at inside
      exact (accepts cell inside).finite
  | some change =>
      rw [prepared] at inside
      obtain ⟨source, given, rfl⟩ := List.mem_map.1 inside
      have answers :=
        answersFinite_of_prepare? member short accepts acceptsArgs prepared source given
      exact answers.getD (accepts source given).finite

theorem isFinite_apply (member : entry ∈ Catalog.entries) (context : Function.Context)
    {cell : Cell} {args : List Cell} (short : cell.toText.length < 2 ^ 64)
    (accepts : entry.Accepts cell) (acceptsArgs : ∀ arg ∈ args, entry.Accepts arg) :
    (entry.apply context cell args).IsFinite := by
  have filled := accepts_of_mem_withDefaults member acceptsArgs
  have keeps := keepsFinite member
  refine AnswersFinite.getD ?_ accepts.finite
  split
  next run scalar =>
    rw [scalar] at keeps
    exact keeps context cell (entry.withDefaults args) accepts filled short
  next =>
    refine .bind fun change prepared => ?_
    have single : ∀ other ∈ [cell], entry.Accepts other := by simpa using accepts
    exact answersFinite_of_prepare? member (by norm_num) single filled prepared cell
      List.mem_cons_self

end Entry

/-- A cell is finite, and what a name calls accepts it. -/
def Catalog.Accepts (name : String) (cell : Cell) : Prop :=
  cell.IsFinite ∧ ∀ entry ∈ find? name, entry.Accepts cell

theorem Engine.isFinite_of_mem_applyColumn (engine : Engine) (draws : Draws) {name : String}
    {cells args : List Cell} (few : cells.length < 2 ^ 64)
    (short : ∀ cell ∈ cells, cell.toText.length < 2 ^ 64)
    (accepts : ∀ cell ∈ cells, Catalog.Accepts name cell)
    (acceptsArgs : ∀ arg ∈ args, Catalog.Accepts name arg) :
    ∀ cell ∈ engine.applyColumn draws name cells args, cell.IsFinite := by
  intro cell inside
  cases found : Catalog.find? name with
  | none =>
      rw [engine.applyColumn_of_absent found] at inside
      exact (accepts cell inside).1
  | some entry =>
      have member := Catalog.mem_of_find? found
      have entryAccepts := fun other given => (accepts other given).2 entry found
      have entryAcceptsArgs := fun arg given => (acceptsArgs arg given).2 entry found
      cases kind : entry.isAggregate with
      | true =>
          rw [engine.applyColumn_of_aggregate found kind] at inside
          exact Entry.isFinite_of_mem_mapStatistic member few entryAccepts entryAcceptsArgs
            cell inside
      | false =>
          have single : Catalog.isAggregate name = false := by
            simp [Catalog.isAggregate, found, kind]
          rw [applyColumn, single, if_neg Bool.false_ne_true] at inside
          obtain ⟨place, here, rfl⟩ := List.mem_mapIdx.1 inside
          have given : cells[place] ∈ cells := List.getElem_mem here
          rw [engine.apply_of_find? found]
          exact Entry.isFinite_apply member _ (short _ given) (entryAccepts _ given)
            entryAcceptsArgs

/-! ## Rows -/

namespace Row

variable {P : Cell → Prop}

/-- Every cell of a row has a property. -/
def All (P : Cell → Prop) (row : Row) : Prop :=
  ∀ pair ∈ row.entries, P pair.2

instance [DecidablePred P] : DecidablePred (All P) := fun row =>
  inferInstanceAs (Decidable (∀ pair ∈ row.entries, P pair.2))

theorem All.of_get? {row : Row} (all : row.All P) {name : String} {cell : Cell}
    (found : Row.get? row name = some cell) : P cell := by
  obtain ⟨pair, here, rfl⟩ := Option.map_eq_some_iff.1 found
  exact all pair (Keyed.find?_eq_some_iff.1 here).1

theorem All.get {row : Row} (all : row.All P) (null : P .null) (name : String) :
    P (Row.get row name) := by
  rw [Row.get]
  cases found : Row.get? row name with
  | none => exact null
  | some cell => exact all.of_get? found

theorem All.input {row : Row} (all : row.All P) (null : P .null) (column : String)
    (subject : Option String) : P (row.input column subject) := by
  cases subject with
  | none => exact all.get null column
  | some name =>
      rw [Row.input]
      cases found : Row.get? row name with
      | none => exact all.get null column
      | some cell => exact all.of_get? found

theorem All.write {row : Row} (all : row.All P) (target : String) {cell : Cell}
    (holds : P cell) : (row.write target cell).All P := by
  rw [Row.write]
  split
  next => exact all
  next =>
    intro pair inside
    rcases Keyed.mem_put.1 inside with rfl | ⟨earlier, -⟩
    · exact holds
    · exact all pair earlier

theorem all_ofPairs {pairs : List (String × Cell)} (all : ∀ pair ∈ pairs, P pair.2) :
    (Row.ofPairs pairs).All P := by
  intro pair inside
  exact all pair ((Keyed.mem_of_mem_foldl_put inside).resolve_left List.not_mem_nil)

theorem all_single {column : String} {cell : Cell} (holds : P cell) :
    (Row.single column cell).All P := by
  rintro pair inside
  rw [Row.single, List.mem_singleton] at inside
  rwa [inside]

end Row

/-! ## Expressions -/

namespace Expression

/-- The arguments of a call. -/
def arguments : Expression → List Argument
  | .call invocation => invocation.args
  | .bare _ | .opaqueText _ => []

theorem isFinite_of_isSlot {slot : List Char} {argument : Argument}
    (isSlot : IsSlot slot argument) : argument.literal.IsFinite := by
  cases isSlot with
  | quoted => trivial
  | number unquoted filled denotes => exact Cell.isFinite_ofNumber denotes.finite
  | column => trivial

theorem isFinite_of_areSlots {list : List Char} {args : List Argument}
    (areSlots : AreSlots list args) : ∀ argument ∈ args, argument.literal.IsFinite := by
  induction areSlots with
  | last isSlot => simpa using isFinite_of_isSlot isSlot
  | more isSlot _ ih => exact List.forall_mem_cons.2 ⟨isFinite_of_isSlot isSlot, ih⟩

theorem isFinite_of_isCall {text : List Char} {invocation : Call}
    (isCall : IsCall text invocation) :
    ∀ argument ∈ invocation.args, argument.literal.IsFinite := by
  cases isCall with
  | intro _ _ _ areArguments _ =>
      rcases areArguments with ⟨-, rfl⟩ | areSlots
      · rintro argument ⟨⟩
      · exact isFinite_of_areSlots areSlots

/-- The numbers that are read from an expression text are finite. -/
theorem isFinite_of_mem_arguments_read (text : String) :
    ∀ argument ∈ (read text).arguments, argument.literal.IsFinite := by
  cases expression : read text with
  | call invocation =>
      exact isFinite_of_isCall (((read_iff_grammar text).2.1 invocation).1 expression)
  | bare name => rintro argument ⟨⟩
  | opaqueText content => rintro argument ⟨⟩

end Expression

theorem Call.splitSubject_subset (invocation : Call) (accepts : String → Bool) :
    (invocation.splitSubject accepts).2 ⊆ invocation.args := by
  simp only [splitSubject]
  split
  next name rest arguments =>
    rw [arguments]
    split
    next => exact List.subset_cons_self _ _
    next => exact List.Subset.refl _
  next => exact List.Subset.refl _

/-- The parameters of a plan are among the arguments of its expression. -/
theorem Plan.subset_arguments_of_ofExpression {column : String} {isColumn : String → Bool}
    {expression : Expression} {entry : Entry} {subject : Option String}
    {parameters : List Argument}
    (plan : ofExpression column isColumn expression = call entry subject parameters) :
    parameters ⊆ expression.arguments := by
  rcases cases_of_ofExpression plan with
    ⟨invocation, accepts, rfl, -, divided⟩ | ⟨name, rfl, -, -, rfl⟩
  · have within := invocation.splitSubject_subset accepts
    rwa [divided] at within
  · exact List.nil_subset _

/-- An argument stands for a finite cell in a row of finite cells. -/
theorem Argument.isFinite_resolve {argument : Argument} {row : Row}
    (finite : argument.literal.IsFinite) (all : row.All Cell.IsFinite) :
    (argument.resolve row).IsFinite := by
  cases argument with
  | text value => trivial
  | number value => exact finite
  | column name =>
      rw [resolve]
      cases found : Row.get? row name with
      | none => trivial
      | some cell => exact all.of_get? found

/-! ## Steps and chains -/

namespace Step

/-- The numbers that are written out in a step are finite. -/
def IsFinite (step : Step) : Prop :=
  ∀ argument ∈ step.expression.arguments, argument.literal.IsFinite

theorem isFinite_read (text : String) (output : Output) : (read text output).IsFinite :=
  Expression.isFinite_of_mem_arguments_read text

/-- A machine could hold the texts of a table, and if a step of it rescales a column, the
numbers of the table and of the step are moderate. -/
structure Suits (step : Step) (rows : List Row) : Prop where
  short : ∀ row ∈ rows, row.All fun cell => cell.toText.length < 2 ^ 64
  moderate : ∀ entry ∈ step.expression.callee?, entry.name ∈ Catalog.rescaling →
    (∀ row ∈ rows, row.All Cell.IsModerate) ∧
      ∀ argument ∈ step.expression.arguments, argument.literal.IsModerate

end Step

namespace Engine

variable (engine : Engine) (draws : Draws) (column : String)

/-- Every step of a chain suits the table that it comes to. -/
def Suits (draws : Draws) : Nat → List Step → List Row → Prop
  | _, [], _ => True
  | place, step :: steps, rows =>
      step.Suits rows ∧
        Suits draws (place + 1) steps (engine.applyStep (draws.under place) column step rows)

/-- What a step makes of a table of finite cells is finite. -/
theorem isFinite_of_results? {step : Step} {rows : List Row} (few : rows.length < 2 ^ 64)
    (suits : step.Suits rows) (written : step.IsFinite)
    (finite : ∀ row ∈ rows, row.All Cell.IsFinite) {cells : List Cell}
    (results : engine.results? draws column rows (step.plan column rows) = some cells) :
    ∀ cell ∈ cells, cell.IsFinite := by
  cases plan : step.plan column rows with
  | identity =>
      rw [plan] at results
      cases results
  | copy name =>
      rw [plan] at results
      cases results
      rw [List.forall_mem_map]
      exact fun row inside => (finite row inside).get trivial name
  | call entry subject parameters =>
      rw [plan] at results
      have names := Plan.callee?_of_ofExpression plan
      have member := Expression.mem_of_callee? names
      have within := Plan.subset_arguments_of_ofExpression plan
      have accepts : ∀ row ∈ rows, entry.Accepts (row.input column subject) :=
        fun row inside => {
          finite := (finite row inside).input trivial column subject
          moderate := fun rescales =>
            ((suits.moderate entry names rescales).1 row inside).input Cell.isModerate_null
              column subject }
      cases kind : entry.isAggregate with
      | true =>
          rw [engine.results?_of_aggregate kind] at results
          cases results
          refine Entry.isFinite_of_mem_mapStatistic member ?_ ?_ ?_
          · rwa [List.length_map]
          · rwa [List.forall_mem_map]
          · rw [List.forall_mem_map]
            intro argument inside
            exact {
              finite := written argument (within inside)
              moderate := fun rescales =>
                (suits.moderate entry names rescales).2 argument (within inside) }
      | false =>
          -- What rescales is a statistic, so cells and arguments need only be finite here.
          have other : entry.name ∉ Catalog.rescaling := fun rescales =>
            Bool.false_ne_true (kind.symm.trans
              (Catalog.isAggregate_of_rescaling entry member rescales))
          simp only [results?, kind, Bool.false_eq_true, if_false, mapShared_eq,
            Option.some.injEq] at results
          subst results
          rw [List.forall_mem_map]
          rintro ⟨row, place⟩ listed
          have inside : row ∈ rows := List.fst_mem_of_mem_zipIdx listed
          refine Entry.isFinite_apply member _ ?_ (accepts row inside) ?_
          · exact (suits.short row inside).input (by decide) column subject
          · rw [List.forall_mem_map]
            intro argument given
            exact {
              finite :=
                Argument.isFinite_resolve (written argument (within given)) (finite row inside)
              moderate := fun rescales => absurd rescales other }

theorem isFinite_applyStep {step : Step} {rows : List Row} (few : rows.length < 2 ^ 64)
    (suits : step.Suits rows) (written : step.IsFinite)
    (finite : ∀ row ∈ rows, row.All Cell.IsFinite) :
    ∀ row ∈ engine.applyStep draws column step rows, row.All Cell.IsFinite := by
  rw [applyStep]
  split
  next => exact finite
  next cells results =>
    have each := engine.isFinite_of_results? draws column few suits written finite results
    intro row inside
    obtain ⟨place, bound, rfl⟩ := List.getElem_of_mem inside
    rw [List.getElem_zipWith]
    exact (finite _ (List.getElem_mem _)).write _ (each _ (List.getElem_mem _))

/-- What a chain makes of a table of finite cells is finite. -/
theorem isFinite_applySteps {steps : List Step} {place : ℕ} {rows : List Row}
    (few : rows.length < 2 ^ 64) (suits : engine.Suits column draws place steps rows)
    (written : ∀ step ∈ steps, step.IsFinite)
    (finite : ∀ row ∈ rows, row.All Cell.IsFinite) :
    ∀ row ∈ engine.applySteps draws column place steps rows, row.All Cell.IsFinite := by
  induction steps generalizing place rows with
  | nil => exact finite
  | cons step steps ih =>
      rw [List.forall_mem_cons] at written
      obtain ⟨first, rest⟩ := suits
      refine ih ?_ rest written.2 ?_
      · rwa [length_applyStep]
      · exact engine.isFinite_applyStep (draws.under place) column few first written.1 finite

end Engine

/-! ## Loaded tables -/

namespace Delimited

theorem all_rowOf {P : Cell → Prop} (null : P .null) (text : ∀ value, P (.text value))
    (headers fields : List String) : (rowOf headers fields).All P := by
  refine Row.all_ofPairs fun pair listed => ?_
  obtain ⟨place, bound, rfl⟩ := List.mem_mapIdx.1 listed
  simp only [Cell.ofField]
  split
  · exact null
  · exact text _

/-- Cells that are loaded without types are texts or hold nothing. -/
theorem all_of_loadWith {P : Cell → Prop} (null : P .null) (text : ∀ value, P (.text value))
    {options : Options} (untyped : options.typed = false) {id : String} {bytes : Bytes}
    {delimiter : UInt8} {data : Dataset}
    (loaded : loadWith options id bytes delimiter = .ok data) :
    ∀ row ∈ data.rows, row.All P := by
  obtain ⟨_, _, header, rows, -, -, -, made, -, rfl⟩ := loadWith_eq_ok.1 loaded
  rw [Options.finish, untyped]
  intro row inside
  obtain ⟨_, -, fields, -, rfl⟩ := Store.exists_of_mem_forall₂ made row inside
  exact all_rowOf null text header fields

end Delimited

/-- JSON has a notation for the finite numbers, and only for these. -/
theorem Number.isSome_json? (x : Float) : (json? x).isSome = x.isFinite := by
  rw [json?, Option.isSome_map, isSome_parts?]

/-! ## Columns and chains at once -/

/-- Called on a column of finite cells with finite arguments a function has finite answers,
and a chain over a table that was loaded as texts makes only numbers that JSON has a notation
for. Where functions rescale, the numbers they are given are taken to be moderate. -/
theorem Engine.staysFinite (engine : Engine) (draws : Draws) :
    (∀ (name : String) (cells args : List Cell), cells.length < 2 ^ 64 →
        (∀ cell ∈ cells, cell.toText.length < 2 ^ 64) →
        (∀ cell ∈ cells, Catalog.Accepts name cell) →
        (∀ arg ∈ args, Catalog.Accepts name arg) →
          ∀ cell ∈ engine.applyColumn draws name cells args, cell.IsFinite) ∧
      ∀ (options : Delimited.Options) (id : String) (bytes : Bytes) (delimiter : UInt8)
        (data : Dataset) (column : String) (texts : List (String × Output)),
        options.typed = false →
        Delimited.loadWith options id bytes delimiter = .ok data →
        data.rows.length < 2 ^ 64 →
        let steps := texts.map fun (text, output) => Step.read text output
        engine.Suits column draws 0 steps data.rows →
          ∀ row ∈ (Pipeline.mk column steps).apply engine draws data.rows,
            ∀ pair ∈ row.entries, ∀ x, pair.2 = .number x →
              (Number.json? x).isSome = true := by
  constructor
  · intro name cells args few short accepts acceptsArgs
    exact engine.isFinite_of_mem_applyColumn draws few short accepts acceptsArgs
  · intro options id bytes delimiter data column texts untyped loaded few steps suits
    have finite := Delimited.all_of_loadWith (P := Cell.IsFinite) trivial (fun _ => trivial)
      untyped loaded
    have written : ∀ step ∈ steps, step.IsFinite := by
      rw [List.forall_mem_map]
      exact fun step _ => Step.isFinite_read step.1 step.2
    intro row inside pair entry x isNumber
    have all := engine.isFinite_applySteps draws column few suits written finite row inside
    have holds := all pair entry
    rw [isNumber] at holds
    rw [Number.isSome_json?]
    exact holds

/-- The bytes of a table with the words "a" and "bcd" in its only column. -/
def wordBytes : Bytes :=
  [119, 111, 114, 100, 10, 97, 10, 98, 99, 100, 10]

/-- The table of these bytes. -/
def words : Dataset :=
  Dataset.ofRows "words" [.single "word" (.text "a"), .single "word" (.text "bcd")]

/-- Two steps, of which the second rescales what the first makes of texts. -/
def wordSteps : List (String × Output) :=
  [("LENGTH(word)", .overwrite), ("SCALE(word)", .column "share")]

/-- The lengths of the words are moderate, so the second step suits them, too. -/
theorem Engine.suits_words (draws : Draws) :
    (Settings.engine {} default 4).Suits "word" draws 0
      (wordSteps.map fun (text, output) => Step.read text output) words.rows := by
  have lengths : (Settings.engine {} default 4).applyStep (draws.under 0) "word"
      (Step.read "LENGTH(word)" .overwrite) words.rows =
        [.single "word" (.number 1), .single "word" (.number 3)] := rfl
  have one : (Cell.number 1).IsModerate :=
    Cell.isModerate_of_asNumber? (n := 1) rfl rfl (by norm_num) (by norm_num)
  have three : (Cell.number 3).IsModerate :=
    Cell.isModerate_of_asNumber? (n := 3) rfl rfl (by norm_num) (by norm_num)
  have subject : (Cell.text "word").IsModerate :=
    ⟨trivial, by rintro x ⟨⟩⟩
  refine ⟨⟨by decide, ?_⟩, ?_, trivial⟩
  · rintro entry ⟨⟩
    exact fun rescales => absurd rescales (by decide)
  · rw [lengths]
    refine ⟨by decide, fun _ _ _ => ⟨?_, ?_⟩⟩
    · exact List.forall_mem_cons.2 ⟨Row.all_single one, by simpa using Row.all_single three⟩
    · have arguments : (Step.read "SCALE(word)" (.column "share")).expression.arguments =
          [.column "word"] := rfl
      simpa [arguments, Argument.literal] using subject

theorem Engine.staysFinite_words :
    let engine := Settings.engine {} default 4
    let steps := wordSteps.map fun (text, output) => Step.read text output
    let prices : List Cell := [.number 3, .text "1,000", .null]
    ((∀ cell ∈ prices, Catalog.Accepts "SCALE" cell) ∧
      ∀ draws, ∀ cell ∈ engine.applyColumn draws "SCALE" prices [], cell.IsFinite) ∧
    Delimited.loadWith {} "words" wordBytes 44 = .ok words ∧
    ∀ draws, engine.Suits "word" draws 0 steps words.rows ∧
      ∀ row ∈ (Pipeline.mk "word" steps).apply engine draws words.rows,
        ∀ pair ∈ row.entries, ∀ x, pair.2 = .number x → (Number.json? x).isSome = true := by
  intro engine steps prices
  have accepts : ∀ cell ∈ prices, Catalog.Accepts "SCALE" cell := by
    simp only [prices, List.forall_mem_cons, List.not_mem_nil, false_imp_iff, implies_true,
      and_true]
    have accepted (cell : Cell) (moderate : cell.IsModerate) : Catalog.Accepts "SCALE" cell :=
      ⟨moderate.finite, fun _ _ => ⟨moderate.finite, fun _ => moderate⟩⟩
    have three : (Cell.number 3).IsModerate :=
      Cell.isModerate_of_asNumber? (n := 3) rfl rfl (by norm_num) (by norm_num)
    have thousand : (Cell.text "1,000").IsModerate :=
      Cell.isModerate_of_asNumber? (n := 1000) trivial rfl (by norm_num) (by norm_num)
    exact ⟨accepted _ three, accepted _ thousand, accepted _ Cell.isModerate_null⟩
  have loaded : Delimited.loadWith {} "words" wordBytes 44 = .ok words := rfl
  refine ⟨⟨accepts, fun draws => ?_⟩, loaded, fun draws => ⟨suits_words draws, ?_⟩⟩
  · exact (engine.staysFinite draws).1 "SCALE" prices [] (by decide) (by decide) accepts
      (by simp)
  · exact (engine.staysFinite draws).2 {} "words" wordBytes 44 words "word" wordSteps rfl loaded
      (by decide) (suits_words draws)

/-- Opposite numbers that are finite, while the distance between them is not. -/
def opposites : List Cell :=
  [.number (-1e308), .number 1e308]

/-- Of finite numbers a function can make some that are not finite. -/
theorem Engine.not_staysFinite : ¬ ∀ (engine : Engine) (draws : Draws) (name : String)
    (cells args : List Cell), (∀ cell ∈ cells ++ args, cell.IsFinite) →
      ∀ cell ∈ engine.applyColumn draws name cells args, cell.IsFinite := by
  intro always
  have finite := always (Settings.engine {} default 4) (fun _ => default) "NORMALIZE"
    opposites [] (by decide +kernel)
  revert finite
  decide +kernel

end ColumnChain
