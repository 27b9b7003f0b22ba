import ColumnChain.Proofs.Chaining
import Mathlib.Data.List.Forall2
import Mathlib.Order.Defs.Unbundled

/-!
# What every row keeps

A step writes one column of every row and does nothing else to them. So what holds between a
row and itself, goes on from row to row, and holds between a row and what it becomes by any
writing of the columns that a chain writes, holds between each row of a table and the row in
its place once the chain is run.
-/

namespace ColumnChain

/-- The column that a step of a chain writes. -/
def Step.target (step : Step) (column : String) : String :=
  step.output.target column

variable {R : Row → Row → Prop}

theorem forall₂_trans [IsTrans Row R] {left middle right : List Row}
    (first : List.Forall₂ R left middle) (second : List.Forall₂ R middle right) :
    List.Forall₂ R left right := by
  induction first generalizing right with
  | nil => exact second
  | cons row _ ih =>
      cases second with
      | cons other rest => exact .cons (IsTrans.trans _ _ _ row other) (ih rest)

theorem forall₂_zipWith_write {target : String}
    (writes : ∀ row cell, R row (Row.write row target cell)) {rows : List Row}
    {cells : List Cell} (complete : cells.length = rows.length) :
    List.Forall₂ R rows
      (List.zipWith (fun row cell => Row.write row target cell) rows cells) := by
  induction rows generalizing cells with
  | nil => exact .nil
  | cons row rows ih =>
      cases cells with
      | nil => simp at complete
      | cons cell cells => exact .cons (writes row cell) (ih (by simpa using complete))

namespace Engine

variable (engine : Engine) (draws : Draws) {column : String} [Std.Refl R]

theorem forall₂_applyStep {step : Step}
    (writes : ∀ row cell, R row (Row.write row (step.target column) cell))
    (rows : List Row) : List.Forall₂ R rows (engine.applyStep draws column step rows) := by
  simp only [applyStep]
  split
  next => exact List.forall₂_refl rows
  next cells results =>
    exact forall₂_zipWith_write writes (engine.length_of_results? draws column results)

theorem forall₂_applySteps [IsTrans Row R] {steps : List Step}
    (writes : ∀ step ∈ steps, ∀ row cell, R row (Row.write row (step.target column) cell))
    (place : Nat) (rows : List Row) :
    List.Forall₂ R rows (engine.applySteps draws column place steps rows) := by
  induction steps generalizing place rows with
  | nil => exact List.forall₂_refl rows
  | cons step steps ih =>
      simp only [List.mem_cons, forall_eq_or_imp] at writes
      exact forall₂_trans (engine.forall₂_applyStep (draws.under place) writes.1 rows)
        (ih writes.2 (place + 1) _)

end Engine
end ColumnChain
