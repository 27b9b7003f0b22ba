import ColumnChain.Proofs.Chaining
import ColumnChain.Proofs.Randomness

/-!
# Work that is shared out

How long columns are shared out among workers. Every worker gets at most one part, no part is
empty, and the parts put together are the column again, so that what a chain derives depends
neither on how many workers there are nor on where sharing begins.
-/

namespace ColumnChain

namespace Workers

universe u v

variable {α : Type u} {β : Type v}

/-- The parts that items are cut into for some workers: put together they are the items, none
of them is empty, and no worker gets two. -/
structure IsSharing (workers : Nat) (items : List α) (shares : List (List α)) : Prop where
  complete : shares.flatten = items
  filled : ∀ share ∈ shares, share ≠ []
  few : shares.length ≤ workers

theorem ne_nil_of_mem_parts {size : Nat} (positive : 0 < size) {items share : List α}
    (member : share ∈ parts size positive items) : share ≠ [] := by
  induction items using parts.induct size positive with
  | case1 => simp [parts] at member
  | case2 item rest ih =>
      rw [parts, List.mem_cons] at member
      rcases member with rfl | later
      · intro empty
        rw [List.take_eq_nil_iff] at empty
        rcases empty with zero | none
        · exact absurd zero (Nat.ne_of_gt positive)
        · cases none
      · exact ih later

/-- All parts but the last one have the full size. -/
theorem length_parts_mul_lt {size : Nat} (positive : 0 < size) (items : List α) :
    (parts size positive items).length * size < items.length + size := by
  induction items using parts.induct size positive with
  | case1 => simpa [parts] using positive
  | case2 item rest ih =>
      rw [parts, List.length_cons, Nat.succ_mul]
      rcases Nat.lt_or_ge size (item :: rest).length with more | last
      · rw [List.length_drop] at ih
        omega
      · rw [List.drop_eq_nil_of_le last, parts]
        simp

/-- So many parts of the size for so many workers hold all items. -/
theorem le_mul_partSize {items workers : Nat} (working : 0 < workers) :
    items ≤ workers * partSize items workers := by
  have divided := Nat.div_add_mod (items + workers - 1) workers
  have small := Nat.mod_lt (items + workers - 1) working
  rw [partSize]
  omega

theorem isSharing_parts {workers : Nat} (working : 0 < workers) {items : List α}
    (positive : 0 < partSize items.length workers) :
    IsSharing workers items (parts (partSize items.length workers) positive items) where
  complete := flatten_parts _ positive items
  filled share member := ne_nil_of_mem_parts positive member
  few := by
    apply Nat.le_of_lt_succ
    apply Nat.lt_of_mul_lt_mul_right (a := partSize items.length workers)
    calc (parts _ positive items).length * partSize items.length workers
      _ < items.length + partSize items.length workers := length_parts_mul_lt positive items
      _ ≤ workers * partSize items.length workers + partSize items.length workers :=
          Nat.add_le_add_right (le_mul_partSize working) _
      _ = (workers + 1) * partSize items.length workers := (Nat.succ_mul _ _).symm

/-- Work is shared out where there are enough items and more than one worker. -/
def Shares (workers threshold : Nat) (items : List α) : Prop :=
  threshold ≤ items.length ∧ 1 < min workers items.length

/-- Where work is shared out, it is cut into parts of a positive size that are a sharing, and the
answers of the parts are put together in their order. -/
theorem map_of_shares {workers threshold : Nat} {items : List α}
    (shares : Shares workers threshold items) (f : α → β) :
    ∃ positive : 0 < partSize items.length (min workers items.length),
      let cut := parts (partSize items.length (min workers items.length)) positive items
      IsSharing workers items cut ∧
        map workers threshold f items = (cut.map (List.map f)).flatten := by
  obtain ⟨enough, busy⟩ := shares
  have alone : ¬ (items.length < threshold ∨ min workers items.length ≤ 1) := by omega
  have positive : 0 < partSize items.length (min workers items.length) :=
    partSize_pos (by omega) (by omega)
  have sharing := isSharing_parts (Nat.zero_lt_of_lt busy) positive
  refine ⟨positive, ⟨sharing.complete, sharing.filled, ?_⟩, ?_⟩
  · exact Nat.le_trans sharing.few (Nat.min_le_left _ _)
  · simp only [map, dif_neg alone]

end Workers

namespace Engine

/-- The engine on a machine with other workers, with another threshold for sharing work. -/
def sharing (engine : Engine) (threshold workers : Nat) : Engine :=
  { engine with
    settings := { engine.settings with parallelThreshold := threshold }
    workers }

variable (engine : Engine) (threshold workers : Nat) (draws : Draws) (column : String)

theorem results?_sharing (rows : List Row) (plan : Plan) :
    (engine.sharing threshold workers).results? draws column rows plan =
      engine.results? draws column rows plan := by
  cases plan with
  | identity => rfl
  | copy name => rfl
  | call entry subject parameters =>
      simp only [results?, mapShared_eq]
      rfl

theorem applyStep_sharing (step : Step) (rows : List Row) :
    (engine.sharing threshold workers).applyStep draws column step rows =
      engine.applyStep draws column step rows := by
  simp only [applyStep, results?_sharing]

theorem applySteps_sharing (place : Nat) (steps : List Step) (rows : List Row) :
    (engine.sharing threshold workers).applySteps draws column place steps rows =
      engine.applySteps draws column place steps rows := by
  induction steps generalizing place rows with
  | nil => rfl
  | cons step steps ih =>
      rw [applySteps, applySteps, applyStep_sharing]
      exact ih (place + 1) _

end Engine

namespace Pipeline

/-- A chain that draws nothing derives the same rows wherever sharing begins and however many
workers there are. What is shared out is cut into parts of a positive size, each item is in one
of them, and the answers put together are those of the items one by one. -/
theorem apply_of_sharing (pipeline : Pipeline)
    (deterministic : ∀ step ∈ pipeline.steps, step.isDeterministic = true) :
    (∀ (engine : Engine) (threshold other workers others : Nat) (left right : Draws)
        (rows : List Row),
      pipeline.apply (engine.sharing threshold workers) left rows =
        pipeline.apply (engine.sharing other others) right rows) ∧
      ∀ (α β : Type) (workers threshold : Nat) (f : α → β) (items : List α),
        Workers.map workers threshold f items = items.map f ∧
          (Workers.Shares workers threshold items →
            ∃ positive : 0 < Workers.partSize items.length (min workers items.length),
              let cut := Workers.parts _ positive items
              Workers.IsSharing workers items cut ∧
                Workers.map workers threshold f items = (cut.map (List.map f)).flatten) := by
  constructor
  · intro engine threshold other workers others left right rows
    calc pipeline.apply (engine.sharing threshold workers) left rows
      _ = pipeline.apply engine left rows :=
          engine.applySteps_sharing threshold workers left pipeline.column 0 pipeline.steps rows
      _ = pipeline.apply engine right rows :=
          engine.applySteps_draws pipeline.column deterministic left right 0 0 rows
      _ = pipeline.apply (engine.sharing other others) right rows :=
          (engine.applySteps_sharing other others right pipeline.column 0 pipeline.steps
            rows).symm
  · intro α β workers threshold f items
    constructor
    · exact Workers.map_eq_map workers threshold f items
    · intro shares
      exact Workers.map_of_shares shares f

/-- A chain with a statistic and with a step that reads other columns. -/
def grading : Pipeline where
  column := "score"
  steps := [
    Step.read "NORMALIZE(score)" .overwrite,
    Step.read "CONCAT(name, \": \", score)" (.column "grade")]

/-- Rows that three workers do not share evenly. -/
def gradedRows : List Row :=
  [("Ada", "7"), ("Ben", "4"), ("Cleo", "9"), ("Dora", ""), ("Emil", "7")].map fun (name, score) =>
    .ofPairs [("name", .text name), ("score", Cell.ofField score)]

/-- Three workers get two, two and one of five items, and derive what a single one derives. -/
theorem apply_of_sharing_grading :
    (∀ step ∈ grading.steps, step.isDeterministic = true) ∧
      grading.apply (Engine.sharing default 0 3) (fun _ _ => 0) gradedRows =
        grading.apply (Engine.sharing default 100 1) (fun _ _ => 1) gradedRows ∧
      Workers.Shares 3 0 [2, 3, 5, 7, 11] ∧
      ∃ positive : 0 < Workers.partSize 5 3,
        let cut := Workers.parts _ positive [2, 3, 5, 7, 11]
        cut = [[2, 3], [5, 7], [11]] ∧ Workers.IsSharing 3 [2, 3, 5, 7, 11] cut ∧
          Workers.map 3 0 (· + 1) [2, 3, 5, 7, 11] = (cut.map (List.map (· + 1))).flatten := by
  have deterministic : ∀ step ∈ grading.steps, step.isDeterministic = true := by decide
  have shares : Workers.Shares 3 0 [2, 3, 5, 7, 11] := ⟨by decide, by decide⟩
  obtain ⟨same, shared⟩ := apply_of_sharing grading deterministic
  obtain ⟨positive, sharing, answers⟩ := (shared Nat Nat 3 0 (· + 1) [2, 3, 5, 7, 11]).2 shares
  refine ⟨deterministic, same default 0 100 3 1 _ _ gradedRows, shares, positive, ?_, sharing,
    answers⟩
  simp [Workers.parts, Workers.partSize]

end Pipeline
end ColumnChain
