import ColumnChain.Preview
import Mathlib.Data.List.Basic

/-!
# Running chains

Sharing work out among workers makes the list that one worker would make. A chain keeps
the number of rows, and a longer chain is the shorter one with the rest of the steps
taken afterwards, so that a preview and a committed chain can be compared step by step.
-/

namespace ColumnChain

/-! ## Workers -/

namespace Workers

universe u v

variable {α : Type u} {β : Type v}

theorem flatten_parts (size : Nat) (positive : 0 < size) (items : List α) :
    (parts size positive items).flatten = items := by
  induction items using parts.induct size positive with
  | case1 => simp [parts]
  | case2 item rest ih =>
      rw [parts, List.flatten_cons, ih]
      exact List.take_append_drop size (item :: rest)

/-- The answer does not depend on how many workers there are. -/
theorem map_eq_map (workers threshold : Nat) (f : α → β) (items : List α) :
    map workers threshold f items = items.map f := by
  simp only [map]
  split
  next => rfl
  next => rw [← List.map_flatten, flatten_parts]

end Workers

/-! ## Steps and chains -/

namespace Engine

variable (engine : Engine) (draws : Draws) (column : String)

theorem mapShared_eq {α : Type} (f : Nat → α → Cell) (items : List α) :
    engine.mapShared f items = items.zipIdx.map fun (item, place) => f place item :=
  Workers.map_eq_map _ _ _ _

@[simp] theorem length_mapShared {α : Type} (f : Nat → α → Cell) (items : List α) :
    (engine.mapShared f items).length = items.length := by
  simp [mapShared_eq]

/-- A plan makes one cell of every row. -/
theorem length_of_results? {plan : Plan} {rows : List Row} {cells : List Cell}
    (results : engine.results? draws column rows plan = some cells) :
    cells.length = rows.length := by
  cases plan with
  | identity => simp [results?] at results
  | copy name =>
      simp only [results?, Option.some.injEq] at results
      simp [← results]
  | call entry subject parameters =>
      simp only [results?] at results
      split at results
      next =>
        split at results
        next =>
          simp only [Option.some.injEq] at results
          simp [← results]
        next =>
          simp only [Option.some.injEq] at results
          simp [← results]
      next =>
        simp only [Option.some.injEq] at results
        simp [← results]

@[simp] theorem length_applyStep (step : Step) (rows : List Row) :
    (engine.applyStep draws column step rows).length = rows.length := by
  simp only [applyStep]
  split
  next => rfl
  next cells results => simp [engine.length_of_results? draws column results]

@[simp] theorem applyStep_nil (step : Step) : engine.applyStep draws column step [] = [] :=
  List.length_eq_zero_iff.1 (engine.length_applyStep draws column step [])

@[simp] theorem length_applySteps (place : Nat) (steps : List Step) (rows : List Row) :
    (engine.applySteps draws column place steps rows).length = rows.length := by
  induction steps generalizing place rows with
  | nil => rfl
  | cons step steps ih => simp [applySteps, ih]

/-- Steps are taken one after the other, each at its own place. -/
theorem applySteps_append (place : Nat) (first second : List Step) (rows : List Row) :
    engine.applySteps draws column place (first ++ second) rows =
      engine.applySteps draws column (place + first.length) second
        (engine.applySteps draws column place first rows) := by
  induction first generalizing place rows with
  | nil => rfl
  | cons step first ih =>
      simp only [List.cons_append, applySteps, ih, List.length_cons]
      congr 1
      omega

end Engine

@[simp] theorem Pipeline.length_apply (pipeline : Pipeline) (engine : Engine) (draws : Draws)
    (rows : List Row) : (pipeline.apply engine draws rows).length = rows.length :=
  engine.length_applySteps draws pipeline.column 0 pipeline.steps rows

/-! ## The pairs that are shown -/

theorem Trial.map_before_pairs (trial : Trial) {before after : List Row}
    (same : after.length = before.length) :
    (trial.pairs before after).map Pair.before =
      before.map fun row => Row.get row trial.column := by
  rw [Trial.pairs, List.map_zipWith]
  induction before generalizing after with
  | nil => rfl
  | cons row before ih =>
      cases after with
      | nil => simp at same
      | cons derived after =>
          rw [List.zipWith_cons_cons, ih (by simpa using same), List.map_cons]

namespace Preview

/-- Rows with something to show come first, and only where there are none, the others. -/
theorem shown_eq (limit : Nat) (pairs : List Pair) :
    shown limit pairs =
      if pairs.all fun pair => pair.before.isBlank then pairs.take limit
      else (pairs.filter fun pair => !pair.before.isBlank).take limit := by
  simp only [shown]
  cases limit with
  | zero => simp
  | succ limit =>
      have empty : ((pairs.filter fun pair => !pair.before.isBlank).take (limit + 1)).isEmpty =
          pairs.all fun pair => pair.before.isBlank := by
        rw [Bool.eq_iff_iff]
        simp [List.filter_eq_nil_iff]
      rw [empty]

/-- The entries that are shown: those that are not blank, or all where there are none, as
many as the limit allows. -/
def select {α : Type} (limit : Nat) (blank : α → Bool) (items : List α) : List α :=
  let filled := (items.filter fun item => !blank item).take limit
  if filled.isEmpty then items.take limit else filled

theorem select_map {α β : Type} (limit : Nat) (blank : β → Bool) (f : α → β)
    (items : List α) :
    select limit blank (items.map f) = (select limit (blank ∘ f) items).map f := by
  simp only [select, List.filter_map, ← List.map_take, List.isEmpty_map]
  rw [apply_ite (List.map f)]
  rfl

theorem mem_of_mem_select {α : Type} {limit : Nat} {blank : α → Bool} {items : List α}
    {item : α} (member : item ∈ select limit blank items) : item ∈ items := by
  simp only [select] at member
  split at member
  next => exact List.mem_of_mem_take member
  next => exact List.mem_of_mem_filter (List.mem_of_mem_take member)

/-- The places of the rows that are shown, given the cells of the column before the
candidate. -/
def places (limit : Nat) (cells : List Cell) : List Nat :=
  (select limit (fun (cell, _) => cell.isBlank) cells.zipIdx).map Prod.snd

theorem lt_of_mem_places {limit : Nat} {cells : List Cell} {place : Nat}
    (member : place ∈ places limit cells) : place < cells.length := by
  obtain ⟨⟨cell, other⟩, selected, rfl⟩ := List.mem_map.1 member
  have listed := mem_of_mem_select selected
  exact (List.getElem?_eq_some_iff.1 (List.mem_zipIdx_iff_getElem?.1 listed)).1

/-- The pairs that are shown are those at the places that are shown. -/
theorem map_shown {β : Type} (limit : Nat) (pairs : List Pair) {ofPair : Pair → β}
    {ofPlace : Nat → β}
    (same : ∀ place pair, pairs[place]? = some pair → ofPair pair = ofPlace place) :
    (shown limit pairs).map ofPair =
      (places limit (pairs.map Pair.before)).map ofPlace := by
  have left : shown limit pairs =
      (select limit (fun (pair, _) => pair.before.isBlank) pairs.zipIdx).map Prod.fst := by
    have unzipped := select_map limit (fun pair => pair.before.isBlank) Prod.fst pairs.zipIdx
    rw [List.zipIdx_map_fst] at unzipped
    exact unzipped
  have right : places limit (pairs.map Pair.before) =
      (select limit (fun (pair, _) => pair.before.isBlank) pairs.zipIdx).map Prod.snd := by
    rw [places, List.zipIdx_map, select_map, List.map_map]
    rfl
  rw [left, right, List.map_map, List.map_map]
  apply List.map_congr_left
  rintro ⟨pair, place⟩ selected
  exact same place pair (List.mem_zipIdx_iff_getElem?.1 (mem_of_mem_select selected))

end Preview
end ColumnChain
