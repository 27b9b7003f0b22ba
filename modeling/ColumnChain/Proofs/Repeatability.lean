import ColumnChain.Preview
import ColumnChain.Proofs.Naming

/-!
# Previews that can be repeated

A preview tells whether the same trial would have the same outcome again, and goes by the
name that the candidate starts with. Of the candidate this is right: what starts with another
name than that of a random function draws nothing. The chain below the candidate is not asked,
so a preview on top of a chain that draws may say so and yet have another outcome.
-/

namespace ColumnChain

/-- A candidate whose leading name calls nothing random draws nothing, whatever its text
reads as. -/
theorem Step.isDeterministic_read {text : String}
    (flagged : (Expression.leadingName? text).all Catalog.isDeterministic = true)
    (output : Output) : (Step.read text output).isDeterministic = true := by
  rw [isDeterministic, Step.read, Expression.read]
  cases structured : Expression.structured? text.toList with
  | none => rfl
  | some expression =>
      rw [Option.getD_some, Expression.callee?_of_structured? structured, Option.all_bind]
      exact flagged

namespace Preview

variable (engine : Engine) (trial : Trial)

theorem deterministic_onChain (draws : Draws) (chain : Pipeline) :
    (onChain engine draws chain trial).deterministic =
      (Expression.leadingName? trial.expression).all Catalog.isDeterministic := rfl

/-- What a candidate that draws nothing does to rows does not depend on the random source. -/
theorem ofRows_draws {left right : Draws} {rows : List Row}
    (flagged : (ofRows engine left trial rows).deterministic = true) :
    ofRows engine right trial rows = ofRows engine left trial rows := by
  have deterministic : ∀ step ∈ trial.pipeline.steps, step.isDeterministic = true := by
    intro step member
    rw [List.mem_singleton.1 member]
    exact Step.isDeterministic_read flagged trial.output
  have same : trial.pipeline.apply engine right rows = trial.pipeline.apply engine left rows :=
    engine.applySteps_draws trial.pipeline.column deterministic right left 0 0 rows
  simp only [ofRows, same]

/-- A preview of a candidate by itself that is flagged as deterministic has the same outcome
whatever the random source yields. On top of a chain it has, too, wherever the chain makes the
same rows, as a chain does that cannot call `GENERATE_ID`. -/
theorem eq_of_deterministic (left right : Draws) :
    ((alone engine left trial).deterministic = true →
      alone engine right trial = alone engine left trial) ∧
    ∀ chain : Pipeline, (onChain engine left chain trial).deterministic = true →
      (chain.apply engine (right.under 0) trial.rows =
          chain.apply engine (left.under 0) trial.rows ∨
        ∀ step ∈ chain.steps, step.isDeterministic = true) →
      onChain engine right chain trial = onChain engine left chain trial := by
  constructor
  · intro flagged
    exact ofRows_draws engine trial flagged
  · intro chain flagged settled
    have same : chain.apply engine (right.under 0) trial.rows =
        chain.apply engine (left.under 0) trial.rows := by
      rcases settled with same | deterministic
      · exact same
      · exact engine.applySteps_draws chain.column deterministic _ _ 0 0 trial.rows
    rw [onChain, same]
    exact ofRows_draws engine trial flagged

/-! ## Examples -/

/-- An engine for which the day is given. -/
def pinnedEngine : Engine :=
  Settings.engine { referenceDate := some default } default 4

/-- A random source that always yields the same. -/
def steadyDraws (value : Fin 36) : Draws :=
  fun _ _ => value

/-- A chain that gives codes and keeps what all of them start with. -/
def marking : Pipeline where
  column := "code"
  steps := [Step.read "GENERATE_ID(code)" .overwrite, Step.read "SPLIT(code, \"_\", 0)" .overwrite]

/-- A candidate on top of this chain. -/
def shouting : Trial where
  column := "code"
  expression := "UPPERCASE(code)"
  samples := [.text "x"]

/-- Codes differ, but not in what they start with. -/
theorem eq_of_deterministic_shouting :
    ((alone pinnedEngine (steadyDraws 0) shouting).deterministic = true ∧
      alone pinnedEngine (steadyDraws 1) shouting =
        alone pinnedEngine (steadyDraws 0) shouting) ∧
    (onChain pinnedEngine (steadyDraws 0) marking shouting).deterministic = true ∧
      marking.apply pinnedEngine ((steadyDraws 1).under 0) shouting.rows =
        marking.apply pinnedEngine ((steadyDraws 0).under 0) shouting.rows ∧
      onChain pinnedEngine (steadyDraws 1) marking shouting =
        onChain pinnedEngine (steadyDraws 0) marking shouting := by
  have aloneFlagged : (alone pinnedEngine (steadyDraws 0) shouting).deterministic = true := rfl
  have flagged : (onChain pinnedEngine (steadyDraws 0) marking shouting).deterministic =
      true := rfl
  have before : marking.apply pinnedEngine ((steadyDraws 0).under 0) shouting.rows =
      [Row.single "code" (.text "id")] := rfl
  have after : marking.apply pinnedEngine ((steadyDraws 1).under 0) shouting.rows =
      [Row.single "code" (.text "id")] := rfl
  have same := after.trans before.symm
  obtain ⟨repeatsAlone, repeatsOnChain⟩ :=
    eq_of_deterministic pinnedEngine shouting (steadyDraws 0) (steadyDraws 1)
  have again := repeatsOnChain marking flagged (Or.inl same)
  exact ⟨⟨aloneFlagged, repeatsAlone aloneFlagged⟩, flagged, same, again⟩

/-- A chain that gives codes and keeps what comes after one start of a code, which is seldom
anything. -/
def coding : Pipeline where
  column := "id"
  steps := [
    Step.read "GENERATE_ID(id)" .overwrite,
    Step.read "SPLIT(id, \"id_aaaaaaa\", 1)" .overwrite]

/-- A candidate on top of this chain. -/
def capitalizing : Trial where
  column := "id"
  expression := "UPPERCASE(id)"
  samples := [.text "x"]

/-- A preview on top of a chain may have another outcome although it is flagged as
deterministic: the flag is that of the candidate, and the chain draws. -/
theorem ne_of_deterministic :
    (¬ ∀ (engine : Engine) (chain : Pipeline) (trial : Trial) (left right : Draws),
      (onChain engine left chain trial).deterministic = true →
        onChain engine right chain trial = onChain engine left chain trial) ∧
      (∀ draws, (onChain pinnedEngine draws coding capitalizing).deterministic = true) ∧
      (onChain pinnedEngine (steadyDraws 0) coding capitalizing).pairs =
        [⟨.text "a", .text "A"⟩] ∧
      (onChain pinnedEngine (steadyDraws 1) coding capitalizing).pairs =
        [⟨.text "", .text ""⟩] := by
  have flagged : ∀ draws,
      (onChain pinnedEngine draws coding capitalizing).deterministic = true := by
    intro draws
    rw [deterministic_onChain]
    rfl
  have seldom : (onChain pinnedEngine (steadyDraws 0) coding capitalizing).pairs =
      [⟨.text "a", .text "A"⟩] := rfl
  have mostly : (onChain pinnedEngine (steadyDraws 1) coding capitalizing).pairs =
      [⟨.text "", .text ""⟩] := rfl
  refine ⟨fun repeats => ?_, flagged, seldom, mostly⟩
  have same := congrArg Preview.pairs
    (repeats pinnedEngine coding capitalizing (steadyDraws 0) (steadyDraws 1) (flagged _))
  rw [seldom, mostly] at same
  simp at same

end Preview
end ColumnChain
