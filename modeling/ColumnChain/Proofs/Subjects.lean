import ColumnChain.Proofs.Locality
import ColumnChain.Proofs.Randomness

/-!
# The subject of a call

A function that is called with one argument more than it has parameters is called on a
subject: the token in the first place names the cell that it works on and is no parameter. A
token that names no column stands for the column of the chain there, so that it does not
matter which one is written.
-/

namespace ColumnChain

/-- The step that calls a function on a subject, with some further arguments. -/
def Step.calling (function subject : String) (args : List Argument) (output : Output) : Step :=
  ⟨.call ⟨function, .column subject :: args⟩, output⟩

namespace Step

variable {function subject : String} {args : List Argument} {output : Output} {entry : Entry}

/-- With one argument too many the first token is the subject, whatever the columns are, and
the others are the parameters. -/
theorem plan_calling (found : Catalog.find? function = some entry)
    (fixed : entry.variadic = false) (full : args.length = entry.parameters.length)
    (column : String) (rows : List Row) :
    (calling function subject args output).plan column rows =
      .call entry (some subject) args := by
  have spare : Plan.hasSpare entry (.column subject :: args) = true := by
    simp [Plan.hasSpare, fixed, full]
  simp only [plan, calling, Plan.ofExpression, found, Call.splitSubject, spare, Bool.or_true,
    if_true]

end Step

namespace Row

theorem input_self (row : Row) (column : String) :
    row.input column (some column) = Row.get row column := by
  rw [input, get]
  cases Row.get? row column <;> rfl

/-- A subject that is no column stands for the column of the chain. -/
theorem input_of_absent {row : Row} {name : String} (absent : row.contains name = false)
    (column : String) : row.input column (some name) = Row.get row column := by
  rw [contains_eq_isSome_get?, Option.isSome_eq_false_iff, Option.isNone_iff_eq_none] at absent
  rw [input, absent, Option.getD_none]

end Row

namespace Engine

variable (engine : Engine) (draws : Draws) {column : String} {rows : List Row}

/-- A call makes the same of rows for subjects that stand for the same cells in them. -/
theorem results?_subject_congr {entry : Entry} {left right : Option String}
    {parameters : List Argument}
    (same : ∀ row ∈ rows, row.input column left = row.input column right) :
    engine.results? draws column rows (.call entry left parameters) =
      engine.results? draws column rows (.call entry right parameters) := by
  have inputs := List.map_congr_left same
  simp only [results?, inputs]
  split
  next => rfl
  next =>
    rw [mapShared_eq, mapShared_eq]
    apply congrArg some
    apply List.map_congr_left
    rintro ⟨row, place⟩ member
    simp only [same row (List.fst_mem_of_mem_zipIdx member)]

end Engine

namespace Pipeline

/-- A function other than `GENERATE_ID` that takes a fixed number of arguments, called with
one more: a token in the first place that names no column makes the same rows as the column
of the chain. -/
theorem apply_of_placeholder (engine : Engine) {function token column : String}
    {entry : Entry} (found : Catalog.find? function = some entry)
    (fixed : entry.variadic = false) (other : entry.name ≠ "GENERATE_ID")
    {args : List Argument} (full : args.length = entry.parameters.length) {rows : List Row}
    (placeholder : token = column ∨ ∀ row ∈ rows, row.contains token = false)
    (output : Output) (draws others : Draws) :
    (⟨column, [Step.calling function token args output]⟩ : Pipeline).apply engine draws rows =
      (⟨column, [Step.calling function column args output]⟩ : Pipeline).apply engine others
        rows := by
  have member := Catalog.mem_of_find? found
  have deterministic : (Step.calling function column args output).isDeterministic = true := by
    rw [Step.isDeterministic, Step.calling, Expression.callee?, found]
    exact (Catalog.deterministic_eq_true_iff member).2 other
  have inputs : ∀ row ∈ rows,
      row.input column (some token) = row.input column (some column) := by
    intro row inside
    rw [Row.input_self]
    rcases placeholder with rfl | absent
    · exact row.input_self token
    · exact Row.input_of_absent (absent row inside) column
  simp only [apply, Engine.applySteps]
  rw [engine.applyStep_draws column deterministic (others.under 0) (draws.under 0)]
  simp only [Engine.applyStep, Step.plan_calling found fixed full,
    engine.results?_subject_congr _ inputs]
  rfl

/-- Rows of which one has no cell in the column of the chain, and one none to search for. -/
def noteRows : List Row :=
  [.ofPairs [("note", .text "a-b"), ("mark", .text "-")], .single "mark" (.text "x"),
    .single "note" (.text "mark my words")]

/-- Of three arguments the first is not searched for, whether it is the column of the chain or
no column at all, and the second is read in every row. -/
theorem apply_of_placeholder_noteRows :
    ∃ entry, Catalog.find? "REPLACE" = some entry ∧ entry.variadic = false ∧
      entry.name ≠ "GENERATE_ID" ∧
      [Argument.column "mark", .text "/"].length = entry.parameters.length ∧
      (∀ row ∈ noteRows, row.contains "it" = false) ∧
      ∀ (engine : Engine) (draws others : Draws),
        (⟨"note", [Step.read "REPLACE(it, mark, '/')" (.column "clean")]⟩ : Pipeline).apply
            engine draws noteRows =
          (⟨"note", [Step.read "REPLACE(note, mark, '/')" (.column "clean")]⟩ : Pipeline).apply
            engine others noteRows := by
  have found : Catalog.find? "REPLACE" = some (Catalog.scalar .text "REPLACE"
      [Catalog.required "search", Catalog.optional "replacement" ""]
      "Replace every occurrence; /pattern/ or /pattern/i is a regular expression"
      Function.replace) := rfl
  have absent : ∀ row ∈ noteRows, row.contains "it" = false := by decide
  have readsToken : Step.read "REPLACE(it, mark, '/')" (.column "clean") =
      Step.calling "REPLACE" "it" [.column "mark", .text "/"] (.column "clean") := by decide
  have readsColumn : Step.read "REPLACE(note, mark, '/')" (.column "clean") =
      Step.calling "REPLACE" "note" [.column "mark", .text "/"] (.column "clean") := by decide
  refine ⟨_, found, rfl, by decide, rfl, absent, fun engine draws others => ?_⟩
  rw [readsToken, readsColumn]
  exact apply_of_placeholder engine found rfl (by decide) rfl (Or.inr absent) _ draws others

end Pipeline
end ColumnChain
