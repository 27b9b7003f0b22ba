import ColumnChain.Json.Records

/-!
# Expressions in JSON

Expressions, steps and pipelines as JSON values. A tag tells the forms of an expression
and the kinds of an argument apart.
-/

namespace ColumnChain

/-- The JSON value of an argument. -/
def Argument.toJson : Argument → Json
  | .text value => .object [("kind", .text "string_literal"), ("value", .text value)]
  | .number value => .object [("kind", .text "number_literal"), ("value", .real value)]
  | .column name => .object [("kind", .text "column_reference"), ("value", .text name)]

/-- The JSON value of an expression. -/
def Expression.toJson : Expression → Json
  | .call invocation => .object [
      ("type", .text "call"),
      ("functionName", .text invocation.function),
      ("args", .list (invocation.args.map Argument.toJson))]
  | .bare name => .object [("type", .text "bare"), ("name", .text name)]
  | .opaqueText text => .object [("type", .text "opaque"), ("text", .text text)]

/-- The JSON value of a step. -/
def Step.toJson (step : Step) : Json :=
  .object [("expression", step.expression.toJson), ("output", step.output.toJson)]

/-- The JSON value of a pipeline. -/
def Pipeline.toJson (pipeline : Pipeline) : Json :=
  .object [
    ("column", .text pipeline.column),
    ("steps", .list (pipeline.steps.map Step.toJson))]

namespace Json

/-- The kinds of arguments. -/
inductive ArgumentKind where
  | text
  | number
  | column

/-- The kind of argument with a name. -/
def argumentKind? : String → Option ArgumentKind
  | "string_literal" => some .text
  | "number_literal" => some .number
  | "column_reference" => some .column
  | _ => none

/-- A number. -/
def asNumber : Decoder Float
  | integer value => .ok (Float.ofInt value)
  | real value => .ok value
  | other => .error (unexpected other)

/-- An argument in a value that has been looked at as a whole. -/
def asArgument : Decoder Argument := fun value => do
  let asKind := asWord argumentKind?
  let fields ← asWholeRecord [field "kind" asKind, field "value" Except.ok] value
  let content ← fields.required "value" Except.ok
  match ← fields.required "kind" asKind with
  | .text => return .text (← asText content)
  | .number => return .number (← asNumber content)
  | .column => return .column (← asText content)

/-- The forms of expressions. -/
inductive ExpressionForm where
  | call
  | bare
  | opaqueText

/-- The form of expression with a name. -/
def expressionForm? : String → Option ExpressionForm
  | "call" => some .call
  | "bare" => some .bare
  | "opaque" => some .opaqueText
  | _ => none

/-- An expression within so many containers. -/
def asExpression (within : Nat) : Decoder Expression := fun value => do
  match ← asTagged within "type" (asTagWord expressionForm?) value with
  | (.call, content) =>
      let asArguments := asList asArgument
      let fields ← asWholeRecord [field "functionName" asText, field "args" asArguments]
        content
      return .call {
        function := ← fields.required "functionName" asText
        args := ← fields.required "args" asArguments }
  | (.bare, content) =>
      let fields ← asWholeRecord [field "name" asText] content
      return .bare (← fields.required "name" asText)
  | (.opaqueText, content) =>
      let fields ← asWholeRecord [field "text" asText] content
      return .opaqueText (← fields.required "text" asText)

/-- A step within so many containers. -/
def asStep (within : Nat) : Decoder Step := fun value => do
  let fields ← asRecord [
    field "expression" (asExpression (within + 1)),
    fieldOr "output" (asOutput (within + 1))] value
  return {
    expression := ← fields.required "expression" (asExpression (within + 1))
    output := ← fields.withDefault "output" (asOutput (within + 1)) .overwrite }

/-- A pipeline. -/
def asPipeline : Decoder Pipeline := fun value => do
  let asSteps := asList (asStep 2)
  let fields ← asRecord [field "column" asText, field "steps" asSteps] value
  return {
    column := ← fields.required "column" asText
    steps := ← fields.required "steps" asSteps }

end Json
end ColumnChain
