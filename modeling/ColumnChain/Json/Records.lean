import ColumnChain.Json.Tables

/-!
# Records in JSON

Transformations, and what is asked of them, as JSON values. The names of fields and words
are those of the ledger format.
-/

namespace ColumnChain

/-- The JSON value of an output. -/
def Output.toJson : Output → Json
  | .overwrite => .object [("mode", .text "overwrite")]
  | .column name => .object [("mode", .text "newColumn"), ("name", .text name)]

/-- The JSON value of a status. -/
def Status.toJson (status : Status) : Json :=
  .text status.label

/-- The JSON value of an instant. -/
def Instant.toJson (instant : Instant) : Json :=
  .text instant.stamp

/-- The JSON value of a transformation. The time of the last change is left out when
there was none. -/
def Transformation.toJson (t : Transformation) : Json :=
  .object <| [
    ("id", .text t.id),
    ("datasetId", .text t.dataset),
    ("targetColumn", .text t.column),
    ("expression", .text t.expression),
    ("functionType", .text t.category.label),
    ("status", t.status.toJson),
    ("sequenceNumber", Json.ofNat t.sequence.toNat),
    ("createdAt", t.created.toJson),
    ("output", t.output.toJson)] ++
    match t.updated with
    | none => []
    | some instant => [("updatedAt", instant.toJson)]

/-- The JSON value of a proposal. -/
def Proposal.toJson (proposal : Proposal) : Json :=
  .object [
    ("datasetId", .text proposal.dataset),
    ("column", .text proposal.column),
    ("expression", .text proposal.expression),
    ("status", Json.ofOption Status.toJson proposal.status),
    ("output", Json.ofOption Output.toJson proposal.output)]

/-- The JSON value of a change. -/
def Change.toJson (change : Change) : Json :=
  .object [
    ("sequenceNumber", Json.ofOption (fun n => Json.ofNat (UInt32.toNat n)) change.sequence),
    ("status", Json.ofOption Status.toJson change.status)]

namespace Deletion

/-- The name of a way to delete. -/
def label : Deletion → String
  | soft => "soft"
  | hard => "hard"

/-- The way to delete with a name. -/
def ofLabel? (name : String) : Option Deletion :=
  [soft, hard].find? fun mode => mode.label == name

end Deletion

namespace Json

/-- A number of a transformation. -/
def asSequence : Decoder UInt32 := fun value =>
  (asNatural (2 ^ 32) value).map UInt32.ofNat

/-- A status. -/
def asStatus : Decoder Status :=
  asWord Status.ofLabel?

/-- A way to delete. -/
def asDeletion : Decoder Deletion :=
  asWord Deletion.ofLabel?

/-- A category. -/
def asCategory : Decoder Category :=
  asWord Category.ofLabel?

/-- Whether an output goes into a column of its own, by the word for it. -/
def hasColumn? : String → Option Bool
  | "overwrite" => some false
  | "newColumn" => some true
  | _ => none

/-- An output within so many containers. -/
def asOutput (within : Nat) : Decoder Output := fun value => do
  match ← asTagged within "mode" (asTagWord hasColumn?) value with
  | (true, content) =>
      let fields ← asWholeRecord [field "name" asText] content
      return .column (← fields.required "name" asText)
  | (false, list (_ :: _)) => throw .wrongForm
  | (false, _) => return .overwrite

/-- A transformation within so many containers. -/
def asTransformation (within : Nat) : Decoder Transformation := fun value => do
  let fields ← asRecord [
    field "id" asText,
    field "datasetId" asText,
    field "targetColumn" asText,
    field "expression" asText,
    field "functionType" asCategory,
    field "status" asStatus,
    field "sequenceNumber" asSequence,
    field "createdAt" asInstant,
    fieldOr "output" (asOutput (within + 1)),
    fieldOr "updatedAt" (asOptional asInstant)] value
  return {
    id := ← fields.required "id" asText
    dataset := ← fields.required "datasetId" asText
    column := ← fields.required "targetColumn" asText
    expression := ← fields.required "expression" asText
    category := ← fields.required "functionType" asCategory
    status := ← fields.required "status" asStatus
    sequence := ← fields.required "sequenceNumber" asSequence
    created := ← fields.required "createdAt" asInstant
    output := ← fields.withDefault "output" (asOutput (within + 1)) .overwrite
    updated := ← fields.withDefault "updatedAt" (asOptional asInstant) none }

/-- A proposal. -/
def asProposal : Decoder Proposal := fun value => do
  let fields ← asRecord [
    field "datasetId" asText,
    field "column" asText,
    field "expression" asText,
    fieldOr "status" (asOptional asStatus),
    fieldOr "output" (asOptional (asOutput 1))] value
  return {
    dataset := ← fields.required "datasetId" asText
    column := ← fields.required "column" asText
    expression := ← fields.required "expression" asText
    status := ← fields.withDefault "status" (asOptional asStatus) none
    output := ← fields.withDefault "output" (asOptional (asOutput 1)) none }

/-- A change. -/
def asChange : Decoder Change := fun value => do
  let fields ← asRecord [
    fieldOr "sequenceNumber" (asOptional asSequence),
    fieldOr "status" (asOptional asStatus)] value
  return {
    sequence := ← fields.withDefault "sequenceNumber" (asOptional asSequence) none
    status := ← fields.withDefault "status" (asOptional asStatus) none }

/-- A candidate for a preview, with its data. -/
def asTrial : Decoder Trial := fun value => do
  let asSamples := asList (asCell 2)
  let asRows := asList (asRow 2)
  let fields ← asRecord [
    field "column" asText,
    field "expression" asText,
    fieldOr "samples" asSamples,
    fieldOr "context" asRows,
    fieldOr "output" (asOutput 1)] value
  return {
    column := ← fields.required "column" asText
    expression := ← fields.required "expression" asText
    samples := ← fields.withDefault "samples" asSamples []
    context := ← fields.withDefault "context" asRows []
    output := ← fields.withDefault "output" (asOutput 1) .overwrite }

end Json

/-- The JSON value of a candidate for a preview. -/
def Trial.toJson (trial : Trial) : Json :=
  .object <| [
    ("column", .text trial.column),
    ("expression", .text trial.expression),
    ("samples", .list (trial.samples.map Cell.toJson))] ++
    (if trial.context.isEmpty then []
      else [("context", .list (trial.context.map Row.toJson))]) ++
    [("output", trial.output.toJson)]

end ColumnChain
