import ColumnChain.Json.Reading
import ColumnChain.Json.Records

/-!
# Request bodies

What requests carry. A body counts only if it is declared to be JSON and not too long. It
is read up to the end of its first value.
-/

namespace ColumnChain.Service

/-- Why a request does not get as far as its action. -/
inductive Rejection where
  | badRequest
  | noRoute
  | badMethod
  | tooLong
  | badMediaType
  | badForm
  deriving DecidableEq

namespace Rejection

/-- The status of the response. -/
def status : Rejection → Nat
  | badRequest => 400
  | noRoute => 404
  | badMethod => 405
  | tooLong => 413
  | badMediaType => 415
  | badForm => 422

end Rejection

/-- Whether a media type is JSON or a form of it. -/
def isJsonType (mediaType : String) : Bool :=
  let essence := (mediaType.toList.takeWhile (· != ';')).map Char.toLower
  let essence := (essence.reverse.dropWhile (· == ' ')).reverse
  let suffix := (essence.reverse.takeWhile fun c => c != '+' && c != '/').reverse
  essence.take 12 == "application/".toList && 12 < essence.length &&
    suffix == "json".toList

/-- The most bytes of a body that are read. -/
def longestBody : Nat := 2097152

/-- Understand a body of a media type. -/
def readBody {α : Type} (mediaType : Option String) (body : String)
    (decode : Json.Decoder α) : Except Rejection α :=
  if !mediaType.any isJsonType then .error .badMediaType
  else if longestBody < body.utf8ByteSize then .error .tooLong
  else match decode (Json.read body.toList).1 with
    | .ok value => .ok value
    | .error .notJson => .error .badRequest
    | .error .wrongForm => .error .badForm

/-- The body of a request to attach an expression: a proposal but for its dataset. -/
def asProposalFor (dataset : String) : Json.Decoder Proposal := fun value => do
  let asStatus := Json.asOptional Json.asStatus
  let asOutput := Json.asOptional (Json.asOutput 1)
  let fields ← Json.asRecord [
    Json.field "column" Json.asText,
    Json.field "expression" Json.asText,
    Json.field "status" asStatus,
    Json.field "output" asOutput] value
  return {
    dataset
    column := ← fields.required "column" Json.asText
    expression := ← fields.required "expression" Json.asText
    status := ← fields.withDefault "status" asStatus none
    output := ← fields.withDefault "output" asOutput none }

/-- The body of a request to put a column in order: the ids. -/
def asOrder : Json.Decoder (List String) := fun value => do
  let asIds := Json.asList Json.asText
  let fields ← Json.asRecord [Json.field "ids" asIds] value
  fields.required "ids" asIds

/-- A request for a preview. -/
structure PreviewBody where
  column : String
  expression : String
  /-- Samples; without them the rows of the dataset are used. -/
  samples : Option (List Cell)
  /-- Whether the chain that is there does not count. -/
  standalone : Bool
  output : Output
  deriving DecidableEq

/-- The body of a request for a preview. -/
def asPreviewBody : Json.Decoder PreviewBody := fun value => do
  let asSamples := Json.asOptional (Json.asList (Json.asCell 2))
  let asOutput := Json.asOptional (Json.asOutput 1)
  let fields ← Json.asRecord [
    Json.field "column" Json.asText,
    Json.field "expression" Json.asText,
    Json.field "samples" asSamples,
    Json.fieldOr "standalone" Json.asBool,
    Json.field "output" asOutput] value
  return {
    column := ← fields.required "column" Json.asText
    expression := ← fields.required "expression" Json.asText
    samples := ← fields.withDefault "samples" asSamples none
    standalone := ← fields.withDefault "standalone" Json.asBool false
    output := (← fields.withDefault "output" asOutput none).getD .overwrite }

end ColumnChain.Service
