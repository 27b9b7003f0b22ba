import ColumnChain.Json.Tables
import ColumnChain.Settings

/-!
# Settings in JSON

The settings of a user as a JSON value. Every setting has a default and may be missing.
-/

namespace ColumnChain

/-- The name of a rule for truthiness. -/
def Truthiness.label : Truthiness → String
  | .existence => "existence"
  | .strict => "strict"

/-- The rule for truthiness with a name. -/
def Truthiness.ofLabel? (name : String) : Option Truthiness :=
  [Truthiness.existence, .strict].find? fun rule => rule.label == name

/-- The JSON value of settings. -/
def Settings.toJson (settings : Settings) : Json :=
  .object [
    ("preview_limit", Json.ofNat settings.previewLimit),
    ("parallel_threshold", Json.ofNat settings.parallelThreshold),
    ("if_semantics", .text settings.truthiness.label),
    ("reference_date", Json.ofOption Date.toJson settings.referenceDate)]

namespace Json

/-- A count that fits into 64 bits. -/
def asCount : Decoder Nat :=
  asNatural (2 ^ 64)

/-- Settings. -/
def asSettings : Decoder Settings := fun value => do
  let asTruthiness := asWord Truthiness.ofLabel?
  let fields ← asRecord [
    fieldOr "preview_limit" asCount,
    fieldOr "parallel_threshold" asCount,
    fieldOr "if_semantics" asTruthiness,
    fieldOr "reference_date" (asOptional asDate)] value
  return {
    previewLimit := ← fields.withDefault "preview_limit" asCount 5
    parallelThreshold := ← fields.withDefault "parallel_threshold" asCount 10000
    truthiness := ← fields.withDefault "if_semantics" asTruthiness .existence
    referenceDate := ← fields.withDefault "reference_date" (asOptional asDate) none }

end Json
end ColumnChain
