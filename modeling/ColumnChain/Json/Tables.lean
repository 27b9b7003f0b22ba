import ColumnChain.Dataset
import ColumnChain.Json.Decoding
import ColumnChain.Preview

/-!
# Tables in JSON

Cells, rows and columns as JSON values. A cell is the JSON value of its kind, and a row
is an object with a member for every column.
-/

namespace ColumnChain

/-- The JSON value of a cell. -/
def Cell.toJson : Cell → Json
  | .null => .null
  | .bool value => .bool value
  | .number value => .real value
  | .text value => .text value

/-- The JSON object of a row. -/
def Row.toJson (row : Row) : Json :=
  .object (row.entries.map fun (name, cell) => (name, cell.toJson))

/-- The JSON value of an integer. -/
def Json.ofNat (n : Nat) : Json :=
  .integer n

/-- The JSON value of something that may be absent. -/
def Json.ofOption {α : Type} (toJson : α → Json) (value : Option α) : Json :=
  (value.map toJson).getD .null

/-- The JSON value of a date. -/
def Date.toJson (d : Date) : Json :=
  .text (String.ofList d.iso)

/-- The JSON value of a column. -/
def Column.toJson (column : Column) : Json :=
  .object [("name", .text column.name), ("type", .text column.type.label)]

/-- The JSON value of a function of the catalogue. -/
def Entry.toJson (entry : Entry) : Json :=
  let parameter (p : Parameter) :=
    Json.object [("name", .text p.name), ("default", Json.ofOption Json.text p.default)]
  .object [
    ("name", .text entry.name),
    ("category", .text entry.category.label),
    ("kind", .text (if entry.isAggregate then "aggregate" else "scalar")),
    ("deterministic", .bool entry.deterministic),
    ("variadic", .bool entry.variadic),
    ("params", .list (entry.parameters.map parameter)),
    ("description", .text entry.description)]

/-- The JSON value of a pair of cells. -/
def Pair.toJson (pair : Pair) : Json :=
  .object [("before", pair.before.toJson), ("after", pair.after.toJson)]

/-- The JSON value of a preview. -/
def Preview.toJson (preview : Preview) : Json :=
  .object [
    ("pairs", .list (preview.pairs.map Pair.toJson)),
    ("changed", Json.ofNat preview.changed),
    ("function", Json.ofOption Json.text preview.function),
    ("deterministic", .bool preview.deterministic)]

namespace Json

/-- A cell within so many containers. -/
def asCell (within : Nat) : Decoder Cell := fun value => do
  match ← asWhole within value with
  | null => return .null
  | bool value => return .bool value
  | integer value => return .number (Float.ofInt value)
  | real value => return .number value
  | text value => return .text value
  | list _ | object _ | void | broken => throw .wrongForm

/-- The cells of the members of an object. -/
def asCells (within : Nat) : List (String × Json) → Except Misfit (List (String × Cell))
  | [] => .ok []
  | (name, value) :: rest => do
      let cell ← asCell within value
      return (name, cell) :: (← asCells within rest)

/-- A row within so many containers. -/
def asRow (within : Nat) : Decoder Row
  | object members => do return Row.ofPairs (← asCells (within + 1) members)
  | other => .error (unexpected other)

/-- A column type. -/
def asColumnType : Decoder ColumnType :=
  asWord ColumnType.ofLabel?

end Json
end ColumnChain
