import ColumnChain.Catalog
import ColumnChain.CommandLine.Invocation
import ColumnChain.Json.Records
import ColumnChain.Json.Writing
import ColumnChain.Preview

/-!
# Reports

What commands print, as lines. Lists are grouped under headings with an empty line
between the groups.
-/

namespace ColumnChain.CommandLine

/-- A count, filled up with blanks to a width of three. -/
def aligned (n : Nat) : String :=
  let digits := toString n
  String.ofList (List.replicate (3 - digits.length) ' ') ++ digits

/-- A transformation on one line. -/
def describe (t : Transformation) : String :=
  aligned t.sequence.toNat ++ ". " ++ t.expression ++ " (" ++ t.category.label ++ ") [" ++
    t.status.label ++ "] " ++ t.id

/-- A line that belongs under a heading. -/
def indented (line : String) : String :=
  "  " ++ line

/-- Lines, with a heading before every run of items that share it; `current` is the heading
of the items before. -/
def grouped {α : Type} (heading : α → String) (line : α → String)
    (current : Option String) : List α → List String
  | [] => []
  | item :: rest =>
      let title := heading item
      let lines := indented (line item) :: grouped heading line (some title) rest
      match current with
      | none => title :: lines
      | some current => if current = title then lines else "" :: title :: lines

/-- The lines of a JSON value. -/
def jsonLines (json : Json) : List String :=
  [String.ofList json.pretty]

/-- A parameter, with its default in quotes. -/
def describeParameter (parameter : Parameter) : String :=
  match parameter.default with
  | none => parameter.name
  | some default => parameter.name ++ "=\"" ++ default ++ "\""

/-- What is special about a function, in brackets after a blank. -/
def tagsOf (entry : Entry) : String :=
  let tags := (if entry.isAggregate then ["column"] else []) ++
    (if entry.deterministic then [] else ["random"])
  if tags.isEmpty then "" else " [" ++ ", ".intercalate tags ++ "]"

/-- A function of the catalogue on one line. -/
def describeEntry (entry : Entry) : String :=
  let parameters := entry.parameters.map describeParameter ++
    (if entry.variadic then ["..."] else [])
  entry.name ++ "(" ++ ", ".intercalate parameters ++ ")" ++ tagsOf entry ++ "  " ++
    entry.description

/-- The report of a list of functions. -/
def functionsReport (entries : List Entry) : List String :=
  grouped (fun entry => Text.uppercased entry.category.label) describeEntry none entries

/-- The report of the transformations of a data file. -/
def transformationsReport (file : String) (records : List Transformation) : List String :=
  if records.isEmpty then
    ["Note: No transformations.",
      "Run refinery add " ++ file ++ " -c <column> '<EXPRESSION>' to add one."]
  else grouped Transformation.column describe none records

/-- A pair of a preview on one line. -/
def describePair (pair : Pair) : String :=
  if pair.isChanged then pair.before.toText ++ " → " ++ pair.after.toText
  else pair.before.toText ++ " (unchanged)"

/-- The report of a preview. -/
def previewReport (expression column : String) (preview : Preview) : List String :=
  let isUnknown := preview.function.any fun name => (Catalog.find? name).isNone
  ["Preview " ++ expression ++ " on " ++ column] ++
    (if isUnknown then ["Note: Unknown function; values pass through unchanged."] else []) ++
    [""] ++ preview.pairs.map (fun pair => indented (describePair pair)) ++
    ["", toString preview.changed ++ " of " ++ toString preview.pairs.length ++
      " values changed"] ++
    (if preview.deterministic then []
      else ["Note: Output is random and will differ when applied."])

/-- The report of a cleanup. -/
def cleanupReport (removed : Nat) : List String :=
  if removed = 0 then ["Clean: No duplicates found."]
  else ["Removed " ++ toString removed ++ " duplicate transformation" ++
    (if removed = 1 then "" else "s")]

/-- What is said before derived rows are written. -/
def applyReport (verbose : Bool) (live : List Transformation) : List String :=
  if live.isEmpty then
    ["Warning: No active transformations; exporting the data unchanged."]
  else
    ("Applying " ++ toString live.length ++ " transformations") ::
      (if verbose then live.map fun t => indented (describe t) else [])

end ColumnChain.CommandLine
