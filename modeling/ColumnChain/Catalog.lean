import ColumnChain.Expression.Reading
import ColumnChain.Function.Arithmetic
import ColumnChain.Function.Calendar
import ColumnChain.Function.Choice
import ColumnChain.Function.Statistic
import ColumnChain.Function.Text

/-!
# The catalogue of functions

Every function that expressions can call, in display order, with its parameters, its
category and its evaluator. Functions are found by name, whatever the letter case and
the blanks around it; a name outside the catalogue calls nothing.
-/

namespace ColumnChain

/-- What a function is about. -/
inductive Category where
  | text
  | arithmetic
  | date
  | choice
  | column
  deriving DecidableEq, Inhabited

namespace Category

/-- The name under which a category is recorded and shown. -/
def label : Category → String
  | text => "string"
  | arithmetic => "math"
  | date => "date"
  | choice => "utility"
  | column => "transform"

/-- Every category. -/
def all : List Category :=
  [text, arithmetic, date, choice, column]

/-- The category with a name. -/
def ofLabel? (name : String) : Option Category :=
  all.find? fun category => category.label == name

theorem ofLabel?_label (category : Category) : ofLabel? category.label = some category := by
  cases category <;> rfl

end Category

/-- A parameter; without a default it has to be given. -/
structure Parameter where
  name : String
  default : Option String
  deriving DecidableEq

/-- How a function is evaluated. -/
inductive Evaluator where
  | scalar (run : Function.Scalar)
  | aggregate (prepare : Function.Statistic)

/-- A function of the catalogue. -/
structure Entry where
  /-- The name, in upper case. -/
  name : String
  category : Category
  parameters : List Parameter
  description : String
  evaluator : Evaluator
  /-- Whether more arguments than there are parameters are of use. -/
  variadic : Bool := false
  /-- Whether the answer depends on nothing random. -/
  deterministic : Bool := true

namespace Entry

/-- Whether the function needs the whole column. -/
def isAggregate (entry : Entry) : Bool :=
  match entry.evaluator with
  | .scalar _ => false
  | .aggregate _ => true

/-- The defaults of parameters up to the first that has none. -/
def leadingDefaults : List Parameter → List Cell
  | [] => []
  | parameter :: rest =>
      match parameter.default with
      | some value => .text value :: leadingDefaults rest
      | none => []

/-- The arguments with the defaults of the parameters left out at the end. -/
def withDefaults (entry : Entry) (args : List Cell) : List Cell :=
  args ++ leadingDefaults (entry.parameters.drop args.length)

end Entry

namespace Catalog

/-- A parameter that has to be given. -/
def required (name : String) : Parameter :=
  ⟨name, none⟩

/-- A parameter that may be left out. -/
def optional (name default : String) : Parameter :=
  ⟨name, some default⟩

open ColumnChain.Function

/-- A function on single cells that has no use for more arguments than parameters. -/
def scalar (category : Category) (name : String) (parameters : List Parameter)
    (description : String) (run : Scalar) : Entry :=
  { name, category, parameters, description, evaluator := .scalar run }

/-- A function that needs the whole column. -/
def aggregate (name : String) (parameters : List Parameter) (description : String)
    (prepare : Statistic) : Entry :=
  { name, category := .column, parameters, description, evaluator := .aggregate prepare }

/-- The same function, with a use for any number of arguments. -/
def variadically (entry : Entry) : Entry :=
  { entry with variadic := true }

/-- The same function, known to draw on the random source. -/
def randomly (entry : Entry) : Entry :=
  { entry with deterministic := false }

/-- Functions on text. -/
def textEntries : List Entry :=
  [ scalar .text "UPPERCASE" [] "Convert text to upper case" uppercase,
    scalar .text "LOWERCASE" [] "Convert text to lower case" lowercase,
    scalar .text "CAPITALIZE" []
      "Upper-case the first character and lower-case the rest" capitalize,
    scalar .text "TITLE_CASE" [] "Capitalize every word" titleCase,
    scalar .text "TRIM" [] "Remove leading and trailing whitespace" trim,
    scalar .text "REVERSE" [] "Reverse the characters" reverse,
    scalar .text "LENGTH" [] "Number of characters" length,
    scalar .text "CLEAN" [] "Strip non-printable characters" clean,
    scalar .text "REMOVE_SPACES" [] "Remove all whitespace" removeSpaces,
    scalar .text "LEFT" [optional "length" "1"] "First n characters" left,
    scalar .text "RIGHT" [optional "length" "1"] "Last n characters" right,
    scalar .text "SUBSTRING" [optional "start" "0", required "length"]
      "Characters from a 0-based start, optionally limited to a length" substring,
    scalar .text "REPLACE" [required "search", optional "replacement" ""]
      "Replace every occurrence; /pattern/ or /pattern/i is a regular expression" replace,
    scalar .text "SPLIT" [optional "delimiter" ",", optional "index" "0"]
      "Split on a delimiter and take the part at a 0-based index" split,
    scalar .text "PAD_LEFT" [required "length", optional "char" "0"]
      "Pad on the left to a minimum length" padLeft,
    scalar .text "PAD_RIGHT" [required "length", optional "char" " "]
      "Pad on the right to a minimum length" padRight,
    variadically <| scalar .text "CONCAT" [optional "separator" ""]
      "Join the value with further values using a separator" concat ]

/-- Functions on numbers. -/
def arithmeticEntries : List Entry :=
  [ scalar .arithmetic "ADD" [optional "value" "0"] "Add a number" add,
    scalar .arithmetic "SUBTRACT" [optional "value" "0"] "Subtract a number" subtract,
    scalar .arithmetic "MULTIPLY" [optional "value" "1"] "Multiply by a number" multiply,
    scalar .arithmetic "DIVIDE" [optional "value" "1"]
      "Divide by a number; division by zero gives 0" divide,
    scalar .arithmetic "ROUND" [optional "decimals" "0"] "Round half away from zero" round,
    scalar .arithmetic "CEIL" [] "Round up" ceil,
    scalar .arithmetic "FLOOR" [] "Round down" floor,
    scalar .arithmetic "ABS" [] "Absolute value" abs,
    scalar .arithmetic "POWER" [optional "exponent" "2"] "Raise to a power" power,
    scalar .arithmetic "SQRT" [] "Square root of a non-negative number" sqrt,
    scalar .arithmetic "MOD" [required "divisor"] "Remainder; a zero divisor gives 0" modulo,
    scalar .arithmetic "MIN" [required "value"] "Smaller of the value and a number" minimum,
    scalar .arithmetic "MAX" [required "value"] "Larger of the value and a number" maximum ]

/-- Functions on dates. -/
def dateEntries : List Entry :=
  [ scalar .date "FORMAT_DATE" [optional "format" "YYYY-MM-DD"]
      "Reformat a date (YYYY-MM-DD, MM/DD/YYYY, DD/MM/YYYY, YYYY, MM, DD)" formatDate,
    scalar .date "EXTRACT_YEAR" [] "Year of a date" extractYear,
    scalar .date "EXTRACT_MONTH" [] "Month of a date" extractMonth,
    scalar .date "EXTRACT_DAY" [] "Day of the month of a date" extractDay,
    scalar .date "DATE_ADD" [optional "amount" "0", optional "unit" "days"]
      "Add days, weeks, months or years" dateAdd,
    scalar .date "WEEKDAY" [] "English weekday name" weekday,
    scalar .date "DAYS_BETWEEN" [required "end_date"]
      "Days from the value to an end date (default today)" daysBetween,
    scalar .date "AGE_IN_YEARS" [] "Whole years from the value to today" ageInYears ]

/-- Functions that choose, copy or invent. -/
def choiceEntries : List Entry :=
  [ variadically <| scalar .choice "COALESCE" [optional "fallback" ""]
      "First non-blank of the value and the fallbacks" coalesce,
    scalar .choice "IF_EMPTY" [optional "default" ""]
      "Replace a blank value with a default" ifEmpty,
    scalar .choice "IF" [optional "true_value" "true", optional "false_value" "false"]
      "Choose a value depending on whether the input is truthy" ifTruthy,
    randomly <| scalar .choice "GENERATE_ID" [optional "prefix" "id"]
      "Random identifier with a prefix" generateId,
    scalar .choice "DUPLICATE" [] "Copy the value unchanged" duplicate ]

/-- Functions that look at the whole column. -/
def columnEntries : List Entry :=
  [ aggregate "NORMALIZE" [required "min", required "max"]
      "Rescale into [0, 1] using the column or given bounds" normalize,
    aggregate "STANDARDIZE" [] "Z-score using the population standard deviation" standardize,
    aggregate "RANK" [optional "order" "asc"] "1-based competition rank within the column" rank,
    aggregate "BUCKET" [optional "size" "10"]
      "Label the fixed-width bucket containing the value" bucket,
    aggregate "PERCENTILE" [] "Percent of the column at or below the value" percentile,
    aggregate "SCALE" [optional "new_min" "0", optional "new_max" "100"]
      "Min-max rescale into a new range" scale ]

/-- Every function, in display order. -/
def entries : List Entry :=
  textEntries ++ arithmeticEntries ++ dateEntries ++ choiceEntries ++ columnEntries

/-- The function with a name. -/
def find? (name : String) : Option Entry :=
  let canonical := Text.uppercased (Text.trimmed name)
  entries.find? fun entry => entry.name == canonical

/-- Whether the name calls a function that needs the whole column. -/
def isAggregate (name : String) : Bool :=
  (find? name).any Entry.isAggregate

/-- Whether calling the name twice gives the same answer; a name that calls nothing does. -/
def isDeterministic (name : String) : Bool :=
  (find? name).all Entry.deterministic

end Catalog

/-- The category of the function that an expression text starts with. -/
def Category.ofExpression (text : String) : Category :=
  (((Expression.leadingName? text).bind Catalog.find?).map Entry.category).getD .choice

end ColumnChain
