import ColumnChain.Delimited.Records
import ColumnChain.Fault
import ColumnChain.Text.Blank

/-!
# Finding the delimiter

The delimiter of a text is guessed from its first lines. A candidate that occurs equally
often in every line counts a thousand times as much as one that does not, and tabs have
a small advantage. Occurrences between quotes do not count.
-/

namespace ColumnChain.Delimited

/-- The delimiters that are looked for. -/
def candidates : List Char :=
  ['\t', ',', ';', '|']

/-- How many lines are looked at. -/
def sampleSize : Nat := 10

/-- The line that was read, in reverse, without the carriage return at its end. -/
def withoutReturn : Bytes → Bytes
  | 13 :: line => line
  | line => line

/-- The lines of some bytes, given what has been read of the first one, in reverse. -/
def linesFrom (line : Bytes) : Bytes → List Bytes
  | [] => if line.isEmpty then [] else [line.reverse]
  | b :: rest =>
      if b = Text.byte '\n' then (withoutReturn line).reverse :: linesFrom [] rest
      else linesFrom (b :: line) rest

/-- The lines that the guess is based on: of the first ones those that are text and not
blank. -/
def sample (bytes : Bytes) : List (List Char) :=
  ((linesFrom [] bytes).take sampleSize).filterMap fun line =>
    ((Text.decode? line).map String.toList).filter fun text => !Text.allBlank text

/-- The occurrences of a character outside quotes; the flag tells whether the line starts
between quotes. -/
def countOutside (c : Char) : Bool → List Char → Nat
  | _, [] => 0
  | inside, d :: rest =>
      if d = '"' then countOutside c (!inside) rest
      else if d = c ∧ inside = false then countOutside c inside rest + 1
      else countOutside c inside rest

/-- How well a candidate fits the lines; zero if the first line does not have it. -/
def score (lines : List (List Char)) (c : Char) : Nat :=
  match lines.map (countOutside c false) with
  | [] => 0
  | first :: others =>
      if first = 0 then 0
      else if others.all (· == first) then first * 1000 + if c = '\t' then 100 else 0
      else first

/-- The candidate with the highest score, the first of them; a comma if none fits. -/
def best (lines : List (List Char)) : Char :=
  (candidates.foldl (fun (highest, found) c =>
      if highest < score lines c then (score lines c, c) else (highest, found))
    (0, ',')).2

/-- Guess the delimiter. -/
def detect (bytes : Bytes) : Except Fault UInt8 :=
  match sample bytes with
  | [] => .error .noLines
  | lines => .ok (Text.byte (best lines))

/-- The name of the form of text with a delimiter. -/
def formatName (delimiter : UInt8) : String :=
  if delimiter = Text.byte '\t' then "tsv"
  else if delimiter = Text.byte ',' then "csv"
  else if delimiter = Text.byte ';' then "csv-semicolon"
  else if delimiter = Text.byte '|' then "psv"
  else "delimited"

end ColumnChain.Delimited
