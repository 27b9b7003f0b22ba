import ColumnChain.Text.Ranges

/-!
# Mappings of characters

Tables that replace characters by others: runs, which move the codes of a range by the
same distance, and expansions, which replace single characters by several.
-/

namespace ColumnChain.Text

/-- Every `step`-th character of a range, each moved by the same distance. -/
structure Run where
  first : Nat
  last : Nat
  step : Nat
  shift : Int

namespace Run

/-- Whether the run moves this code. -/
def covers (run : Run) (code : Nat) : Bool :=
  run.first ≤ code && code ≤ run.last && (code - run.first) % run.step == 0

/-- Where the run moves a code. -/
def apply (run : Run) (code : Nat) : Nat :=
  ((code : Int) + run.shift).toNat

/-- The codes that the run moves. -/
def sources (run : Run) : Ranges :=
  if run.step = 1 then [(run.first, run.last)]
  else Ranges.stepped run.first run.last run.step

/-- The codes that the run moves, each with the code it is moved to. -/
def pairs (run : Run) : List (Nat × Nat) :=
  (Ranges.stepped run.first run.last run.step).map fun (code, _) => (code, run.apply code)

/-- Read one run. -/
def entry? (text : List Char) : Option Run := do
  let isSign (c : Char) := c = '+' || c = '-'
  let shiftDigits := (text.reverse.takeWhile fun c => !isSign c).reverse
  let negative := (text.reverse.dropWhile fun c => !isSign c).head? == some '-'
  let front := (text.reverse.dropWhile fun c => !isSign c).tail.reverse
  let (range, step) := match pieces '/' front with
    | [range, step] => (range, decimal step)
    | _ => (front, 1)
  let (first, last) ← Ranges.bounds? range
  let shift := decimal shiftDigits
  return ⟨first, last, step, if negative then -(shift : Int) else shift⟩

/-- Read a table of runs. -/
def ofTable (table : String) : List Run :=
  (tableEntries table).filterMap entry?

end Run

/-- Characters with the characters that replace them. -/
abbrev Expansions := List (Nat × List Char)

namespace Expansions

/-- Read one expansion. -/
def entry? (text : List Char) : Option (Nat × List Char) :=
  match pieces '=' text with
  | [source, targets] => do
      let code ← hexadecimal? source
      return (code, ((pieces ',' targets).filterMap hexadecimal?).map Char.ofNat)
  | _ => none

/-- Read a table of expansions. -/
def ofTable (table : String) : Expansions :=
  (tableEntries table).filterMap entry?

end Expansions

end ColumnChain.Text
