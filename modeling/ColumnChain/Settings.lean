import ColumnChain.Calendar.Date
import ColumnChain.Fault

/-!
# Settings

What a user can set for evaluation and previews, and the engine these settings make
together with the day and the machine it runs on.
-/

namespace ColumnChain

/-- How `IF` decides whether a cell is truthy. -/
inductive Truthiness where
  /-- Every cell that is not blank. -/
  | existence
  /-- A cell that is not blank and neither zero nor false, in whatever form. -/
  | strict
  deriving DecidableEq, Inhabited

/-- The settings of a user. -/
structure Settings where
  /-- The most pairs that a preview shows. -/
  previewLimit : Nat := 5
  /-- The number of rows from which on work is shared out. -/
  parallelThreshold : Nat := 10000
  truthiness : Truthiness := .existence
  /-- The day that counts as today. -/
  referenceDate : Option Date := none
  deriving DecidableEq, Inhabited

namespace Settings

/-- What makes settings unusable, if anything. -/
def fault? (settings : Settings) : Option Fault :=
  if settings.previewLimit = 0 then some .noPreviewRows
  else if settings.parallelThreshold = 0 then some .noParallelRows
  else none

end Settings

/-- All that evaluation depends on besides the data and the random source. -/
structure Engine where
  settings : Settings
  today : Date
  /-- How many workers share the work on long columns. -/
  workers : Nat
  deriving Inhabited

/-- The engine of some settings on a machine where it is `day`. -/
def Settings.engine (settings : Settings) (day : Date) (workers : Nat) : Engine :=
  { settings, today := settings.referenceDate.getD day, workers }

end ColumnChain
