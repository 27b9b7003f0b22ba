import ColumnChain.Files.Basic

/-!
# Faults

Everything that can go wrong when data, records or settings are read, changed or kept.
A fault names its cause; its kind and its message are functions of the cause. Reading an
expression and evaluating a function never end in a fault: they leave cells unchanged.

One of the faults is no error that is reported: when the numbers are exhausted the program
breaks off where it is.
-/

namespace ColumnChain

/-- What went wrong. -/
inductive Fault where
  /-- A data file or a settings file cannot be read. -/
  | unreadable (path : String) (error : DiskError)
  /-- Delimited text is not valid text. -/
  | malformedTable
  /-- A settings file is not JSON of the expected form. -/
  | malformedSettings
  | noLines
  | noColumns
  | noRows
  | ledgerUnreadable (path : String) (error : DiskError)
  | ledgerMalformed (path : String)
  | directoryNotCreated (path : String) (error : DiskError)
  | fileNotCreated (path : String) (error : DiskError)
  | fileNotWritten (path : String) (error : DiskError)
  | fileNotReplaced (path : String) (error : DiskError)
  | historyUnreadable (path : String) (error : DiskError)
  | unknownTransformation (id : String)
  | duplicateFunction (column function : String)
  | incompleteReorder (column : String) (expected received : Nat)
  | createdDeleted
  | zeroSequence
  | takenSequence (number : Nat) (column : String)
  /-- There are more records in a chain than numbers. -/
  | chainTooLong
  /-- A number is needed after the last one. -/
  | numbersExhausted
  | noPreviewRows
  | noParallelRows
  | sharedDataset (id : String)
  deriving DecidableEq

/-- The kinds of faults that callers tell apart. -/
inductive FaultKind where
  | io
  | csv
  | json
  | emptyData
  | persistence
  | notFound
  | duplicateFunction
  | incompleteReorder
  | invalidUpdate
  | config
  /-- The program breaks off. -/
  | breakdown
  deriving DecidableEq

namespace Fault

/-- The kind of a fault. -/
def kind : Fault → FaultKind
  | unreadable .. => .io
  | malformedTable => .csv
  | malformedSettings => .json
  | noLines | noColumns | noRows => .emptyData
  | ledgerUnreadable .. | ledgerMalformed .. | directoryNotCreated .. | fileNotCreated ..
  | fileNotWritten .. | fileNotReplaced .. | historyUnreadable .. => .persistence
  | unknownTransformation .. => .notFound
  | duplicateFunction .. => .duplicateFunction
  | incompleteReorder .. => .incompleteReorder
  | createdDeleted | zeroSequence | takenSequence .. | chainTooLong => .invalidUpdate
  | noPreviewRows | noParallelRows | sharedDataset .. => .config
  | numbersExhausted => .breakdown

/-- A failed file operation: what failed, on which path, and why. -/
def onPath (action path : String) (error : DiskError) : String :=
  action ++ " '" ++ path ++ "': " ++ error.message

/-- What went wrong, without the kind. -/
def detail : Fault → String
  | unreadable path error => "IO error for '" ++ path ++ "': " ++ error.message
  | malformedTable => "CSV error:"
  | malformedSettings => "JSON error:"
  | noLines => "No lines to analyze"
  | noColumns => "No columns found"
  | noRows => "No data rows found"
  | ledgerUnreadable path error => onPath "Failed to open file" path error
  | ledgerMalformed path => "Failed to parse transformation ledger '" ++ path ++ "'"
  | directoryNotCreated path error => onPath "Failed to create directory" path error
  | fileNotCreated path error => onPath "Failed to create file" path error
  | fileNotWritten path error => onPath "Failed to write" path error
  | fileNotReplaced path error => onPath "Failed to replace" path error
  | historyUnreadable path error => onPath "Failed to read history directory" path error
  | unknownTransformation id => "transformation '" ++ id ++ "'"
  | duplicateFunction column function =>
      "Function '" ++ function ++ "' is already applied to column '" ++ column ++ "'"
  | incompleteReorder column expected received =>
      "Reorder of column '" ++ column ++
        "' must list every active transformation exactly once (expected " ++
        toString expected ++ ", received " ++ toString received ++ ")"
  | createdDeleted => "a transformation cannot be created as deleted"
  | zeroSequence => "sequence numbers start at 1"
  | takenSequence number column =>
      "sequence number " ++ toString number ++
        " is already used in the chain for column '" ++ column ++ "'"
  | chainTooLong => "chain is too long to renumber"
  | numbersExhausted => "attempt to add with overflow"
  | noPreviewRows => "preview_limit must be at least 1"
  | noParallelRows => "parallel_threshold must be at least 1"
  | sharedDataset id => "more than one data file maps to dataset id '" ++ id ++ "'"

/-- The message of a fault. The kinds whose details do not speak for themselves are
introduced by a heading. -/
def message (fault : Fault) : String :=
  match fault.kind with
  | .emptyData => "Empty data: " ++ fault.detail
  | .persistence => "Persistence error: " ++ fault.detail
  | .notFound => "Not found: " ++ fault.detail
  | .invalidUpdate => "Invalid update: " ++ fault.detail
  | .config => "Configuration error: " ++ fault.detail
  | .io | .csv | .json | .duplicateFunction | .incompleteReorder | .breakdown => fault.detail

end Fault
end ColumnChain
