import ColumnChain.Files.Path
import ColumnChain.Json.Reading
import ColumnChain.Json.Records
import ColumnChain.Json.Writing
import ColumnChain.Sequencing

/-!
# Ledgers

A ledger is a file that holds the records of a store as JSON. It is written beside its
place first and then moved there, so that a reader never finds half of it. Before a
ledger is replaced it can be copied to a directory of earlier ones, each named for the
time at which it was written.
-/

namespace ColumnChain

/-- The contents of a ledger file. -/
structure Ledger where
  version : String
  /-- When the ledger was written. -/
  updated : Instant
  records : List Transformation
  deriving DecidableEq

namespace Ledger

/-- The version of the form of ledgers that is written. -/
def currentVersion : String := "1.0.0"

/-- The JSON value of a ledger. -/
def toJson (ledger : Ledger) : Json :=
  .object [
    ("version", .text ledger.version),
    ("updated_at", ledger.updated.toJson),
    ("transformations", .list (ledger.records.map Transformation.toJson))]

/-- The ledger that a JSON value describes. -/
def ofJson : Json.Decoder Ledger := fun value => do
  let asRecords := Json.asList (Json.asTransformation 2)
  let fields ← Json.asRecord [
    Json.field "version" Json.asText,
    Json.field "updated_at" Json.asInstant,
    Json.field "transformations" asRecords] value
  return {
    version := ← fields.required "version" Json.asText
    updated := ← fields.required "updated_at" Json.asInstant
    records := ← fields.required "transformations" asRecords }

/-- The contents of the file. -/
def encode (ledger : Ledger) : Bytes :=
  Text.encode (String.ofList ledger.toJson.pretty)

/-- The ledger that is in a file, if there is one. -/
def decode? (bytes : Bytes) : Option Ledger := do
  let text ← Text.decode? bytes
  let (value, trailing) := Json.read text.toList
  let ledger ← (ofJson value).toOption
  if trailing then none else some ledger

/-- The ledger of a store at a time. -/
def ofStore (store : Store) (now : Instant) : Ledger :=
  ⟨currentVersion, now, store.entries⟩

/-- The store of the records; of records with one id the last counts. -/
def store (ledger : Ledger) : Store :=
  Keyed.ofList ledger.records

/-- The path of the ledger of a data file. -/
def pathFor (dataPath : String) : String :=
  Path.join ((Path.parent? dataPath).getD ".")
    ((Path.stem? dataPath).getD "" ++ ".transforms.json")

/-- The path of the directory of the earlier ledgers. -/
def historyPath (path : String) : String :=
  Path.join ((Path.parent? path).getD ".") ((Path.stem? path).getD "" ++ ".history")

/-- The path at which a ledger is written before it is moved to its place. -/
def stagingPath (path : String) : String :=
  Path.withFileName path ("." ++ (Path.fileName? path).getD "" ++ ".tmp")

/-- The path of a ledger among the earlier ones. -/
def pastPath (path : String) (ledger : Ledger) : String :=
  Path.join (historyPath path) (ledger.updated.fileStamp ++ ".json")

variable {m : Type → Type} [Monad m] [Files m]

/-- Do an operation on a file; why it failed becomes a fault. -/
def attempt {α : Type} (operation : m (Except DiskError α)) (fault : DiskError → Fault) :
    ExceptT Fault m α :=
  ExceptT.mk do
    match ← operation with
    | .ok value => return .ok value
    | .error error => return .error (fault error)

/-- Read the ledger at a path. A directory can be opened like a file, but there is no
ledger in it. -/
def load (path : String) : ExceptT Fault m Ledger := do
  let bytes ← attempt (Files.read path) fun
    | .isDirectory => .ledgerMalformed path
    | error => .ledgerUnreadable path error
  match decode? bytes with
  | some ledger => return ledger
  | none => throw (.ledgerMalformed path)

/-- Make the directory of a path, if it is missing. -/
def makeParent (path : String) : ExceptT Fault m Unit := do
  match Path.parent? path with
  | none => return
  | some parent =>
      if parent.isEmpty then return
      if ← (Files.isPresent parent : m Bool) then return
      attempt (Files.makeDirectories parent) (.directoryNotCreated parent)

/-- Write a ledger to a path. -/
def save (ledger : Ledger) (path : String) : ExceptT Fault m Unit := do
  makeParent path
  let staging := stagingPath path
  attempt (Files.create staging) (.fileNotCreated staging)
  attempt (Files.write staging ledger.encode) (.fileNotWritten staging)
  attempt (Files.rename staging path) (.fileNotReplaced path)

/-- The paths of the earlier ledgers, the latest first. -/
def history (path : String) : ExceptT Fault m (List String) := do
  let directory := historyPath path
  if ← (Files.isPresent directory : m Bool) then
    let names ← attempt (Files.names directory) (.historyUnreadable directory)
    let past := names.filter fun name => Path.extension? name == some "json"
    return (past.mergeSort fun left right => right ≤ left).map (Path.join directory)
  else return []

end Ledger

namespace Store

variable {m : Type → Type} [Monad m] [Files m]

/-- Write the records to a ledger. -/
def save (store : Store) (path : String) (now : Instant) : ExceptT Fault m Unit :=
  (Ledger.ofStore store now).save path

/-- The records of a ledger. -/
def load (path : String) : ExceptT Fault m Store := do
  return (← Ledger.load path).store

/-- The records of a ledger; none if there is no ledger. -/
def loadOrEmpty (path : String) : ExceptT Fault m Store := do
  if ← (Files.isPresent path : m Bool) then load path else return Keyed.empty

/-- Write the records to a ledger, and the ledger that was there to its history. -/
def saveWithHistory (store : Store) (path : String) (now : Instant) :
    ExceptT Fault m Unit := do
  if ← (Files.isPresent path : m Bool) then
    let previous ← Ledger.load path
    previous.save (previous.pastPath path)
  save store path now

end Store
end ColumnChain
