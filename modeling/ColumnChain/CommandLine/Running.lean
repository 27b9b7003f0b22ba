import ColumnChain.CommandLine.Report
import ColumnChain.Delimited.Writing
import ColumnChain.Service.Workspaces
import ColumnChain.SettingsFile

/-!
# Running commands

What a command prints and does to files. A command line that calls for nothing ends with
the code 2, and one that fails with the code 1 and the reason. What was printed before a
failure stays printed. Where the program breaks off, its code is 101.
-/

namespace ColumnChain.CommandLine

/-- Why a command fails. -/
inductive Failure where
  | fault (cause : Fault)
  | noDataFile (path : String)
  | noColumn (column : String) (columns : List String)
  | unknownCategory
  | notWritten (error : DiskError)
  deriving DecidableEq

namespace Failure

/-- The reason in words. -/
def message : Failure → String
  | fault cause => cause.message
  | noDataFile path => "Data file not found: " ++ path
  | noColumn column columns =>
      "Column '" ++ column ++ "' not found. Available columns: " ++ ", ".intercalate columns
  | unknownCategory => "Unknown category. Use string, math, date, utility, or transform."
  | notWritten error => error.message

/-- The program breaks off, and reports no error. -/
def isBreakdown : Failure → Bool
  | fault cause => cause.kind = .breakdown
  | noDataFile _ | noColumn .. | unknownCategory | notWritten _ => false

end Failure

/-- How a command ends. -/
inductive Outcome where
  /-- The command line calls for nothing. -/
  | misused
  /-- Lines were printed, and there may have been a failure afterwards. -/
  | finished (report : List String) (failure : Option Failure)

namespace Outcome

/-- The code with which the program ends. -/
def code : Outcome → Nat
  | misused => 2
  | finished _ none => 0
  | finished _ (some failure) => if failure.isBreakdown then 101 else 1

/-- The text that is printed. -/
def text : Outcome → String
  | misused => ""
  | finished report _ => String.join (report.map fun line => line ++ "\n")

/-- The text about what went wrong, if something did. Where the program breaks off it says
also at which place; that is left out. -/
def errorText : Outcome → String
  | misused => "Usage: refinery [OPTIONS] <COMMAND>\n"
  | finished _ (some failure) =>
      if failure.isBreakdown then failure.message ++ "\n"
      else "Error: " ++ failure.message ++ "\n"
  | finished _ none => ""

end Outcome

variable {m : Type → Type} [Monad m] [Files m]

/-- Do what may end in a fault; the fault is a failure of the command. -/
def orFail {α : Type} (work : ExceptT Fault m α) : ExceptT Failure m α :=
  ExceptT.mk do
    match ← work.run with
    | .ok value => return .ok value
    | .error fault => return .error (.fault fault)

/-- A result that may be a fault, as a step of a command. -/
def check {α : Type} (result : Except Fault α) : ExceptT Failure m α :=
  orFail (ExceptT.mk (pure result))

/-- The workspace of a data file that has to be there. -/
def openFile (file : String) (now : Instant) : ExceptT Failure m Workspace := do
  if ← (Files.isPresent file : m Bool) then orFail (Workspace.ofFile now file)
  else throw (.noDataFile file)

/-- The workspace of a data file that has to have a column. -/
def openColumn (file column : String) (now : Instant) : ExceptT Failure m Workspace := do
  let workspace ← openFile file now
  if workspace.dataset.hasColumn column then return workspace
  else throw (.noColumn column workspace.dataset.columnNames)

/-- Save a changed store. -/
def commit (workspace : Workspace) (store : Store) (now : Instant) : ExceptT Failure m Unit :=
  orFail (Workspace.save { workspace with store } now)

/-- List the catalogue. The name of a category may be in any letter case. -/
def listFunctions (category : Option String) (asJson : Bool) :
    ExceptT Failure m (List String) := do
  let entries ← match category with
    | none => pure Catalog.entries
    | some name =>
        match Category.ofLabel? (Text.lowercased name) with
        | some category =>
            pure (Catalog.entries.filter fun entry => entry.category = category)
        | none => throw .unknownCategory
  if asJson then return jsonLines (.list (entries.map Entry.toJson))
  else return functionsReport entries

/-- Show what an expression would do to a column. -/
def preview (engine : Engine) (moment : Moment) (file column expression : String)
    (standalone asJson : Bool) : ExceptT Failure m (List String) := do
  let workspace ← openColumn file column moment.now
  let trial : Trial := {
    column, expression, samples := [], context := workspace.dataset.rows, output := .overwrite }
  let preview :=
    if standalone then Preview.alone engine moment.draws trial
    else Preview.onChain engine moment.draws (workspace.store.pipeline workspace.id column)
      trial
  if asJson then return jsonLines preview.toJson
  else return previewReport expression column preview

/-- Attach an expression to a column. -/
def add (moment : Moment) (file column expression : String) (into : Option String)
    (draft : Bool) : ExceptT Failure m (List String) := do
  let workspace ← openColumn file column moment.now
  let proposal : Proposal := {
    dataset := workspace.id
    column
    expression
    status := if draft then some .draft else none
    output := into.map Output.column }
  let (result, store) :=
    workspace.store.create proposal (Transformation.freshId moment.token) moment.now
  let t ← check result
  commit workspace store moment.now
  return ["Added " ++ describe t, "Saved to " ++ workspace.ledger]

/-- List what is attached to a data file, or to one of its columns. -/
def list (moment : Moment) (file : String) (column : Option String) (asJson : Bool) :
    ExceptT Failure m (List String) := do
  let workspace ← openFile file moment.now
  let shown := (workspace.store.list workspace.id).filter fun t =>
    column.all fun column => t.column == column
  if asJson then return jsonLines (.list (shown.map Transformation.toJson))
  else return transformationsReport file shown

/-- Put the chain of a column in order. -/
def reorder (moment : Moment) (file column : String) (ids : List String) :
    ExceptT Failure m (List String) := do
  let workspace ← openFile file moment.now
  let (result, store) := workspace.store.reorder workspace.id column ids moment.now
  let chain ← check result
  commit workspace store moment.now
  return ("Reordered " ++ column) :: chain.map fun t => indented (describe t)

/-- Delete a transformation. -/
def remove (moment : Moment) (file id : String) (hard : Bool) :
    ExceptT Failure m (List String) := do
  let workspace ← openFile file moment.now
  let (result, store) :=
    workspace.store.delete id (if hard then .hard else .soft) moment.now
  let t ← check result
  commit workspace store moment.now
  let verb := if hard then "Removed" else "Marked deleted"
  return [verb ++ " " ++ t.expression ++ " from " ++ t.column]

/-- Remove duplicates. -/
def cleanup (moment : Moment) (file : String) : ExceptT Failure m (List String) := do
  let workspace ← openFile file moment.now
  let (removed, store) := workspace.store.cleanup workspace.id
  if removed ≠ 0 then commit workspace store moment.now
  return cleanupReport removed

/-- The path of derived rows when none is given: beside the data file. -/
def derivedPath (file : String) (format : Format) : String :=
  Path.withFileName file ((Path.stem? file).getD "" ++ ".derived." ++ format.name)

/-- The contents of a file of derived rows. -/
def derivedContents (format : Format) (columns : List String) (rows : List Row) : Bytes :=
  match format with
  | .tsv => Delimited.write columns rows (Text.byte '\t')
  | .csv => Delimited.write columns rows (Text.byte ',')
  | .json => Text.encode (String.ofList (Json.list (rows.map Row.toJson)).pretty)

/-- Create a file and write it. -/
def writeFile (path : String) (contents : Bytes) : ExceptT DiskError m Unit := do
  ExceptT.mk (Files.create path)
  ExceptT.mk (Files.write path contents)

/-- Write the derived rows. -/
def apply (engine : Engine) (moment : Moment) (verbose : Bool) (file : String)
    (output : Option String) (format : Format) : ExceptT Failure m Outcome := do
  let workspace ← openFile file moment.now
  let live := (workspace.store.list workspace.id).filter Transformation.isLive
  let report := applyReport verbose live
  let rows := workspace.dataset.derive workspace.store engine moment.draws
  let contents := derivedContents format (workspace.derivedColumns rows) rows
  let path := output.getD (derivedPath file format)
  match ← (writeFile path contents : ExceptT DiskError m Unit).run with
  | .ok () =>
      let written := "Wrote " ++ toString rows.length ++ " rows to " ++ path
      return .finished (report ++ [written]) none
  | .error error => return .finished report (some (.notWritten error))

/-- Load the data files that are to be served, and say what they are. Listening on the
port is left to the host of the service. -/
def serve (moment : Moment) (files : List String) : ExceptT Failure m (List String) := do
  let workspaces ← orFail (Service.Workspaces.ofFiles moment.now files)
  return workspaces.entries.map fun workspace =>
    "Loaded " ++ workspace.id ++ " (" ++ toString workspace.dataset.rows.length ++
      " rows, " ++ toString workspace.dataset.columns.length ++ " columns)"

/-- Run a command. -/
def Command.run (engine : Engine) (moment : Moment) (verbose : Bool) :
    Command → ExceptT Failure m Outcome
  | .functions category asJson => finish (listFunctions category asJson)
  | .preview file column expression standalone asJson =>
      finish (CommandLine.preview engine moment file column expression standalone asJson)
  | .add file column expression into draft =>
      finish (CommandLine.add moment file column expression into draft)
  | .list file column asJson => finish (CommandLine.list moment file column asJson)
  | .reorder file column ids => finish (CommandLine.reorder moment file column ids)
  | .remove file id hard => finish (CommandLine.remove moment file id hard)
  | .cleanup file => finish (CommandLine.cleanup moment file)
  | .apply file output format =>
      CommandLine.apply engine moment verbose file output format
  | .serve files _ => finish (CommandLine.serve moment files)
where
  /-- The outcome of a command that prints its report at its end. -/
  finish (report : ExceptT Failure m (List String)) : ExceptT Failure m Outcome := do
    return .finished (← report) none

/-- The settings of an invocation. -/
def Invocation.loadSettings (invocation : Invocation) : ExceptT Failure m Settings :=
  match invocation.settings with
  | none => return {}
  | some path => orFail (Settings.load path)

/-- Run what an invocation calls for. -/
def Invocation.run (invocation : Invocation) (moment : Moment) (workers : Nat) :
    ExceptT Failure m Outcome := do
  let settings ← invocation.loadSettings
  let engine := settings.engine moment.now.date workers
  invocation.command.run engine moment invocation.verbose

/-- Run a command line. -/
def run (line : List String) (moment : Moment) (workers : Nat) : m Outcome := do
  match Invocation.ofWords? line with
  | none => return .misused
  | some invocation =>
      match ← (invocation.run moment workers).run with
      | .ok outcome => return outcome
      | .error failure => return .finished [] (some failure)

end ColumnChain.CommandLine
