import ColumnChain.CommandLine.Words
import ColumnChain.Number.Reading
import ColumnChain.Text.Casing

/-!
# Invocations

The commands that can be called for, and how a command line calls for them. Two options
belong to every command and may also stand before its name. A command line that calls
for nothing has no reading.
-/

namespace ColumnChain.CommandLine

/-- The form in which derived rows are written. -/
inductive Format where
  | tsv
  | csv
  | json
  deriving DecidableEq

namespace Format

/-- The name of a form, which is also the extension of its files. -/
def name : Format → String
  | tsv => "tsv"
  | csv => "csv"
  | json => "json"

/-- The form with a name, in any letter case. -/
def ofName? (text : String) : Option Format :=
  [tsv, csv, json].find? fun format => format.name == Text.lowercased text

end Format

/-- What a command line calls for. -/
inductive Command where
  /-- List the catalogue, or one category of it. -/
  | functions (category : Option String) (asJson : Bool)
  /-- Show what an expression would do. -/
  | preview (file column expression : String) (standalone asJson : Bool)
  /-- Attach an expression to a column. -/
  | add (file column expression : String) (into : Option String) (draft : Bool)
  /-- List what is attached. -/
  | list (file : String) (column : Option String) (asJson : Bool)
  /-- Put the chain of a column in order. -/
  | reorder (file column : String) (ids : List String)
  /-- Delete a transformation. -/
  | remove (file id : String) (hard : Bool)
  /-- Remove duplicates. -/
  | cleanup (file : String)
  /-- Write the derived rows. -/
  | apply (file : String) (output : Option String) (format : Format)
  /-- Serve data files. -/
  | serve (files : List String) (port : Nat)
  deriving DecidableEq

/-- A command with the options that belong to every command. -/
structure Invocation where
  verbose : Bool
  /-- The path of the settings file. -/
  settings : Option String
  command : Command
  deriving DecidableEq

/-- The options of every command. -/
def commonFlags : List Flag :=
  [.switch "verbose" (some 'v'), .valued "config" none]

/-- The names of the commands. -/
inductive Command.Name where
  | functions
  | preview
  | add
  | list
  | reorder
  | remove
  | cleanup
  | apply
  | serve

namespace Command.Name

/-- The command with a name. -/
def ofWord? : String → Option Name
  | "functions" => some functions
  | "preview" => some preview
  | "add" => some add
  | "list" => some list
  | "reorder" => some reorder
  | "remove" => some remove
  | "cleanup" => some cleanup
  | "apply" => some apply
  | "serve" => some serve
  | _ => none

/-- The options that a command has of its own. -/
def flags : Name → List Flag
  | functions => [.valued "category" (some 'c'), .switch "json" none]
  | preview =>
      [.valued "column" (some 'c'), .switch "standalone" none, .switch "json" none]
  | add => [.valued "column" (some 'c'), .valued "into" none, .switch "draft" none]
  | list => [.valued "column" (some 'c'), .switch "json" none]
  | reorder => [.valued "column" (some 'c')]
  | remove => [.switch "hard" none]
  | cleanup => []
  | apply => [.valued "output" (some 'o'), .valued "format" (some 'f')]
  | serve => [.valued "port" (some 'p')]

end Command.Name

/-- The port that is used when none is given. -/
def defaultPort : Nat := 3141

/-- Read a port. -/
def readPort? (text : String) : Option Nat :=
  match Number.integer? text.toList with
  | some port => if 0 ≤ port ∧ port < 65536 then some port.toNat else none
  | none => none

/-- Use the value of an option, if it is given; using it may fail. -/
def useOption {α : Type} (use : String → Option α) : Option String → Option (Option α)
  | none => some none
  | some value => (use value).map some

/-- A path is not empty. -/
def asPath? (text : String) : Option String :=
  if text.isEmpty then none else some text

/-- The command of a name that some words call for. -/
def Command.ofWords? (words : Words) (name : Command.Name) : Option Command :=
  match name, words.operands with
  | .functions, [] => some (.functions (words.value? "category") (words.has "json"))
  | .preview, [file, expression] => do
      some (.preview (← asPath? file) (← words.value? "column") expression
        (words.has "standalone") (words.has "json"))
  | .add, [file, expression] => do
      some (.add (← asPath? file) (← words.value? "column") expression
        (words.value? "into") (words.has "draft"))
  | .list, [file] => do
      some (.list (← asPath? file) (words.value? "column") (words.has "json"))
  | .reorder, file :: id :: ids => do
      some (.reorder (← asPath? file) (← words.value? "column") (id :: ids))
  | .remove, [file, id] => do some (.remove (← asPath? file) id (words.has "hard"))
  | .cleanup, [file] => do some (.cleanup (← asPath? file))
  | .apply, [file] => do
      let output ← useOption asPath? (words.value? "output")
      let format ← useOption Format.ofName? (words.value? "format")
      some (.apply (← asPath? file) output (format.getD .tsv))
  | .serve, file :: files => do
      let port ← useOption readPort? (words.value? "port")
      some (.serve (← (file :: files).mapM asPath?) (port.getD defaultPort))
  | _, _ => none

/-- Read a command line. Of a common option that is given before the name of the command
and after it, the one after it counts. -/
def Invocation.ofWords? (line : List String) : Option Invocation := do
  let leading ← readWords? commonFlags .last line
  match leading.operands with
  | [] => none
  | word :: rest =>
      let name ← Command.Name.ofWord? word
      let words ← readWords? (name.flags ++ commonFlags) .mixed rest
      if leading.isDistinct && words.isDistinct then
        let before ← useOption asPath? (leading.value? "config")
        let after ← useOption asPath? (words.value? "config")
        some {
          verbose := leading.has "verbose" || words.has "verbose"
          settings := after.or before
          command := ← Command.ofWords? words name }
      else none

end ColumnChain.CommandLine
