import ColumnChain.Delimited.Loading
import ColumnChain.Digest
import ColumnChain.Files.Path

/-!
# Data files

A file of delimited text as a dataset, which is named for the file and knows where it
comes from.
-/

namespace ColumnChain.Delimited

variable {m : Type → Type} [Monad m] [Files m]

/-- What is known about a file. -/
def sourceOf (path : String) (bytes : Bytes) (delimiter : UInt8) (now : Instant) : Source where
  file := (Path.fileName? path).getD ""
  path
  hash := "sha256:" ++ Digest.hexadecimal bytes
  size := bytes.length
  format := formatName delimiter
  loaded := now

/-- The dataset in the contents of a file. -/
def ofFile (options : Options) (path : String) (bytes : Bytes) (now : Instant) :
    Except Fault Dataset := do
  let delimiter ← delimiterOf options bytes
  let dataset ← loadWith options ((Path.stem? path).getD "dataset") bytes delimiter
  return { dataset with source := some (sourceOf path bytes delimiter now) }

/-- Load the file at a path. -/
def loadFile (options : Options) (path : String) (now : Instant) :
    ExceptT Fault m Dataset := do
  match ← (Files.read path : m (Except DiskError Bytes)) with
  | .ok bytes => ExceptT.mk (pure (ofFile options path bytes now))
  | .error error => throw (.unreadable path error)

end ColumnChain.Delimited
