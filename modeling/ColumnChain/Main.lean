import ColumnChain.CommandLine.Running
import Std.Time.DateTime.Timestamp

/-!
# The program

Runs a command line on the files of the machine, at the time of its clock and with its
random source.
-/

namespace ColumnChain

/-- The reason for which the system refuses an operation on a file. -/
def DiskError.ofSystem (error : IO.Error) : DiskError :=
  match error with
  | .noFileOrDirectory _ 2 _ => .missing
  | .inappropriateType _ 20 _ => .notDirectory
  | .inappropriateType _ 21 _ => .isDirectory
  | .invalidArgument _ 36 _ => .nameTooLong
  | .permissionDenied _ number reason => .other (numbered reason number)
  | .alreadyExists _ number reason => .other (numbered reason number)
  | .resourceExhausted _ number reason => .other (numbered reason number)
  | .otherError number reason => .other (numbered reason number)
  | refusal => .other (toString refusal)
where
  /-- A reason with its number. -/
  numbered (reason : String) (number : UInt32) : String :=
    reason ++ " (os error " ++ toString number ++ ")"

/-- Do an operation on a file; being refused is a value. -/
def attemptOnDisk {α : Type} (operation : IO α) : IO (Except DiskError α) := do
  match ← operation.toBaseIO with
  | .ok value => return .ok value
  | .error error => return .error (.ofSystem error)

instance : Files IO where
  read path := attemptOnDisk do
    return (← IO.FS.readBinFile path).toList
  isPresent path := (System.mkFilePath [path]).pathExists
  names path := attemptOnDisk do
    return (← (System.mkFilePath [path]).readDir).toList.map IO.FS.DirEntry.fileName
  makeDirectories path := attemptOnDisk (IO.FS.createDirAll path)
  create path := attemptOnDisk (IO.FS.writeBinFile path ByteArray.empty)
  write path contents := attemptOnDisk (IO.FS.writeBinFile path ⟨contents.toArray⟩)
  rename source destination := attemptOnDisk (IO.FS.rename source destination)

/-- The time of the clock. -/
def currentInstant : IO Instant := do
  let count := (← Std.Time.Timestamp.now).toNanosecondsSinceUnixEpoch.val
  return (Instant.ofNanoseconds? count).getD default

/-- The present moment; what the random source yields comes from two seeds. -/
def currentMoment : IO Moment := do
  let idSeed ← IO.rand 0 (2 ^ 62)
  let seed ← IO.rand 0 (2 ^ 62)
  return {
    now := ← currentInstant
    token := fun place => Fin.ofNat 36 (hash (idSeed, place.val)).toNat
    draws := fun address place => Fin.ofNat 36 (hash (seed, address, place.val)).toNat }

/-- How many workers share long columns. -/
def workerCount : Nat := 4

end ColumnChain

/-- Run the command line and end with its code. -/
def main (line : List String) : IO UInt32 := do
  let moment ← ColumnChain.currentMoment
  let outcome ← ColumnChain.CommandLine.run line moment ColumnChain.workerCount
  IO.print outcome.text
  IO.eprint outcome.errorText
  return outcome.code.toUInt32
