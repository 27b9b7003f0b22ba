import ColumnChain.Text.Encoding

/-!
# Access to files

The operations on files that the library needs, as a class of the monads in which they
can be done. A disk in memory is one of them; the files of the machine are another.
Every operation can fail, and failing is a value.
-/

namespace ColumnChain

/-- Why an operation on a file failed. -/
inductive DiskError where
  | missing
  | notDirectory
  | isDirectory
  | nameTooLong
  /-- A name with the character that ends texts in the system. -/
  | nulInName
  /-- Another reason, in the words of the system. -/
  | other (reason : String)
  deriving DecidableEq

namespace DiskError

/-- The system's text for the error, with its number. -/
def message : DiskError → String
  | missing => "No such file or directory (os error 2)"
  | notDirectory => "Not a directory (os error 20)"
  | isDirectory => "Is a directory (os error 21)"
  | nameTooLong => "File name too long (os error 36)"
  | nulInName => "file name contained an unexpected NUL byte"
  | other reason => reason

end DiskError

/-- Monads in which files can be worked on, by their paths. -/
class Files (m : Type → Type) where
  /-- The contents of a file. -/
  read : String → m (Except DiskError Bytes)
  /-- Whether there is a file or a directory. -/
  isPresent : String → m Bool
  /-- The names in a directory. -/
  names : String → m (Except DiskError (List String))
  /-- Make a directory and those above it that are missing. -/
  makeDirectories : String → m (Except DiskError Unit)
  /-- Make a file empty, a new one if there is none. -/
  create : String → m (Except DiskError Unit)
  /-- Write the contents of a file that has been created. -/
  write : String → Bytes → m (Except DiskError Unit)
  /-- Give a file another path, in place of a file that may be there. -/
  rename : String → String → m (Except DiskError Unit)

end ColumnChain
