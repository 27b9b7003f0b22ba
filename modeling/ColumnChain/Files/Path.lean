/-!
# Paths

The parts of a path, as text. A path is cut at slashes; repeated slashes, slashes at the
end, and dots that stand for the same directory do not count, except for a dot at the
beginning. Nothing is looked up: the parts are found by looking at the text alone.
-/

namespace ColumnChain.Path

/-- Cut off, from a reversed path, what does not count at the end: slashes, and dots that
follow a slash. A slash or a dot that makes up the whole path stays. -/
def trimReversed : List Char → List Char
  | '/' :: c :: rest => trimReversed (c :: rest)
  | '.' :: '/' :: rest => trimReversed ('/' :: rest)
  | path => path

/-- The path without what does not count at its end. -/
def trimmed (path : List Char) : List Char :=
  (trimReversed path.reverse).reverse

/-- The last part of a path. -/
def lastPart (path : List Char) : List Char :=
  ((trimmed path).reverse.takeWhile (· != '/')).reverse

/-- The name of the file that a path leads to. A path may lead nowhere in particular: to
the root, or to a directory by way of dots. -/
def fileName? (path : String) : Option String :=
  let last := lastPart path.toList
  if last.isEmpty || last == ['.'] || last == ['.', '.'] then none
  else some (String.ofList last)

/-- A name cut at its last dot. A dot at the beginning does not count. -/
def splitExtension (name : List Char) : List Char × Option (List Char) :=
  let extension := (name.reverse.takeWhile (· != '.')).reverse
  let stemLength := name.length - extension.length - 1
  if extension.length < name.length ∧ 0 < stemLength then
    (name.take stemLength, some extension)
  else (name, none)

/-- The name of the file without its extension. -/
def stem? (path : String) : Option String :=
  (fileName? path).map fun name => String.ofList (splitExtension name.toList).1

/-- The extension of the file name. -/
def extension? (path : String) : Option String :=
  (fileName? path).bind fun name => (splitExtension name.toList).2.map String.ofList

/-- The path of the directory that holds what a path leads to; an empty path for a path
of one part. The root is in no directory. -/
def parent? (path : String) : Option String :=
  let path := trimmed path.toList
  if path.isEmpty || path == ['/'] then none
  else
    let front := path.reverse.dropWhile (· != '/')
    some (String.ofList (trimReversed front).reverse)

/-- Go on from a directory. A path from the root goes on from the root. -/
def join (directory name : String) : String :=
  if name.toList.head? = some '/' || directory.isEmpty then name
  else if directory.toList.getLast? = some '/' then directory ++ name
  else directory ++ "/" ++ name

/-- The path with another file name. -/
def withFileName (path name : String) : String :=
  match fileName? path with
  | some _ => join ((parent? path).getD "") name
  | none => join path name

end ColumnChain.Path
