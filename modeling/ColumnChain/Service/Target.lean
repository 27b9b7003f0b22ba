import ColumnChain.Number.Reading
import ColumnChain.Text.Cutting
import ColumnChain.Text.Encoding
import ColumnChain.Text.Table

/-!
# Request targets

The target of a request is a path and a query. The path is cut at slashes before the
escapes in its parts are resolved, so that an escaped slash does not cut; a part whose
escapes do not make text cannot be used. The query is a list of names and values, in
which a plus sign stands for a blank.
-/

namespace ColumnChain.Service

/-- The target of a request. -/
structure Target where
  /-- The parts of the path after its first slash, with their escapes. -/
  parts : List (List Char)
  /-- The names and values of the query, without escapes. -/
  query : List (String × String)

/-- The bytes of a character that may be part of an escape. -/
def bytesOf (c : Char) : Bytes :=
  Text.encode (String.singleton c)

/-- The bytes that a text with escapes stands for: a percent sign and two hexadecimal
digits are a byte, and every other character is itself. -/
def unescape : List Char → Bytes
  | '%' :: high :: low :: rest =>
      match Text.hexDigit? high, Text.hexDigit? low with
      | some high, some low => (16 * high + low).toUInt8 :: unescape rest
      | _, _ => bytesOf '%' ++ unescape (high :: low :: rest)
  | c :: rest => bytesOf c ++ unescape rest
  | [] => []

/-- A part of a path without its escapes. -/
def unescapePart? (part : List Char) : Option String :=
  Text.decode? (unescape part)

/-- A name or a value of a query without its escapes. What does not make text becomes
the mark of replaced characters. -/
def unescapeQuery (text : List Char) : String :=
  let spaced := text.map fun c => if c = '+' then ' ' else c
  (Text.decode? (unescape spaced)).getD "\uFFFD"

/-- Cut a text at the first occurrence of a character, if there is one. -/
def cutAt (separator : Char) (text : List Char) : List Char × List Char :=
  (text.takeWhile (· != separator), (text.dropWhile (· != separator)).drop 1)

/-- A name and a value. -/
def readPair (text : List Char) : String × String :=
  let (name, value) := cutAt '=' text
  (unescapeQuery name, unescapeQuery value)

/-- Read a query. -/
def readQuery (text : List Char) : List (String × String) :=
  ((Text.split ['&'] text).filter fun pair => !pair.isEmpty).map readPair

namespace Target

/-- Read a target. What follows a number sign is no part of it. -/
def read (text : List Char) : Target :=
  let (path, query) := cutAt '?' (cutAt '#' text).1
  { parts := (Text.split ['/'] path).drop 1, query := readQuery query }

/-- The values of a name in the query. -/
def values (target : Target) (name : String) : List String :=
  (target.query.filter fun (other, _) => other == name).map Prod.snd

/-- A truth value in the query, false when it is left out. It can be given once. -/
def flag? (target : Target) (name : String) : Option Bool :=
  match target.values name with
  | [] => some false
  | ["true"] => some true
  | ["false"] => some false
  | _ => none

/-- A count in the query, which may be left out. It can be given once. -/
def count? (target : Target) (name : String) : Option (Option Nat) :=
  match target.values name with
  | [] => some none
  | [value] => (Number.natural? 64 value.toList).map some
  | _ => none

end Target
end ColumnChain.Service
