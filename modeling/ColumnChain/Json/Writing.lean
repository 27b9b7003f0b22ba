import ColumnChain.Json.Basic
import ColumnChain.Number.Writing

/-!
# Writing JSON

Two ways of writing a value: on one line without blanks, and laid out with a line for
every item and member, indented by two blanks for every container around it. Empty
containers are written without a line between their brackets. In texts only quotes,
backslashes and control characters are escaped.
-/

namespace ColumnChain.Json

/-- A character in a text. -/
def writeChar (c : Char) : List Char :=
  match c with
  | '"' => ['\\', '"']
  | '\\' => ['\\', '\\']
  | '\x08' => ['\\', 'b']
  | '\x0c' => ['\\', 'f']
  | '\n' => ['\\', 'n']
  | '\r' => ['\\', 'r']
  | '\t' => ['\\', 't']
  | _ =>
      if c.toNat < 0x20 then
        "\\u00".toList ++ [Nat.digitChar (c.toNat / 16), Nat.digitChar (c.toNat % 16)]
      else [c]

/-- A text in quotes. -/
def writeText (text : String) : List Char :=
  '"' :: text.toList.flatMap writeChar ++ ['"']

/-- The values that are not containers. Those that stand for no value are written like
the number that is none. -/
def writeScalar : Json → List Char
  | null | void | broken | list _ | object _ => "null".toList
  | bool value => (if value then "true" else "false").toList
  | integer value => Number.integerText value
  | real value => (Number.json? value).getD "null".toList
  | text value => writeText value

mutual

/-- The value on one line. -/
def compact : Json → List Char
  | list items => '[' :: compactItems items ++ [']']
  | object members => '\x7b' :: compactMembers members ++ ['\x7d']
  | null => writeScalar null
  | bool value => writeScalar (bool value)
  | integer value => writeScalar (integer value)
  | real value => writeScalar (real value)
  | text value => writeScalar (text value)
  | void => writeScalar void
  | broken => writeScalar broken

/-- Items with commas between them. -/
def compactItems : List Json → List Char
  | [] => []
  | [item] => item.compact
  | item :: rest => item.compact ++ ',' :: compactItems rest

/-- Members with commas between them. -/
def compactMembers : List (String × Json) → List Char
  | [] => []
  | [(key, value)] => writeText key ++ ':' :: value.compact
  | (key, value) :: rest =>
      writeText key ++ ':' :: value.compact ++ ',' :: compactMembers rest

end

/-- The beginning of a line within so many containers. -/
def newLine (depth : Nat) : List Char :=
  '\n' :: List.replicate (2 * depth) ' '

mutual

/-- The value laid out, within so many containers. -/
def layout (depth : Nat) : Json → List Char
  | list [] => ['[', ']']
  | list (item :: rest) =>
      '[' :: layoutItems (depth + 1) (item :: rest) ++ newLine depth ++ [']']
  | object [] => ['\x7b', '\x7d']
  | object (member :: rest) =>
      '\x7b' :: layoutMembers (depth + 1) (member :: rest) ++ newLine depth ++ ['\x7d']
  | null => writeScalar null
  | bool value => writeScalar (bool value)
  | integer value => writeScalar (integer value)
  | real value => writeScalar (real value)
  | text value => writeScalar (text value)
  | void => writeScalar void
  | broken => writeScalar broken

/-- Items, each on lines of its own. -/
def layoutItems (depth : Nat) : List Json → List Char
  | [] => []
  | [item] => newLine depth ++ item.layout depth
  | item :: rest => newLine depth ++ item.layout depth ++ ',' :: layoutItems depth rest

/-- Members, each on lines of its own. -/
def layoutMembers (depth : Nat) : List (String × Json) → List Char
  | [] => []
  | [(key, value)] => newLine depth ++ writeText key ++ ':' :: ' ' :: value.layout depth
  | (key, value) :: rest =>
      newLine depth ++ writeText key ++ ':' :: ' ' :: value.layout depth ++
        ',' :: layoutMembers depth rest

end

/-- The value on many lines. -/
def pretty (json : Json) : List Char :=
  json.layout 0

end ColumnChain.Json
