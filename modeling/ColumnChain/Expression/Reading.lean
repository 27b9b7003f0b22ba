import ColumnChain.Expression
import ColumnChain.Number.Reading
import ColumnChain.Text.Blank

/-!
# Reading expressions

The small language of expressions:

* an expression is a name, or a name followed by arguments in parentheses;
* a name starts with an ASCII letter or an underscore and goes on with those and digits;
* arguments are separated by commas; there may be none at all, but no empty ones;
* an argument is a text in single or double quotes, in which a backslash makes the next
  character literal, or unquoted text without quotes, commas and parentheses.

Blanks may surround every part. Reading is total: a text outside the language is read as
opaque text.
-/

namespace ColumnChain.Expression

/-- Whether a name can start with this character. -/
def startsName (c : Char) : Bool :=
  c.isAlpha || c == '_'

/-- Whether a name can go on with this character. -/
def continuesName (c : Char) : Bool :=
  c.isAlphanum || c == '_'

/-- Split off the name that a text starts with. -/
def splitName? : List Char → Option (List Char × List Char)
  | [] => none
  | c :: rest =>
      if startsName c then
        some (c :: rest.takeWhile continuesName, rest.dropWhile continuesName)
      else none

/-- The number an unquoted token denotes. Only a token that starts like a number is one;
the names of the numbers that are not finite stay tokens. -/
def tokenNumber? (token : List Char) : Option Float :=
  match token with
  | [] => none
  | c :: _ =>
      if c.isDigit || c == '-' || c == '+' || c == '.' then
        (Number.read? token).bind Cell.finite?
      else none

/-- The argument an unquoted slot denotes; a slot of blanks denotes none. -/
def unquoted? (slot : List Char) : Option Argument :=
  let token := Text.trim slot
  if token.isEmpty then none
  else match tokenNumber? token with
    | some n => some (.number n)
    | none => some (.column (String.ofList token))

/-- What has been read of the slot in which the scan stands. -/
inductive Slot where
  /-- Unquoted characters, the last one first. -/
  | plain (reversed : List Char)
  /-- Inside quotes, the content's last character first; the flag tells whether a
  backslash came last. -/
  | quoted (quote : Char) (escaped : Bool) (reversed : List Char)
  /-- After the closing quote. -/
  | closed (content : List Char)

namespace Slot

/-- The argument of a slot that ends here. -/
def finish? : Slot → Option Argument
  | .plain reversed => unquoted? reversed.reverse
  | .quoted .. => none
  | .closed content => some (.text (String.ofList content))

/-- Whether nothing but blanks has been read. -/
def isVacant : Slot → Bool
  | .plain reversed => Text.allBlank reversed
  | .quoted .. | .closed _ => false

/-- Read one more character of a slot. Separators and closing parentheses outside quotes
are no part of a slot, and neither is an opening parenthesis. -/
def step? (c : Char) : Slot → Option Slot
  | .quoted quote true reversed => some (.quoted quote false (c :: reversed))
  | .quoted quote false reversed =>
      if c = '\\' then some (.quoted quote true reversed)
      else if c = quote then some (.closed reversed.reverse)
      else some (.quoted quote false (c :: reversed))
  | .closed content => if Text.isBlank c then some (.closed content) else none
  | .plain reversed =>
      if c = '"' ∨ c = '\'' then
        if Text.allBlank reversed then some (.quoted c false []) else none
      else if c = '(' then none
      else some (.plain (c :: reversed))

/-- Whether the slot is between quotes, where every character belongs to it. -/
def isOpen : Slot → Bool
  | .quoted .. => true
  | .plain _ | .closed _ => false

end Slot

/-- Scan the slots up to the closing parenthesis. `before` holds the arguments so far, the
last one first. The result is all arguments and the text after the parenthesis. -/
def scanSlots? (before : List Argument) :
    Slot → List Char → Option (List Argument × List Char)
  | _, [] => none
  | slot, c :: rest =>
      if slot.isOpen then (slot.step? c).bind fun slot => scanSlots? before slot rest
      else if c = ',' then
        slot.finish?.bind fun arg => scanSlots? (arg :: before) (.plain []) rest
      else if c = ')' then
        if slot.isVacant && before.isEmpty then some ([], rest)
        else slot.finish?.map fun arg => ((arg :: before).reverse, rest)
      else (slot.step? c).bind fun slot => scanSlots? before slot rest

/-- Scan the arguments after the opening parenthesis. -/
def scanArguments? (text : List Char) : Option (List Argument × List Char) :=
  scanSlots? [] (.plain []) text

/-- Read a call or a bare name. -/
def structured? (text : List Char) : Option Expression := do
  let (name, rest) ← splitName? (Text.trim text)
  match Text.trimStart rest with
  | [] => return .bare (String.ofList name)
  | '(' :: inner =>
      let (args, trailing) ← scanArguments? inner
      if Text.allBlank trailing then
        return .call ⟨String.ofList (Text.upper name), args⟩
      else none
  | _ => none

/-- Read an expression. -/
def read (text : String) : Expression :=
  (structured? text.toList).getD (.opaqueText text)

/-- The upper-case name an expression text starts with, also where the rest of the text
is no expression. Functions are told apart by this name. -/
def leadingName? (text : String) : Option String :=
  (splitName? (Text.trimStart text.toList)).map fun (name, _) =>
    String.ofList (Text.upper name)

end ColumnChain.Expression
