import ColumnChain.Json.Number
import ColumnChain.Text.Table

/-!
# Reading JSON

A text is read character by character, with the containers that are open on a stack. The
reader never fails: where the text stops being JSON the open containers are closed
around a broken value, and once a value is complete the only question is whether
anything but blanks comes after it.
-/

namespace ColumnChain.Json

/-- A container that is open, with what it holds so far in reverse. -/
inductive Frame where
  | list (items : List Json)
  /-- The key is that of the member whose value is being read. -/
  | object (members : List (String × Json)) (key : String)

namespace Frame

/-- Add a value. -/
def add (value : Json) : Frame → Frame
  | list items => list (value :: items)
  | object members key => object ((key, value) :: members) ""

/-- The container, complete. -/
def close : Frame → Json
  | list items => .list items.reverse
  | object members _ => .object members.reverse

end Frame

/-- Where in an escape the scan of a text stands. -/
inductive Escape where
  | outside
  /-- After a backslash. -/
  | started
  /-- After so many hexadecimal digits with this value. -/
  | hexadecimal (count value : Nat)

/-- What has been read of a text. -/
structure Quoted where
  /-- The characters in reverse. -/
  reversed : List Char
  escape : Escape
  /-- The first half of a surrogate pair, when the second half has to come next. -/
  half : Option Nat
  /-- Whether there has been half a pair without the other half. -/
  isVoid : Bool

/-- What part of a number the scan is in. -/
inductive NumberPart where
  | sign
  | zero
  | whole
  | point
  | fraction
  | exponentMark
  | exponentSign
  | exponent

/-- Where the scan stands. -/
inductive Scan where
  /-- Before a value. -/
  | value
  /-- Before the first item of a list, or its end. -/
  | firstItem
  /-- Before the first key of an object, or its end. -/
  | firstKey
  /-- Before a key. -/
  | key
  /-- After a key. -/
  | colon
  /-- After a value. -/
  | after
  /-- In a text; the flag tells whether it is a key. -/
  | quoted (isKey : Bool) (scanned : Quoted)
  /-- In a number, its digits being in reverse. -/
  | number (part : NumberPart) (literal : NumberText)
  /-- In a word, of which these characters are to come. -/
  | word (rest : List Char) (value : Json)

/-- The state of the reader. -/
inductive Reader where
  | reading (stack : List Frame) (scan : Scan)
  /-- The value is complete; the flag tells whether something other than blanks follows. -/
  | complete (value : Json) (trailing : Bool)

/-- The blanks of JSON. -/
def isSpace (c : Char) : Bool :=
  c == ' ' || c == '\n' || c == '\t' || c == '\r'

namespace Reader

/-- A value with the open containers closed around it. -/
def closeAll (value : Json) (stack : List Frame) : Json :=
  stack.foldl (fun value frame => (frame.add value).close) value

/-- The text is not JSON here. -/
def fail (stack : List Frame) : Reader :=
  complete (closeAll .broken stack) true

/-- A value has been read. -/
def push (value : Json) : List Frame → Reader
  | [] => complete value false
  | frame :: stack => reading (frame.add value :: stack) .after

/-- The innermost container ends. -/
def pop : List Frame → Reader
  | [] => fail []
  | frame :: stack => push frame.close stack

/-- Nothing has been read of a text. -/
def emptyText : Quoted :=
  ⟨[], .outside, none, false⟩

/-- The first character of a value. -/
def startValue (stack : List Frame) (c : Char) : Reader :=
  let number (part : NumberPart) (negative : Bool) (whole : List Nat) :=
    reading stack (.number part ⟨negative, whole, [], false, []⟩)
  match c with
  | '\x7b' => reading (.object [] "" :: stack) .firstKey
  | '[' => reading (.list [] :: stack) .firstItem
  | '"' => reading stack (.quoted false emptyText)
  | 't' => reading stack (.word "rue".toList (.bool true))
  | 'f' => reading stack (.word "alse".toList (.bool false))
  | 'n' => reading stack (.word "ull".toList .null)
  | '-' => number .sign true []
  | '0' => number .zero false [0]
  | _ =>
      match Number.digit? c with
      | some digit => number .whole false [digit]
      | none => fail stack

/-- A character after a value. -/
def stepAfter (stack : List Frame) (c : Char) : Reader :=
  if isSpace c then reading stack .after
  else match stack, c with
    | .list items :: below, ',' => reading (.list items :: below) .value
    | .list _ :: _, ']' => pop stack
    | .object members key :: below, ',' => reading (.object members key :: below) .key
    | .object .. :: _, '\x7d' => pop stack
    | _, _ => fail stack

/-- A character right after a value that is complete only now. -/
def pushThen (value : Json) (stack : List Frame) (c : Char) : Reader :=
  match stack with
  | [] => complete value (!isSpace c)
  | frame :: below => stepAfter (frame.add value :: below) c

/-- The digits in the order of the text. -/
def inOrder (literal : NumberText) : NumberText :=
  { literal with
    whole := literal.whole.reverse
    fraction := literal.fraction.reverse
    exponent := literal.exponent.reverse }

/-- A character of a number, or the one after it. -/
def stepNumber (stack : List Frame) (part : NumberPart) (literal : NumberText) (c : Char) :
    Reader :=
  let go (part : NumberPart) (literal : NumberText) := reading stack (.number part literal)
  let finish := pushThen (inOrder literal).value stack c
  let isMark := c == 'e' || c == 'E'
  match part, Number.digit? c with
  | .sign, some digit =>
      go (if digit = 0 then .zero else .whole) { literal with whole := [digit] }
  | .sign, none => fail stack
  | .zero, some _ => fail stack
  | .zero, none =>
      if c = '.' then go .point literal
      else if isMark then go .exponentMark literal
      else finish
  | .whole, some digit => go .whole { literal with whole := digit :: literal.whole }
  | .whole, none =>
      if c = '.' then go .point literal
      else if isMark then go .exponentMark literal
      else finish
  | .point, some digit | .fraction, some digit =>
      go .fraction { literal with fraction := digit :: literal.fraction }
  | .point, none => fail stack
  | .fraction, none => if isMark then go .exponentMark literal else finish
  | .exponentMark, some digit | .exponentSign, some digit | .exponent, some digit =>
      go .exponent { literal with exponent := digit :: literal.exponent }
  | .exponentMark, none =>
      if c = '+' then go .exponentSign literal
      else if c = '-' then go .exponentSign { literal with exponentNegative := true }
      else fail stack
  | .exponentSign, none => fail stack
  | .exponent, none => finish

/-- Whether a number can end in this part. -/
def isEnd : NumberPart → Bool
  | .zero | .whole | .fraction | .exponent => true
  | .sign | .point | .exponentMark | .exponentSign => false

/-- The characters that a backslash and a letter stand for. -/
def escaped? : Char → Option Char
  | '"' => some '"'
  | '\\' => some '\\'
  | '/' => some '/'
  | 'b' => some '\x08'
  | 'f' => some '\x0c'
  | 'n' => some '\n'
  | 'r' => some '\r'
  | 't' => some '\t'
  | _ => none

end Reader

namespace Quoted

/-- Something other than the second half of a pair comes. -/
def settle (scanned : Quoted) : Quoted :=
  { scanned with half := none, isVoid := scanned.isVoid || scanned.half.isSome }

/-- Add a character. -/
def add (scanned : Quoted) (c : Char) : Quoted :=
  { scanned.settle with reversed := c :: scanned.reversed, escape := .outside }

/-- Whether a code is the first half of a surrogate pair. -/
def isFirstHalf (code : Nat) : Bool :=
  0xD800 ≤ code && code < 0xDC00

/-- Whether a code is the second half of a surrogate pair. -/
def isSecondHalf (code : Nat) : Bool :=
  0xDC00 ≤ code && code < 0xE000

/-- Add the character of a code, or of the pair that it completes. -/
def addCode (scanned : Quoted) (code : Nat) : Quoted :=
  if isSecondHalf code then
    match scanned.half with
    | some first =>
        let whole := 0x10000 + (first - 0xD800) * 0x400 + (code - 0xDC00)
        { scanned with
          reversed := Char.ofNat whole :: scanned.reversed, escape := .outside, half := none }
    | none => { scanned with escape := .outside, isVoid := true }
  else if isFirstHalf code then
    { scanned.settle with escape := .outside, half := some code }
  else scanned.add (Char.ofNat code)

/-- What a text denotes. -/
def value (scanned : Quoted) : Json :=
  let scanned := scanned.settle
  if scanned.isVoid then .void else .text (String.ofList scanned.reversed.reverse)

end Quoted

namespace Reader

/-- The end of a text. -/
def finishQuoted (stack : List Frame) (isKey : Bool) (scanned : Quoted) : Reader :=
  if isKey then
    match stack, scanned.value with
    | .object members _ :: below, .text key => reading (.object members key :: below) .colon
    | _, _ => fail stack
  else push scanned.value stack

/-- A character of a text. -/
def stepQuoted (stack : List Frame) (isKey : Bool) (scanned : Quoted) (c : Char) : Reader :=
  let go (scanned : Quoted) := reading stack (.quoted isKey scanned)
  match scanned.escape with
  | .outside =>
      if c = '"' then finishQuoted stack isKey scanned
      else if c = '\\' then go { scanned with escape := .started }
      else if c.toNat < 0x20 then fail stack
      else go (scanned.add c)
  | .started =>
      if c = 'u' then go { scanned with escape := .hexadecimal 0 0 }
      else match escaped? c with
        | some c => go (scanned.add c)
        | none => fail stack
  | .hexadecimal count value =>
      match Text.hexDigit? c with
      | none => fail stack
      | some digit =>
          let value := 16 * value + digit
          if count = 3 then go (scanned.addCode value)
          else go { scanned with escape := .hexadecimal (count + 1) value }

/-- A character before a key. -/
def stepKey (stack : List Frame) (c : Char) : Reader :=
  if isSpace c then reading stack .key
  else if c = '"' then reading stack (.quoted true emptyText)
  else fail stack

/-- A character of the text. -/
def step : Reader → Char → Reader
  | complete value trailing, c => complete value (trailing || !isSpace c)
  | reading stack scan, c =>
      match scan with
      | .value => if isSpace c then reading stack scan else startValue stack c
      | .firstItem =>
          if isSpace c then reading stack scan
          else if c = ']' then pop stack
          else startValue stack c
      | .firstKey =>
          if isSpace c then reading stack scan
          else if c = '\x7d' then pop stack
          else stepKey stack c
      | .key => stepKey stack c
      | .colon =>
          if isSpace c then reading stack scan
          else if c = ':' then reading stack .value
          else fail stack
      | .after => stepAfter stack c
      | .quoted isKey scanned => stepQuoted stack isKey scanned c
      | .number part literal => stepNumber stack part literal c
      | .word [] value => pushThen value stack c
      | .word (expected :: rest) value =>
          if c = expected then
            if rest.isEmpty then push value stack else reading stack (.word rest value)
          else fail stack

/-- A number may end with the text. -/
def endNumber : Reader → Reader
  | reading stack (.number part literal) =>
      if isEnd part then push (inOrder literal).value stack else fail stack
  | reader => reader

/-- The value that has been read when the text ends, and whether the text has anything
but blanks after it. -/
def finish (reader : Reader) : Json × Bool :=
  match reader.endNumber with
  | complete value trailing => (value, trailing)
  | reading stack _ => (closeAll .broken stack, true)

end Reader

/-- Read a text. The flag tells whether it is more than a value. -/
def read (characters : List Char) : Json × Bool :=
  (characters.foldl Reader.step (.reading [] .value)).finish

end ColumnChain.Json
