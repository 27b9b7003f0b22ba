import ColumnChain.Number.Reading
import ColumnChain.Pattern.NamedSet
import ColumnChain.Pattern.Size
import ColumnChain.Text.Blank

/-!
# Reading patterns

The written form of patterns: literal characters, escapes, sets in brackets, groups,
choices, repetitions and flags. A text that is not a pattern has no reading; nor has a
pattern that is nested too deeply or too large once its repetitions are written out.

Flags hold from where they are set to the end of the enclosing group. They choose
between the cases of letters, what a line is, which way repetitions lean, whether sets
know characters beyond ASCII, and whether blanks and comments in the pattern count. Where
they do not count they may stand nearly everywhere, also within an escape or a number.
-/

namespace ColumnChain.Pattern

open Text (Ranges)

/-- The flags in force at a place of a pattern. -/
structure Flags where
  ignoreCase : Bool := false
  multiLine : Bool := false
  dotAll : Bool := false
  swapGreed : Bool := false
  unicode : Bool := true
  carriageReturn : Bool := false
  verbose : Bool := false

namespace Flags

/-- Set or clear the flag with a letter. -/
def set? (flags : Flags) (value : Bool) : Char → Option Flags
  | 'i' => some { flags with ignoreCase := value }
  | 'm' => some { flags with multiLine := value }
  | 's' => some { flags with dotAll := value }
  | 'U' => some { flags with swapGreed := value }
  | 'u' => some { flags with unicode := value }
  | 'R' => some { flags with carriageReturn := value }
  | 'x' => some { flags with verbose := value }
  | _ => none

/-- Close a set under the cases of letters, if they do not count. -/
def fold (flags : Flags) (set : Ranges) : Ranges :=
  if !flags.ignoreCase then set
  else if flags.unicode then Text.foldClosed set
  else Text.foldClosedAscii set

/-- The set of a character, in both cases if they do not count. -/
def foldChar (flags : Flags) (c : Char) : Ranges :=
  if flags.ignoreCase && flags.unicode then
    Ranges.normal ((Text.foldClass c).flatMap Ranges.single)
  else flags.fold (.single c)

/-- A named set in its form beyond ASCII or within it. -/
def named (flags : Flags) (set : Ranges) (ascii : String) : Ranges :=
  if flags.unicode then set else asciiClass ascii

/-- The characters of words. -/
def word (flags : Flags) : Ranges :=
  flags.named wordCharacters "word"

/-- A set or what it leaves out. Beyond ASCII nothing may be left out when sets do not
know those characters. -/
def oriented? (flags : Flags) (negated : Bool) (set : Ranges) : Option Ranges :=
  if !negated then some set
  else if flags.unicode then some set.complement
  else none

/-- The set of a dot. -/
def dot? (flags : Flags) : Option Ranges :=
  if !flags.unicode then none
  else if flags.dotAll then some Ranges.everything
  else if flags.carriageReturn then some (Ranges.complement [(10, 10), (13, 13)])
  else some (Ranges.complement [(10, 10)])

/-- The condition of a caret. -/
def caret (flags : Flags) : Look :=
  if !flags.multiLine then .textStart
  else if flags.carriageReturn then .returnLineStart
  else .lineStart

/-- The condition of a dollar sign. -/
def dollar (flags : Flags) : Look :=
  if !flags.multiLine then .textEnd
  else if flags.carriageReturn then .returnLineEnd
  else .lineEnd

end Flags

/-- Where the reader of a pattern stands. -/
structure Reader where
  rest : List Char
  flags : Flags
  /-- The number of groups opened so far. -/
  groups : Nat
  names : List (String × Nat)

namespace Reader

/-- Go on to another place of the text. -/
def moveTo (reader : Reader) (rest : List Char) : Reader :=
  { reader with rest }

/-- Whether blanks and comments do not count. -/
def verbose (reader : Reader) : Bool :=
  reader.flags.verbose

/-- Take characters as long as they are wanted, leaving out blanks and comments if they do
not count; a comment ends with its line. The text that is left starts with a character
that counts. -/
def taken (wanted : Char → Bool) (verbose inComment : Bool) :
    List Char → List Char × List Char
  | [] => ([], [])
  | c :: rest =>
      if inComment then taken wanted verbose (c != '\n') rest
      else if verbose && Text.isBlank c then taken wanted verbose false rest
      else if verbose && c == '#' then taken wanted verbose true rest
      else if wanted c then
        let (front, rest) := taken wanted verbose false rest
        (c :: front, rest)
      else ([], c :: rest)

/-- Take the characters that are wanted. -/
def take (reader : Reader) (wanted : Char → Bool) : List Char × Reader :=
  let (front, rest) := taken wanted reader.verbose false reader.rest
  (front, reader.moveTo rest)

/-- Pass what does not count. -/
def skip (reader : Reader) : Reader :=
  (reader.take fun _ => false).2

/-- Go on to another place and pass what does not count there. -/
def skipTo (reader : Reader) (rest : List Char) : Reader :=
  (reader.moveTo rest).skip

/-- The character after the next one. Looking so far ahead, the mark of a comment does not
count, but its text does. -/
def ahead? (reader : Reader) : Option Char :=
  let rest := reader.rest.tail
  let visible := rest.dropWhile Text.isBlank
  let visible := match visible with
    | '#' :: comment => comment.dropWhile Text.isBlank
    | _ => visible
  if reader.verbose && !visible.isEmpty then visible.head? else rest.head?

end Reader

/-- What an escape, or a character by itself, denotes. -/
inductive Primitive where
  | literal (c : Char)
  | set (chars : Ranges)
  | look (condition : Look)

/-- Characters that may have a meaning of their own in a pattern. -/
def isMeta (c : Char) : Bool :=
  ['\\', '.', '+', '*', '?', '(', ')', '|', '[', ']', '\x7b', '\x7d', '^', '$', '#', '&',
    '-', '~'].contains c

/-- Characters that stand for themselves after a backslash. -/
def isEscapable (c : Char) : Bool :=
  isMeta c || (c.toNat < 128 && !c.isAlphanum && c != '<' && c != '>')

/-- The character with a code, if there is one. -/
def charOf? (code : Nat) : Option Char :=
  if code.isValidChar then some (Char.ofNat code) else none

/-- Read so many hexadecimal digits, `value` being the number read so far. -/
def hexDigits? (value : Nat) (reader : Reader) : Nat → Option (Nat × Reader)
  | 0 => some (value, reader)
  | count + 1 =>
      match reader.rest with
      | [] => none
      | c :: rest =>
          (Text.hexDigit? c).bind fun digit =>
            hexDigits? (16 * value + digit) (reader.skipTo rest) count

/-- Read what stands in braces, after the brace that opens them. -/
def braced? (reader : Reader) : Option (List Char × Reader) :=
  let (body, reader) := reader.take (· != '\x7d')
  match reader.rest with
  | _ :: rest => some (body, reader.moveTo rest)
  | [] => none

/-- Read the hexadecimal code of a character: so many digits, or any number in braces.
The flag tells whether the fixed form was used. -/
def hexEscape? (digits : Nat) (reader : Reader) : Option (Char × Bool × Reader) :=
  let reader := reader.skip
  match reader.rest with
  | '\x7b' :: rest => do
      let (body, reader) ← braced? (reader.moveTo rest)
      let code ← Text.hexadecimal? body
      let c ← charOf? code
      return (c, false, reader)
  | _ => do
      let (code, reader) ← hexDigits? 0 reader digits
      let c ← charOf? code
      return (c, true, reader)

/-- Split a text at the first occurrence of a mark. -/
def cutAt? (mark : List Char) : List Char → Option (List Char × List Char)
  | [] => none
  | c :: rest =>
      if mark.isPrefixOf (c :: rest) then some ([], (c :: rest).drop mark.length)
      else (cutAt? mark rest).map fun (front, back) => (c :: front, back)

/-- The set with the name in the braces of a property escape, with a flag for its
negation. -/
def propertySet? (body : List Char) : Option (Ranges × Bool) :=
  match cutAt? ['!', '='] body with
  | some (property, value) => (valuedSet? property value).map (·, true)
  | none =>
      match (cutAt? [':'] body).or (cutAt? ['='] body) with
      | some (property, value) => (valuedSet? property value).map (·, false)
      | none => (namedSet? body).map (·, false)

/-- Read a property escape after its letter. -/
def propertyEscape? (reader : Reader) : Option (Ranges × Bool × Reader) :=
  let reader := reader.skip
  match reader.rest with
  | '\x7b' :: rest => do
      let (body, reader) ← braced? (reader.moveTo rest)
      let (set, negated) ← propertySet? body
      return (set, negated, reader)
  | c :: rest =>
      if c = '\\' then none
      else (namedSet? [c]).map fun set => (set, false, reader.moveTo rest)
  | [] => none

/-- Read the braces that may follow the escape of a word boundary. Braces that cannot
name a boundary are left for a repetition. -/
def boundaryBraces? (word : Ranges) (reader : Reader) : Option (Look × Reader) :=
  match reader.rest with
  | '\x7b' :: rest =>
      let isNameChar (c : Char) := c.isAlpha || c == '-'
      let (name, after) := (reader.moveTo rest).take isNameChar
      match name, after.rest with
      | [], [] => none
      | [], _ => some (.boundary word, reader)
      | _, '\x7d' :: rest =>
          let after := after.moveTo rest
          match String.ofList name with
          | "start" => some (.wordStart word, after)
          | "end" => some (.wordEnd word, after)
          | "start-half" => some (.noWordBefore word, after)
          | "end-half" => some (.noWordAfter word, after)
          | _ => none
      | _, _ => none
  | _ => some (.boundary word, reader)

/-- Read an escape after its backslash. -/
def escape? (reader : Reader) : Option (Primitive × Reader) :=
  match reader.rest with
  | [] => none
  | c :: rest =>
      let flags := reader.flags
      let reader := reader.moveTo rest
      let literal (c : Char) := some (Primitive.literal c, reader)
      let look (condition : Look) := some (Primitive.look condition, reader)
      let named (set : Ranges) (ascii : String) (negated : Bool) :=
        (flags.oriented? negated (flags.named set ascii)).map fun set =>
          (Primitive.set set, reader)
      let hexadecimal (digits : Nat) := do
        let (c, fixed, reader) ← hexEscape? digits reader
        if digits = 2 && fixed && !flags.unicode && 128 ≤ c.toNat then none
        else return (Primitive.literal c, reader)
      let property (negated : Bool) :=
        if !flags.unicode then none
        else do
          let (set, inner, reader) ← propertyEscape? reader
          let set := flags.fold set
          return (Primitive.set (if negated != inner then set.complement else set), reader)
      match c with
      | 'x' => hexadecimal 2
      | 'u' => hexadecimal 4
      | 'U' => hexadecimal 8
      | 'p' => property false
      | 'P' => property true
      | 'd' => named digits "digit" false
      | 'D' => named digits "digit" true
      | 's' => named blanks "space" false
      | 'S' => named blanks "space" true
      | 'w' => named wordCharacters "word" false
      | 'W' => named wordCharacters "word" true
      | 'a' => literal '\x07'
      | 'f' => literal '\x0c'
      | 't' => literal '\t'
      | 'n' => literal '\n'
      | 'r' => literal '\r'
      | 'v' => literal '\x0b'
      | 'A' => look .textStart
      | 'z' => look .textEnd
      | 'b' => (boundaryBraces? flags.word reader).map fun (condition, reader) =>
          (.look condition, reader)
      | 'B' => look (.noBoundary flags.word)
      | '<' => look (.wordStart flags.word)
      | '>' => look (.wordEnd flags.word)
      | _ => if isEscapable c then literal c else none

/-- What has been read, with the depth to which it is nested. -/
structure Nested (α : Type) where
  value : α
  depth : Nat

/-- The operations between the sets in brackets. -/
inductive SetOperation where
  | common
  | without
  | either

/-- Perform an operation. -/
def SetOperation.apply (operation : SetOperation) (left right : Ranges) : Ranges :=
  match operation with
  | .common => left.common right
  | .without => left.without right
  | .either => left.either right

/-- The items read so far on one side of an operation: their ranges, the depth of the
deepest and their number. -/
structure SetItems where
  set : Ranges
  depth : Nat
  count : Nat

/-- Add an item. -/
def SetItems.add (items : SetItems) (item : Nested Ranges) : SetItems :=
  ⟨item.value ++ items.set, max items.depth item.depth, items.count + 1⟩

/-- The items as one set; several are nested in their union. -/
def SetItems.nested (items : SetItems) : Nested Ranges :=
  ⟨items.set.normal, if items.count ≤ 1 then items.depth else items.depth + 1⟩

/-- A set and the operation waiting for its right side, if there is one. -/
abbrev Pending := Option (SetOperation × Nested Ranges)

/-- Perform the operation that waits for this set. -/
def Pending.apply (pending : Pending) (flags : Flags) (right : Nested Ranges) :
    Nested Ranges :=
  match pending with
  | none => right
  | some (operation, left) =>
      ⟨operation.apply (flags.fold left.value) (flags.fold right.value),
        max left.depth right.depth + 1⟩

/-- Read a class name between colons, after the bracket that opens it. Without knowledge
of characters beyond ASCII its negation is not a set. -/
def asciiClass? (flags : Flags) (text : List Char) : Option (Option Ranges × List Char) := do
  let ':' :: body := text | none
  let (negated, body) := match body with
    | '^' :: body => (true, body)
    | _ => (false, body)
  let name := body.takeWhile (· != ':')
  let ':' :: ']' :: rest := body.drop name.length | none
  let (_, ranges) ← asciiClasses.find? fun (other, _) => other.toList == name
  return (flags.oriented? negated (flags.fold ranges), rest)

/-- Read a character or an escape inside brackets. -/
def setItem? (reader : Reader) : Option (Primitive × Reader) :=
  match reader.rest with
  | [] => none
  | '\\' :: rest => escape? (reader.moveTo rest)
  | c :: rest => some (.literal c, reader.moveTo rest)

/-- The characters from one to another inside brackets. -/
def literalSet? (flags : Flags) (first last : Char) : Option Ranges :=
  if !flags.unicode && 128 ≤ last.toNat then none
  else if last < first then none
  else some [(first.toNat, last.toNat)]

/-- Read a range, a character or an escape inside brackets. A hyphen before a hyphen or a
closing bracket makes no range. -/
def setRange? (reader : Reader) : Option (Ranges × Reader) := do
  let (first, reader) ← setItem? reader
  let reader := reader.skip
  let single : Option (Ranges × Reader) := match first with
    | .literal c => (literalSet? reader.flags c c).map (·, reader)
    | .set chars => some (chars, reader)
    | .look _ => none
  match reader.rest with
  | [] => none
  | '-' :: rest =>
      if reader.ahead? = some ']' ∨ reader.ahead? = some '-' then single
      else do
        let (last, reader) ← setItem? (reader.skipTo rest)
        match first, last with
        | .literal first, .literal last =>
            (literalSet? reader.flags first last).map (·, reader)
        | _, _ => none
  | _ => single

/-- Read what may stand at the start of brackets: a caret, hyphens, and a closing bracket
that stands for itself if there is no hyphen. -/
def setStart? (reader : Reader) : Option (Bool × SetItems × Reader) :=
  let reader := reader.skip
  let (negated, reader) := match reader.rest with
    | '^' :: rest => (true, reader.skipTo rest)
    | _ => (false, reader)
  let (hyphens, reader) := reader.take (· == '-')
  let start : SetItems := ⟨if hyphens.isEmpty then [] else .single '-', 0, hyphens.length⟩
  match reader.rest with
  | [] => none
  | ']' :: rest =>
      if hyphens.isEmpty then
        let reader := reader.skipTo rest
        if reader.rest.isEmpty then none else some (negated, ⟨.single ']', 0, 1⟩, reader)
      else some (negated, start, reader)
  | _ => some (negated, start, reader)

/-- Read the items of brackets up to the closing one; `fuel` bounds their number. -/
def setItems? : Nat → Pending → SetItems → Reader → Option (Nested Ranges × Reader)
  | 0, _, _, _ => none
  | fuel + 1, pending, items, reader =>
      let reader := reader.skip
      let operation (kind : SetOperation) (rest : List Char) :=
        let left := pending.apply reader.flags items.nested
        setItems? fuel (some (kind, left)) ⟨[], 0, 0⟩ (reader.moveTo rest)
      match reader.rest with
      | [] => none
      | '[' :: rest =>
          match asciiClass? reader.flags rest with
          | some (named, rest) => do
              let named ← named
              setItems? fuel pending (items.add ⟨named, 0⟩) (reader.moveTo rest)
          | none => do
              let (negated, start, inner) ← setStart? (reader.moveTo rest)
              let (nested, after) ← setItems? fuel none start inner
              let set ← reader.flags.oriented? negated (reader.flags.fold nested.value)
              setItems? fuel pending (items.add ⟨set, nested.depth + 1⟩) after
      | ']' :: rest => some (pending.apply reader.flags items.nested, reader.moveTo rest)
      | '&' :: '&' :: rest => operation .common rest
      | '-' :: '-' :: rest => operation .without rest
      | '~' :: '~' :: rest => operation .either rest
      | _ => do
          let (range, reader) ← setRange? reader
          setItems? fuel pending (items.add ⟨range, 0⟩) reader

/-- Read a set in brackets, after the bracket that opens it. -/
def bracketSet? (reader : Reader) : Option (Nested Ranges × Reader) := do
  let (negated, start, inner) ← setStart? reader
  let (nested, after) ← setItems? (reader.rest.length + 1) none start inner
  let set ← reader.flags.oriented? negated (reader.flags.fold nested.value)
  return (⟨set, nested.depth + 1⟩, after)

/-- Read a number inside the braces of a repetition, with blanks around it. -/
def countNumber? (reader : Reader) : Option (Nat × Reader) :=
  let reader := reader.moveTo (Text.trimStart reader.rest)
  let (digits, reader) := reader.take Char.isDigit
  let count := Number.ofDigits digits
  if digits.isEmpty || 2 ^ 32 ≤ count then none
  else some (count, reader.moveTo (Text.trimStart reader.rest))

/-- Read the bounds of a repetition, after the brace that opens them. -/
def bounds? (reader : Reader) : Option (Nat × Option Nat × Reader) := do
  let (least, reader) ← countNumber? reader.skip
  match reader.rest with
  | '\x7d' :: rest => return (least, some least, reader.skipTo rest)
  | ',' :: rest =>
      let reader := reader.skipTo rest
      match reader.rest with
      | '\x7d' :: rest => return (least, none, reader.skipTo rest)
      | _ =>
          let (most, reader) ← countNumber? reader
          match reader.rest with
          | '\x7d' :: rest =>
              if least ≤ most then return (least, some most, reader.skipTo rest) else none
          | _ => none
  | _ => none

/-- Whether a group name can have this character at its start, or further on. -/
def isNameChar (first : Bool) (c : Char) : Bool :=
  c == '_' || (if first then Text.isAlphabetic c
    else c == '.' || c == '[' || c == ']' || Text.isAlphanumeric c)

/-- Read the name of a group, up to the bracket that ends it. -/
def groupName? (text : List Char) : Option (String × List Char) := do
  let name := text.takeWhile (· != '>')
  let rest ← (text.drop name.length).tail?
  match name with
  | [] => none
  | first :: others =>
      if isNameChar true first && others.all (isNameChar false) then
        return (String.ofList name, rest)
      else none

/-- Read flags up to the colon or parenthesis that ends them. A letter may occur once, and
one hyphen that is followed by a letter. -/
def flagItems? (negative : Bool) (seen : List Char) (flags : Flags) :
    List Char → Option (Flags × Bool × List Char)
  | [] => none
  | c :: rest =>
      if c = ':' ∨ c = ')' then
        if seen.head? = some '-' then none
        else some (flags, seen.isEmpty, c :: rest)
      else if seen.contains c then none
      else if c = '-' then flagItems? true (c :: seen) flags rest
      else (flags.set? (!negative) c).bind fun flags =>
        flagItems? negative (c :: seen) flags rest

/-- What an opening parenthesis begins. -/
inductive Opening where
  /-- A group that takes part in numbering. -/
  | numbered
  /-- A group that does not, and the flags inside it. -/
  | plain (flags : Flags)
  /-- No group but flags for the rest of the enclosing one. -/
  | flags (flags : Flags)

/-- Read what follows an opening parenthesis. -/
def opening? (reader : Reader) : Option (Opening × Reader) :=
  let reader := reader.skip
  let numbered (reader : Reader) : Option (Opening × Reader) :=
    some (.numbered, { reader with groups := reader.groups + 1 })
  let named (rest : List Char) : Option (Opening × Reader) := do
    let (name, rest) ← groupName? rest
    if reader.names.any fun (other, _) => other == name then none
    else
      let number := reader.groups + 1
      numbered { reader with rest, names := (name, number) :: reader.names }
  match reader.rest with
  | '?' :: 'P' :: '<' :: rest => named rest
  | '?' :: '<' :: '=' :: _ | '?' :: '<' :: '!' :: _ | '?' :: '=' :: _ | '?' :: '!' :: _ => none
  | '?' :: '<' :: rest => named rest
  | '?' :: rest => do
      let (flags, empty, rest) ← flagItems? false [] reader.flags rest
      match rest with
      | ')' :: rest => if empty then none else return (.flags flags, reader.moveTo rest)
      | _ :: rest => return (.plain flags, reader.moveTo rest)
      | [] => none
  | _ => numbered reader

/-- Pieces read so far, the last one first; nothing stands for a setting of flags, which
cannot be repeated. -/
abbrev Pieces := List (Nested (Option Node))

/-- The sequence of the pieces. -/
def Pieces.sequence (pieces : Pieces) : Nested Node :=
  let node := pieces.foldl (fun after piece => match piece.value, after with
    | none, after => after
    | some node, .empty => node
    | some node, after => .sequence node after) .empty
  match pieces with
  | [] => ⟨node, 0⟩
  | [piece] => ⟨node, piece.depth⟩
  | _ => ⟨node, (pieces.map Nested.depth).foldl max 0 + 1⟩

/-- The choice between some sequences. -/
def choiceOf : List (Nested Node) → Nested Node
  | [] => ⟨.empty, 0⟩
  | [only] => only
  | first :: others =>
      let node := match (others.map Nested.value).reverse with
        | [] => first.value
        | last :: before =>
            .choice first.value (before.foldl (fun after node => .choice node after) last)
      ⟨node, ((first :: others).map Nested.depth).foldl max 0 + 1⟩

/-- Repeat the last piece, with a question mark after the operator turning it around. -/
def Pieces.repeated? (pieces : Pieces) (reader : Reader) (least : Nat) (most : Option Nat) :
    Option (Pieces × Reader) :=
  match pieces with
  | ⟨some node, depth⟩ :: others =>
      let (lazy, rest) := match reader.rest with
        | '?' :: rest => (true, rest)
        | rest => (false, rest)
      let greedy := lazy == reader.flags.swapGreed
      some (⟨some (.repeated least most greedy node), depth + 1⟩ :: others,
        reader.moveTo rest)
  | _ => none

/-- The node of a primitive. -/
def Primitive.node (flags : Flags) : Primitive → Node
  | .literal c => .char (flags.foldChar c)
  | .set chars => .char chars
  | .look condition => .look condition

/-- Groups, sets, repetitions, sequences and choices may be nested this deep. -/
def nestingLimit : Nat := 250

mutual

/-- Read the choices of a group, up to the parenthesis or the end of text that ends it. -/
def choices? (fuel : Nat) (reader : Reader) : Option (List (Nested Node) × Reader) :=
  match fuel with
  | 0 => none
  | fuel + 1 => do
      let (first, reader) ← pieces? fuel [] reader
      match reader.rest with
      | '|' :: rest =>
          let (others, reader) ← choices? fuel (reader.moveTo rest)
          return (first :: others, reader)
      | _ => return ([first], reader)

/-- Read one choice: pieces in sequence. -/
def pieces? (fuel : Nat) (pieces : Pieces) (reader : Reader) :
    Option (Nested Node × Reader) :=
  match fuel with
  | 0 => none
  | fuel + 1 =>
      let reader := reader.skip
      let add (node : Node) (depth : Nat) (reader : Reader) :=
        pieces? fuel (⟨some node, depth⟩ :: pieces) reader
      let again (least : Nat) (most : Option Nat) (reader : Reader) := do
        let (pieces, reader) ← pieces.repeated? reader least most
        pieces? fuel pieces reader
      match reader.rest with
      | [] | '|' :: _ | ')' :: _ => some (pieces.sequence, reader)
      | '(' :: rest => do
          let (opening, inner) ← opening? (reader.moveTo rest)
          match opening with
          | .flags flags => pieces? fuel (⟨none, 0⟩ :: pieces) { inner with flags }
          | _ =>
              let inner := match opening with
                | .plain flags => { inner with flags }
                | _ => inner
              let number := inner.groups
              let (choices, after) ← choices? fuel inner
              let body := choiceOf choices
              match after.rest with
              | ')' :: rest =>
                  let after := { after with rest, flags := reader.flags }
                  match opening with
                  | .numbered => add (.group number body.value) (body.depth + 1) after
                  | _ => add body.value (body.depth + 1) after
              | _ => none
      | '[' :: rest => do
          let (set, reader) ← bracketSet? (reader.moveTo rest)
          add (.char set.value) set.depth reader
      | '?' :: rest => again 0 (some 1) (reader.moveTo rest)
      | '*' :: rest => again 0 none (reader.moveTo rest)
      | '+' :: rest => again 1 none (reader.moveTo rest)
      | '\x7b' :: rest => do
          let (least, most, reader) ← bounds? (reader.moveTo rest)
          again least most reader
      | '.' :: rest => do
          let set ← reader.flags.dot?
          add (.char set) 0 (reader.moveTo rest)
      | '^' :: rest => add (.look reader.flags.caret) 0 (reader.moveTo rest)
      | '$' :: rest => add (.look reader.flags.dollar) 0 (reader.moveTo rest)
      | '\\' :: rest => do
          let (item, reader) ← escape? (reader.moveTo rest)
          add (item.node reader.flags) 0 reader
      | c :: rest => add (Primitive.literal c |>.node reader.flags) 0 (reader.moveTo rest)

end

end ColumnChain.Pattern

namespace ColumnChain

/-- A pattern with the names of its groups. -/
structure Pattern where
  node : Pattern.Node
  names : List (String × Nat)

namespace Pattern

/-- Read a pattern, with the cases of letters counting or not from the start. -/
def read? (ignoreCase : Bool) (text : List Char) : Option Pattern := do
  let start : Reader := ⟨text, { ignoreCase }, 0, []⟩
  let (choices, reader) ← choices? (2 * text.length + 4) start
  let whole := choiceOf choices
  if reader.rest.isEmpty && whole.depth ≤ nestingLimit && whole.value.fits then
    return ⟨whole.value, reader.names⟩
  else none

end Pattern
end ColumnChain
