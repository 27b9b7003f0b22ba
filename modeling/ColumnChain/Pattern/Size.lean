import ColumnChain.Pattern.Syntax

/-!
# Sizes of patterns

A pattern must not be too large once its repetitions are written out. Its size is that of
the two machines that read the bytes of a text by it, one forwards and one backwards, with
32 bytes for a state, 8 for a transition and 4 for a branch.

A set of characters beyond ASCII costs as many states as its UTF-8 byte sequences need:
forwards, sequences that go on alike share what follows; backwards, sequences that begin
alike share how they begin.
-/

namespace ColumnChain.Pattern

open Text (Ranges)

-- A sum starts from the literal also where a library has zeros of its own.
attribute [local instance (high)] Zero.ofOfNat0

/-- Ranges of bytes, one for each byte of a character. -/
abbrev ByteRanges := List (Nat × Nat)

namespace ByteRanges

/-- The sequences of digits to the base 64 of the numbers from `first` to `last`, in
order; there are `places` digits after the leading one. -/
def digits (first last : Nat) : Nat → List ByteRanges
  | 0 => [[(first, last)]]
  | places + 1 =>
      let block := 64 ^ (places + 1)
      let low := first / block
      let high := last / block
      let inside (lead first last : Nat) := (digits first last places).map ((lead, lead) :: ·)
      if low = high then inside low (first % block) (last % block)
      else
        let head := first % block != 0
        let tail := last % block != block - 1
        let start := if head then low + 1 else low
        let past := if tail then high else high + 1
        (if head then inside low (first % block) (block - 1) else []) ++
          (if start < past then [(start, past - 1) :: List.replicate (places + 1) (0, 63)]
            else []) ++
          (if tail then inside high 0 (last % block) else [])

/-- The ranges of codes whose characters take the same number of bytes, with the number
of bytes after the first one. -/
def lengths : List (Nat × Nat × Nat) :=
  [(0, 0x7F, 0), (0x80, 0x7FF, 1), (0x800, 0xD7FF, 2), (0xE000, 0xFFFF, 2),
    (0x10000, 0x10FFFF, 3)]

/-- What is added to the leading digit of a character to make its first byte. -/
def leadOffset (places : Nat) : Nat :=
  match places with
  | 0 => 0
  | 1 => 0xC0
  | 2 => 0xE0
  | _ => 0xF0

/-- The byte sequences of the characters of a range. -/
def ofRange (first last : Nat) : List ByteRanges :=
  lengths.flatMap fun (least, most, places) =>
    if first ≤ most ∧ least ≤ last then
      (digits (max first least) (min last most) places).map fun sequence =>
        match sequence with
        | [] => []
        | (low, high) :: rest =>
            (low + leadOffset places, high + leadOffset places) :: rest
    else []

/-- The byte sequences of the characters of a set. -/
def ofRanges (set : Ranges) : List ByteRanges :=
  set.flatMap fun (first, last) => ofRange first last

/-- What follows each first byte; neighbours that begin alike are put together. -/
def continuations : List ByteRanges → List ((Nat × Nat) × List ByteRanges)
  | [] => []
  | [] :: rest => continuations rest
  | (lead :: tail) :: rest =>
      match continuations rest with
      | (other, tails) :: others =>
          if other = lead then (lead, tail :: tails) :: others
          else (lead, [tail]) :: (other, tails) :: others
      | [] => [(lead, [tail])]

/-- The states from which these sequences are read, that of all of them first. -/
def states : Nat → List ByteRanges → List (List ByteRanges)
  | 0, _ => []
  | depth + 1, sequences =>
      sequences :: (continuations sequences).flatMap fun (_, rest) =>
        if rest = [[]] then [] else states depth rest

/-- The length of what two sequences have in common at their start. -/
def shared : ByteRanges → ByteRanges → Nat
  | first :: left, second :: right => if first = second then shared left right + 1 else 0
  | _, _ => 0

/-- The number of ways to begin one of the sequences, which are in order. -/
def beginnings (before : ByteRanges) : List ByteRanges → Nat
  | [] => 0
  | sequence :: rest =>
      (sequence.length - shared before sequence) + beginnings sequence rest

end ByteRanges

/-- The size of a set of ASCII characters. -/
def asciiSize (set : Ranges) : Nat :=
  64 + 8 * set.length

/-- The number of bytes of the only member of a set, if there is only one. -/
def onlyLength? (set : Ranges) : Option Nat :=
  match set with
  | [(first, last)] => if first = last then some (Char.ofNat first).utf8Size else none
  | _ => none

/-- A size of a set, where `wide` is that of sets with characters beyond ASCII. -/
def setSize (wide : Ranges → Nat) (set : Ranges) : Nat :=
  match onlyLength? set with
  | some bytes => 32 * bytes
  | none => if set.isEmpty then 32 else if set.isAscii then asciiSize set else wide set

/-- The size of a set that is read forwards. -/
def forwardSize (set : Ranges) : Nat :=
  let states := (ByteRanges.states 4 (ByteRanges.ofRanges set)).eraseDups
  32 + (states.map fun state => 32 + 8 * (ByteRanges.continuations state).length).sum

/-- The size of a set that is read backwards. -/
def backwardSize (set : Ranges) : Nat :=
  let sequences := ByteRanges.ofRanges set
  64 + 32 * ByteRanges.beginnings [] sequences + 4 * sequences.length

/-- More than the size of a set in either direction. A range within a block of characters
with a common beginning has few byte sequences. -/
def roughSize (set : Ranges) : Nat :=
  64 + (set.map fun (first, last) =>
    if first / 64 = last / 64 then 136
    else if first / 4096 = last / 4096 then 1000
    else 4096).sum

/-- What the size of a pattern is worked out from. -/
structure Extent where
  size : Nat
  /-- The number of choices and their sizes together. -/
  choices : Nat
  total : Nat
  /-- The set, if the pattern takes just one character. -/
  set? : Option Ranges

/-- The extent of a pattern that is not a choice. -/
def Extent.ofSize (size : Nat) (set? : Option Ranges) : Extent :=
  ⟨size, 1, size, set?⟩

/-- The size of a repetition whose body has this size. -/
def repeatedSize (size least : Nat) (most : Option Nat) (takesSome : Bool) : Nat :=
  match least, most with
  | 0, none => if takesSome then size + 40 else size + 112
  | least, none => least * size + 40
  | 0, some 0 => 32
  | 0, some 1 => size + 72
  | least, some most =>
      if least = most then least * size
      else (if least = 0 then 32 else least * size) + 32 + (most - least) * (size + 40)

/-- The extent of a pattern. A choice of sets is a set itself. -/
def Node.extent (sizeOf : Ranges → Nat) (capture : Nat) : Node → Extent
  | .empty | .look _ => .ofSize 32 none
  | .char set => .ofSize (sizeOf set) (some set)
  | .sequence first second =>
      let part (node : Node) (extent : Extent) := match node with
        | .empty => 0
        | _ => extent.size
      .ofSize (part first (first.extent sizeOf capture) +
        part second (second.extent sizeOf capture)) none
  | .choice first second =>
      let left := first.extent sizeOf capture
      let right := second.extent sizeOf capture
      let choices := left.choices + right.choices
      let total := left.total + right.total
      match left.set?, right.set? with
      | some one, some other =>
          let set := one.union other
          ⟨sizeOf set, choices, total, some set⟩
      | _, _ => ⟨64 + 4 * choices + total, choices, total, none⟩
  | .repetition least most _ body =>
      .ofSize (repeatedSize (body.extent sizeOf capture).size least most body.takesSome) none
  | .group _ body => .ofSize ((body.extent sizeOf capture).size + capture) none

/-- The largest size of a pattern. -/
def sizeLimit : Nat := 10 * 2 ^ 20

/-- Whether a pattern is not too large. Besides the pattern there are a loop that passes
what comes before a match, the end of the match and, forwards, the recording of its two
ends. The exact sizes are worked out only if the rough one is too large. -/
def Node.fits (node : Node) : Bool :=
  let total (wide : Ranges → Nat) (capture : Nat) :=
    144 + capture + (node.extent (setSize wide) capture).size
  total roughSize 64 ≤ sizeLimit ||
    (total forwardSize 64 ≤ sizeLimit && total backwardSize 0 ≤ sizeLimit)

end ColumnChain.Pattern
