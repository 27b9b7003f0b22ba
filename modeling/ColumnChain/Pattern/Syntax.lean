import ColumnChain.Text.Ranges

/-!
# Patterns

A pattern is built from sets of characters and conditions on positions by sequence,
choice, repetition and numbered groups. Choice prefers its left side, and a repetition
prefers going on or stopping according to whether it is greedy.
-/

namespace ColumnChain.Pattern

open Text (Ranges)

/-- Conditions on the characters on the two sides of a position. -/
inductive Look where
  | textStart
  | textEnd
  | lineStart
  | lineEnd
  /-- Line starts and ends where a carriage return also ends a line. -/
  | returnLineStart
  | returnLineEnd
  /-- A side is inside a word if its character is of this set. -/
  | boundary (word : Ranges)
  | noBoundary (word : Ranges)
  | wordStart (word : Ranges)
  | wordEnd (word : Ranges)
  /-- Nothing of a word before, or after, the position. -/
  | noWordBefore (word : Ranges)
  | noWordAfter (word : Ranges)

namespace Look

/-- Whether the condition holds between two characters; there is none on a side where
the text ends. -/
def holds (before after : Option Char) : Look → Bool
  | textStart => before.isNone
  | textEnd => after.isNone
  | lineStart => before.isNone || before == some '\n'
  | lineEnd => after.isNone || after == some '\n'
  | returnLineStart =>
      before.isNone || before == some '\n' || (before == some '\r' && after != some '\n')
  | returnLineEnd =>
      after.isNone || after == some '\r' || (after == some '\n' && before != some '\r')
  | boundary word => before.any word.holds != after.any word.holds
  | noBoundary word => before.any word.holds == after.any word.holds
  | wordStart word => !before.any word.holds && after.any word.holds
  | wordEnd word => before.any word.holds && !after.any word.holds
  | noWordBefore word => !before.any word.holds
  | noWordAfter word => !after.any word.holds

end Look

/-- A pattern. -/
inductive Node where
  | empty
  | char (set : Ranges)
  | look (condition : Look)
  | sequence (first second : Node)
  | choice (first second : Node)
  /-- At least `least` times, and at most as often as `most` says. -/
  | repetition (least : Nat) (most : Option Nat) (greedy : Bool) (body : Node)
  | group (number : Nat) (body : Node)

namespace Node

/-- Whether the pattern certainly takes a character wherever it matches. -/
def takesSome : Node → Bool
  | empty | look _ => false
  | char _ => true
  | sequence first second => first.takesSome || second.takesSome
  | choice first second => first.takesSome && second.takesSome
  | repetition least _ _ body => least != 0 && body.takesSome
  | group _ body => body.takesSome

/-- Whether the pattern certainly takes no character wherever it matches. -/
def takesNone : Node → Bool
  | empty | look _ => true
  | char _ => false
  | sequence first second | choice first second => first.takesNone && second.takesNone
  | repetition _ most _ body => most == some 0 || body.takesNone
  | group _ body => body.takesNone

/-- A repetition in its simplest form: what takes no character need not be taken twice,
never is nothing, and once is the body itself. -/
def repeated (least : Nat) (most : Option Nat) (greedy : Bool) (body : Node) : Node :=
  let (least, most) :=
    if body.takesNone then (min least 1, some (min (most.getD 1) 1)) else (least, most)
  match least, most with
  | 0, some 0 => empty
  | 1, some 1 => body
  | least, most => repetition least most greedy body

end Node

end ColumnChain.Pattern
