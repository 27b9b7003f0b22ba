import ColumnChain.Pattern.Program
import ColumnChain.Pattern.Reading
import Std.Data.HashSet.Basic

/-!
# Searching

Finding the leftmost match of a pattern, the preferred one of those that start there,
with the positions of its groups. The search goes through the ways to match in order of
preference and never visits an instruction at a position twice, since what failed there
once fails again; so it takes time proportional to the sizes of pattern and text.
-/

namespace ColumnChain.Pattern

/-- The positions recorded so far, two for each group, a later record of a slot hiding
the earlier ones. -/
abbrev Slots := List (Nat × Nat)

/-- The position in a slot. -/
def Slots.get? (slots : Slots) (slot : Nat) : Option Nat :=
  (slots.find? (·.1 == slot)).map Prod.snd

/-- A way to go on: an instruction, a position and what has been recorded. -/
structure Thread where
  instruction : Nat
  position : Nat
  slots : Slots

/-- The ways to go on from a thread, the preferred one first, or the slots of a match. -/
def Thread.step (program : Program) (text : Array Char) (thread : Thread) :
    List Thread ⊕ Slots :=
  let position := thread.position
  match program[thread.instruction]? with
  | none => .inl []
  | some .accept => .inr thread.slots
  | some (.take set next) =>
      match text[position]? with
      | some c =>
          if set.holds c then
            .inl [{ thread with instruction := next, position := position + 1 }]
          else .inl []
      | none => .inl []
  | some (.look condition next) =>
      let before := if position = 0 then none else text[position - 1]?
      if condition.holds before text[position]? then .inl [{ thread with instruction := next }]
      else .inl []
  | some (.save slot next) =>
      .inl [{ thread with instruction := next, slots := (slot, position) :: thread.slots }]
  | some (.branch preferred other) =>
      .inl [{ thread with instruction := preferred }, { thread with instruction := other }]

/-- The instructions and positions where threads have been. -/
abbrev Visited := Std.HashSet (Nat × Nat)

/-- Follow the threads in order, but none that comes to where another one has been. -/
def follow (program : Program) (text : Array Char) :
    Nat → List Thread → Visited → Option Slots × Visited
  | 0, _, visited => (none, visited)
  | _, [], visited => (none, visited)
  | fuel + 1, thread :: others, visited =>
      let place := (thread.instruction, thread.position)
      if visited.contains place then follow program text fuel others visited
      else
        let visited := visited.insert place
        match thread.step program text with
        | .inl more => follow program text fuel (more ++ others) visited
        | .inr slots => (some slots, visited)

/-- Look for a match that starts at a position or, `left` times, at a later one. -/
def searchFrom (start : Nat) (program : Program) (text : Array Char) :
    Nat → Nat → Visited → Option Slots
  | 0, _, _ => none
  | left + 1, position, visited =>
      let fuel := 2 * program.size * (text.size + 1) + 2
      match follow program text fuel [⟨start, position, []⟩] visited with
      | (some slots, _) => some slots
      | (none, visited) => searchFrom start program text left (position + 1) visited

/-- The first match that starts at a position or later. -/
def find? (start : Nat) (program : Program) (text : Array Char) (position : Nat) :
    Option Slots :=
  searchFrom start program text (text.size + 1 - position) position ∅

/-- All matches from left to right, where `ended` is the end of the last one. A match of
nothing right at that end is passed over in favour of the next one. -/
def findAll (start : Nat) (program : Program) (text : Array Char) :
    Nat → Nat → Option Nat → List Slots
  | 0, _, _ => []
  | fuel + 1, position, ended =>
      let found := (find? start program text position).bind fun slots =>
        if slots.get? 1 == ended && slots.get? 0 == slots.get? 1 then
          find? start program text (position + 1)
        else some slots
      match found with
      | none => []
      | some slots =>
          let finish := (slots.get? 1).getD position
          slots :: findAll start program text fuel finish (some finish)

/-- The part of a text between two positions. -/
def between (text : Array Char) (first last : Nat) : List Char :=
  (text.extract first last).toList

/-- What a group has matched; nothing if it took no part in the match. -/
def groupText (text : Array Char) (slots : Slots) (number : Nat) : List Char :=
  match slots.get? (2 * number), slots.get? (2 * number + 1) with
  | some first, some last => between text first last
  | _, _ => []

/-- A reference to a group in a replacement, by number or by name. -/
def reference (pattern : Pattern) (text : Array Char) (slots : Slots) (name : List Char) :
    List Char :=
  match Number.natural? 64 name with
  | some number => groupText text slots number
  | none =>
      match pattern.names.find? fun (other, _) => other.toList == name with
      | some (_, number) => groupText text slots number
      | none => []

/-- Whether the name of a reference without braces goes on with this character. -/
def continuesReference (c : Char) : Bool :=
  c.isAlphanum || c == '_'

/-- What a replacement text becomes for a match: a dollar sign with a name or a number,
in braces or as long as it goes, stands for a group, and two stand for one. Once `skip`
characters have been dealt with they are passed. -/
def expand (resolve : List Char → List Char) : Nat → List Char → List Char
  | _, [] => []
  | skip + 1, _ :: rest => expand resolve skip rest
  | 0, c :: rest =>
      if c != '$' then c :: expand resolve 0 rest
      else match rest with
        | '$' :: _ => '$' :: expand resolve 1 rest
        | '\x7b' :: inner =>
            let name := inner.takeWhile (· != '\x7d')
            if name.length < inner.length then
              resolve name ++ expand resolve (name.length + 2) rest
            else '$' :: expand resolve 0 rest
        | _ =>
            let name := rest.takeWhile continuesReference
            if name.isEmpty then '$' :: expand resolve 0 rest
            else resolve name ++ expand resolve name.length rest

/-- Replace the matches in a text, of which `done` characters have been copied. -/
def substitute (pattern : Pattern) (text : Array Char) (replacement : List Char)
    (done : Nat) : List Slots → List Char
  | [] => between text done text.size
  | slots :: others =>
      let first := (slots.get? 0).getD done
      let last := (slots.get? 1).getD first
      between text done first ++ expand (reference pattern text slots) 0 replacement ++
        substitute pattern text replacement last others

/-- Replace every match of a pattern. -/
def replaceAll (pattern : Pattern) (replacement text : List Char) : List Char :=
  let characters := text.toArray
  let (start, program) := pattern.node.program
  substitute pattern characters replacement 0
    (findAll start program characters (characters.size + 2) 0 none)

end ColumnChain.Pattern
