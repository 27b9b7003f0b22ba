import ColumnChain.Pattern.Syntax

/-!
# Pattern programs

A pattern as a list of numbered instructions, each naming those that may follow it. Of
two followers the first is preferred. A program is made from its end: the instructions
of a pattern are added once the instruction that follows it is known, and a repetition
reserves the place of its branching before its body is added.
-/

namespace ColumnChain.Pattern

/-- One instruction. -/
inductive Instruction where
  /-- Take a character of a set. -/
  | take (set : Text.Ranges) (next : Nat)
  | look (condition : Look) (next : Nat)
  /-- Record the position in a slot. -/
  | save (slot next : Nat)
  | branch (preferred other : Nat)
  | accept

/-- The instructions added so far. -/
abbrev Program := Array Instruction

namespace Program

/-- Add an instruction; the result tells where it is. -/
def add (program : Program) (instruction : Instruction) : Nat × Program :=
  (program.size, program.push instruction)

/-- Add a branching that prefers its body if it is greedy. -/
def addBranch (program : Program) (greedy : Bool) (body exit : Nat) : Nat × Program :=
  add program (if greedy then .branch body exit else .branch exit body)

/-- Add a body that may be taken any number of times. The branching comes after the body;
`entry` tells whether the body must be taken once. When the body can match without
taking a character, skipping it is a branching of its own. -/
def addLoop (compile : Nat → Program → Nat × Program) (takesSome greedy entry : Bool)
    (next : Nat) (program : Program) : Nat × Program :=
  let place := program.size
  let (body, program) := compile place (program.push .accept)
  let branching := if greedy then Instruction.branch body next else .branch next body
  let program := program.setIfInBounds place branching
  if entry then (body, program)
  else if takesSome then (place, program)
  else addBranch program greedy body next

/-- Add a body so many times. -/
def addTimes (compile : Nat → Program → Nat × Program) :
    Nat → Nat → Program → Nat × Program
  | 0, next, program => (next, program)
  | count + 1, next, program =>
      let (start, program) := compile next program
      addTimes compile count start program

/-- Add a body that may be taken up to so many times, each time depending on the one
before it; `exit` follows when it is not taken. -/
def addOptions (compile : Nat → Program → Nat × Program) (greedy : Bool) (exit : Nat) :
    Nat → Nat → Program → Nat × Program
  | 0, next, program => (next, program)
  | count + 1, next, program =>
      let (start, program) := compile next program
      let (start, program) := addBranch program greedy start exit
      addOptions compile greedy exit count start program

end Program

/-- Add the instructions of a pattern before the instruction `next`. -/
def Node.compile : Node → Nat → Program → Nat × Program
  | .empty, next, program => (next, program)
  | .char set, next, program => Program.add program (.take set next)
  | .look condition, next, program => Program.add program (.look condition next)
  | .sequence first second, next, program =>
      let (start, program) := second.compile next program
      first.compile start program
  | .choice first second, next, program =>
      let (left, program) := first.compile next program
      let (right, program) := second.compile next program
      Program.add program (.branch left right)
  | .group number body, next, program =>
      let (close, program) := Program.add program (.save (2 * number + 1) next)
      let (start, program) := body.compile close program
      Program.add program (.save (2 * number) start)
  | .repetition least most greedy body, next, program =>
      let repeated := body.compile
      match most with
      | none =>
          let (start, program) :=
            Program.addLoop repeated body.takesSome greedy (least != 0) next program
          Program.addTimes repeated (least - 1) start program
      | some most =>
          let (start, program) :=
            Program.addOptions repeated greedy next (most - least) next program
          Program.addTimes repeated least start program

/-- The whole program of a pattern, which records the match itself in the first two
slots, and its first instruction. -/
def Node.program (node : Node) : Nat × Program :=
  (Node.group 0 node).compile 0 #[.accept]

end ColumnChain.Pattern
