import ColumnChain.Store
import ColumnChain.Token

/-!
# Changing chains

The operations that change a store: attaching expressions, putting a chain in order,
changing and deleting records, and removing duplicates. They keep chains lawful: of the
live transformations of a column no two start with the same function name and no two
have the same number.

An operation that may fail answers with a fault or a value, and with the store there is
afterwards. All checks come before the first change, but for one: a chain with more
records than there are numbers is put in order as far as the numbers go. Where a number is
needed after the last one, the program breaks off before the first change.

The current time and the ids of new records are parameters.
-/

namespace ColumnChain

/-- The largest number that a transformation can have. No number comes after it. -/
def lastSequence : UInt32 := 4294967295

/-- A new id. -/
def Transformation.freshId (token : Token 12) : String :=
  String.ofList ("tf_".toList ++ token.chars)

namespace Store

/-- What an operation answers, and the store afterwards, also where there was a fault. -/
abbrev Outcome (α : Type) := Except Fault α × Store

/-- Go on after a check; after a fault the store is as it was. -/
def checked {α β : Type} (store : Store) (check : Except Fault α) (act : α → Outcome β) :
    Outcome β :=
  match check with
  | .ok value => act value
  | .error fault => (.error fault, store)

/-- The largest number of a chain, and zero where there is none. -/
def largestSequence (live : List Transformation) : UInt32 :=
  (live.map Transformation.sequence).foldl max 0

/-- The number after the largest one of a chain. It is not checked that there is one: after
the last number the addition overflows, and the program breaks off. -/
def nextSequence (live : List Transformation) : Except Fault UInt32 :=
  if largestSequence live = lastSequence then .error .numbersExhausted
  else .ok (largestSequence live + 1)

/-- There is a fault when another live transformation starts with the same name. -/
def ensureUnique (candidate : Transformation) (live : List Transformation) :
    Except Fault Unit :=
  match candidate.functionName? with
  | none => .ok ()
  | some function =>
      if live.any fun t => t.id != candidate.id && t.functionName? == some function then
        .error (.duplicateFunction candidate.column function)
      else .ok ()

/-- The record of a proposal. -/
def propose (proposal : Proposal) (id : String) (sequence : UInt32) (now : Instant) :
    Transformation where
  id
  dataset := proposal.dataset
  column := proposal.column
  expression := proposal.expression
  category := Category.ofExpression proposal.expression
  status := proposal.status.getD .active
  sequence
  created := now
  output := proposal.output.getD .overwrite
  updated := none

/-- The record of a proposal at the end of a chain, if it can be kept beside the chain. -/
def admitted (proposal : Proposal) (id : String) (now : Instant) (live : List Transformation) :
    Except Fault Transformation := do
  if proposal.status = some .deleted then throw .createdDeleted
  let t := propose proposal id (← nextSequence live) now
  if t.isLive then ensureUnique t live
  return t

/-- Attach an expression to a column, at the end of its chain. -/
def create (store : Store) (proposal : Proposal) (id : String) (now : Instant) :
    Outcome Transformation :=
  let live := store.chain proposal.dataset proposal.column
  store.checked (admitted proposal id now live) fun t => (.ok t, store.put t)

/-- A record with another number; the time of the change is noted if there is one. -/
def renumber (sequence : UInt32) (now : Instant) (t : Transformation) : Transformation :=
  if t.sequence = sequence then t else { t with sequence, updated := some now }

/-- Number transformations in their order; `place` is the number of the first. -/
def numbered (now : Instant) : Nat → List Transformation → List Transformation
  | _, [] => []
  | place, t :: rest =>
      renumber (UInt32.ofNat place) now t :: numbered now (place + 1) rest

/-- The transformations with these ids, if there are all of them. -/
def withIds? (live : List Transformation) (ids : List String) :
    Option (List Transformation) :=
  ids.mapM fun id => live.find? fun t => t.id == id

/-- Put the chain of a column in an order. The ids have to be those of the chain, each of
them once. -/
def reorder (store : Store) (dataset column : String) (ids : List String) (now : Instant) :
    Outcome (List Transformation) :=
  let live := store.chain dataset column
  match withIds? live ids with
  | some ordered =>
      if ids.Nodup ∧ ids.length = live.length then
        let chain := numbered now 1 ordered
        let store := (chain.take (UInt32.size - 1)).foldl Keyed.put store
        if chain.length < UInt32.size then (.ok chain, store) else (.error .chainTooLong, store)
      else (.error (.incompleteReorder column live.length ids.length), store)
  | none => (.error (.incompleteReorder column live.length ids.length), store)

/-- A change makes a record live that is not. -/
def awakes (t : Transformation) (change : Change) : Bool :=
  (change.status.getD t.status).isLive && !t.isLive

/-- The number of a record after a change, beside the other live transformations of its
column. A record that becomes live without a number goes to the end of the chain. -/
def requestedSequence (t : Transformation) (change : Change) (others : List Transformation) :
    Except Fault UInt32 :=
  match change.sequence with
  | some sequence => .ok sequence
  | none => if awakes t change then nextSequence others else .ok t.sequence

/-- The record that a change asks for. -/
def requested (t : Transformation) (change : Change) (sequence : UInt32) : Transformation :=
  { t with status := change.status.getD t.status, sequence }

/-- There is a fault when a live record is to get a number that another one has. -/
def ensureFree (result : Transformation) (others : List Transformation) :
    Except Fault Unit :=
  if result.isLive && others.any fun other => other.sequence == result.sequence then
    .error (.takenSequence result.sequence.toNat result.column)
  else .ok ()

/-- The record of a change, if it keeps the chain lawful. -/
def changed (t : Transformation) (change : Change) (others : List Transformation) :
    Except Fault Transformation := do
  if change.sequence = some 0 then throw .zeroSequence
  if awakes t change then ensureUnique t others
  let result := requested t change (← requestedSequence t change others)
  if change.sequence.isSome then ensureFree result others
  return result

/-- Change the number or the status of a record. An empty change leaves no trace. -/
def update (store : Store) (id : String) (change : Change) (now : Instant) :
    Outcome Transformation :=
  store.checked (store.require id) fun t =>
    if change.isEmpty then (.ok t, store)
    else
      let others := (store.chain t.dataset t.column).filter fun other => other.id != id
      store.checked (changed t change others) fun t =>
        let t := { t with updated := some now }
        (.ok t, store.put t)

/-- Delete a record. The numbers of the others stay. -/
def delete (store : Store) (id : String) (mode : Deletion) (now : Instant) :
    Outcome Transformation :=
  store.checked (store.require id) fun t =>
    match mode with
    | .soft =>
        let t := { t with status := .deleted, updated := some now }
        (.ok t, store.put t)
    | .hard => (.ok t, store.erase id)

/-- The live transformations that come after one with the same column and function name.
`seen` holds the columns and names that came before. -/
def duplicates (seen : List (String × String)) : List Transformation → List Transformation
  | [] => []
  | t :: rest =>
      match t.functionName? with
      | none => duplicates seen rest
      | some function =>
          if seen.contains (t.column, function) then t :: duplicates seen rest
          else duplicates ((t.column, function) :: seen) rest

/-- Remove the duplicates among the live transformations of a dataset: of those with the
same column and function name the first in chain order stays. The result tells how many
are removed. -/
def cleanup (store : Store) (dataset : String) : Nat × Store :=
  let live := ((ofDataset store dataset).filter Transformation.isLive).mergeSort
    Transformation.precedes
  let removed := duplicates [] live
  (removed.length, removed.foldl (fun store t => store.erase t.id) store)

end Store
end ColumnChain
