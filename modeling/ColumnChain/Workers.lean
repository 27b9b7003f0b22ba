/-!
# Sharing out work

Mapping a long list in parts of equal length, one for each worker. The parts are put
together again in order, so that the answer does not depend on how many workers there
are. A part has at least one item; the size of the parts carries a proof of it.
-/

namespace ColumnChain.Workers

universe u v

variable {α : Type u} {β : Type v}

/-- Cut a list into parts of one size; the last part may be shorter. -/
def parts (size : Nat) (positive : 0 < size) (items : List α) : List (List α) :=
  match items with
  | [] => []
  | item :: rest => (item :: rest).take size :: parts size positive ((item :: rest).drop size)
termination_by items.length
decreasing_by simp only [List.length_drop, List.length_cons]; omega

/-- The size of the parts when so many items go to so many workers. -/
def partSize (items workers : Nat) : Nat :=
  (items + workers - 1) / workers

theorem partSize_pos {items workers : Nat} (some : 0 < items) (working : 0 < workers) :
    0 < partSize items workers := by
  have enough : workers ≤ items + workers - 1 := by omega
  exact Nat.div_pos enough working

/-- Map a list, sharing the work out when there are at least `threshold` items. There are
never more workers than items. -/
def map (workers threshold : Nat) (f : α → β) (items : List α) : List β :=
  let busy := min workers items.length
  if shared : items.length < threshold ∨ busy ≤ 1 then items.map f
  else
    have positive : 0 < partSize items.length busy :=
      partSize_pos (by omega) (by omega)
    ((parts (partSize items.length busy) positive items).map (List.map f)).flatten

end ColumnChain.Workers
