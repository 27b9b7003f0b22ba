import ColumnChain.Proofs.Codec
import ColumnChain.Proofs.Lawfulness

/-!
# How calls end

A call ends in a fault or it succeeds. A call that ends in a fault leaves the store as it
is, but for one fault: a chain with more records than there are numbers is numbered as far
as the numbers go, and then a live record has the last number.
-/

namespace ColumnChain.Store

/-- The fault in which an operation ends, if it ends in one. -/
def Outcome.fault? {α : Type} : Outcome α → Option Fault
  | (.ok _, _) => none
  | (.error fault, _) => some fault

namespace Operation

/-- The fault in which a call ends, if it ends in one. -/
def fault? (store : Store) : Operation → Option Fault
  | create proposal id now => Outcome.fault? (store.create proposal id now)
  | reorder dataset column ids now => Outcome.fault? (store.reorder dataset column ids now)
  | update id change now => Outcome.fault? (store.update id change now)
  | delete id mode now => Outcome.fault? (store.delete id mode now)
  | cleanup _ => none

/-- A call does not list more ids than there are numbers. -/
def IsShort : Operation → Prop
  | reorder _ _ ids _ => ids.length < UInt32.size
  | create .. | update .. | delete .. | cleanup _ => True

/-- A call is made at a time; a cleanup notes no times. -/
def IsAt (now : Instant) : Operation → Prop
  | create _ _ time | reorder _ _ _ time | update _ _ time | delete _ _ time => time = now
  | cleanup _ => True

end Operation

variable {store : Store}

/-! ## Calls that end in a fault -/

theorem snd_checked_of_fault {α β : Type} {check : Except Fault α} {act : α → Outcome β}
    {fault : Fault} (unchanged : ∀ value, Outcome.fault? (act value) = some fault →
      (act value).2 = store)
    (ends : Outcome.fault? (store.checked check act) = some fault) :
    (store.checked check act).2 = store := by
  cases check with
  | error other => rfl
  | ok value => exact unchanged value ends

theorem snd_create_of_fault {proposal : Proposal} {id : String} {now : Instant} {fault : Fault}
    (ends : Outcome.fault? (store.create proposal id now) = some fault) :
    (store.create proposal id now).2 = store :=
  snd_checked_of_fault (fun _ ends => nomatch ends) ends

theorem snd_update_of_fault {id : String} {change : Change} {now : Instant} {fault : Fault}
    (ends : Outcome.fault? (store.update id change now) = some fault) :
    (store.update id change now).2 = store := by
  refine snd_checked_of_fault (fun t ends => ?_) ends
  split at ends
  next => cases ends
  next =>
    rw [if_neg ‹_›]
    exact snd_checked_of_fault (fun _ ends => nomatch ends) ends

theorem snd_delete_of_fault {id : String} {mode : Deletion} {now : Instant} {fault : Fault}
    (ends : Outcome.fault? (store.delete id mode now) = some fault) :
    (store.delete id mode now).2 = store := by
  refine snd_checked_of_fault (fun t ends => ?_) ends
  cases mode <;> cases ends

/-- When numbers run out in a chain that is put in order, a live record has the last one. -/
theorem not_isBounded_withOrder {dataset column : String} {now : Instant}
    {ordered : List Transformation} (complete : ordered.Perm (store.chain dataset column))
    (long : UInt32.size ≤ ordered.length) : ¬ (store.withOrder now ordered).IsBounded := by
  have size : UInt32.size = 4294967296 := rfl
  have inside : 4294967294 < ordered.length := by omega
  have there : ordered[4294967294]? = some ordered[4294967294] := List.getElem?_eq_getElem inside
  have numberedThere := getElem?_numbered now 1 ordered 4294967294
  rw [there, Option.map_some] at numberedThere
  have renumberedThere : (renumbered now ordered)[4294967294]? =
      some (renumber (UInt32.ofNat (1 + 4294967294)) now ordered[4294967294]) := by
    rw [renumbered, List.getElem?_take, if_pos (by omega), numberedThere]
  have live : ordered[4294967294].isLive = true :=
    (mem_chain.1 (complete.subset (List.getElem_mem inside))).2.2.2
  intro bounded
  refine bounded _ ((mem_withOrder complete).2 (Or.inl (List.mem_of_getElem? renumberedThere)))
    ?_ ?_
  · rw [renumber_isLive, live]
  · rw [renumber_sequence]
    rfl

/-- Putting a chain in order changes nothing before its numbers run out. -/
theorem snd_reorder_of_fault {dataset column : String} {ids : List String} {now : Instant}
    {fault : Fault} (ends : Outcome.fault? (store.reorder dataset column ids now) = some fault) :
    (store.reorder dataset column ids now).2 = store ∨
      UInt32.size ≤ ids.length ∧ ¬ (store.reorder dataset column ids now).2.IsBounded := by
  simp only [reorder] at ends ⊢
  split
  next ordered found =>
    rw [found] at ends
    split
    next lawful =>
      have complete := perm_of_withIds? found lawful.1 lawful.2
      simp only [if_pos lawful] at ends
      split
      next enough =>
        rw [if_pos enough] at ends
        cases ends
      next long =>
        rw [length_numbered, complete.length_eq, ← lawful.2, Nat.not_lt] at long
        refine Or.inr ⟨long, not_isBounded_withOrder complete ?_⟩
        rwa [complete.length_eq, ← lawful.2]
    next => exact Or.inl rfl
  next => exact Or.inl rfl

/-- A call that ends in a fault leaves the store as it is, unless numbers run out. -/
theorem perform_of_fault {call : Operation} {fault : Fault}
    (ends : call.fault? store = some fault) :
    call.perform store = store ∨ ¬ call.IsShort ∧ ¬ (call.perform store).IsBounded := by
  cases call with
  | create proposal id now => exact Or.inl (snd_create_of_fault ends)
  | update id change now => exact Or.inl (snd_update_of_fault ends)
  | delete id mode now => exact Or.inl (snd_delete_of_fault ends)
  | reorder dataset column ids now =>
      exact (snd_reorder_of_fault ends).imp_right fun ⟨long, unbounded⟩ =>
        ⟨Nat.not_lt.2 long, unbounded⟩
  | cleanup dataset => cases ends

/-- A cleanup that removes nothing changes nothing. -/
theorem snd_cleanup_of_fst {dataset : String} (nothing : (store.cleanup dataset).1 = 0) :
    (store.cleanup dataset).2 = store := by
  have removed := List.eq_nil_of_length_eq_zero nothing
  simp only [cleanup, removed, List.foldl_nil]

/-! ## Times of records -/

section Times

variable {now : Instant}

theorem IsTimed.put (timed : store.IsTimed) {t : Transformation} (isTimed : t.IsTimed) :
    IsTimed (Keyed.put store t) := by
  intro other member
  rcases Keyed.mem_put.1 member with rfl | ⟨kept, -⟩
  · exact isTimed
  · exact timed other kept

theorem isTimed_revised {t : Transformation} (isTimed : t.IsTimed) (isTime : now.IsTime)
    {status : Status} {sequence : UInt32} :
    Transformation.IsTimed { t with status, sequence, updated := some now } where
  created := isTimed.created
  updated := by
    rintro _ ⟨⟩
    exact isTime

theorem isTimed_renumber {t : Transformation} (isTimed : t.IsTimed) (isTime : now.IsTime)
    (sequence : UInt32) : (renumber sequence now t).IsTimed := by
  simp only [renumber]
  split
  next => exact isTimed
  next => exact isTimed_revised isTimed isTime

theorem IsTimed.withOrder (timed : store.IsTimed) (isTime : now.IsTime)
    {dataset column : String} {ordered : List Transformation}
    (complete : ordered.Perm (store.chain dataset column)) :
    IsTimed (store.withOrder now ordered) := by
  intro t member
  rcases (mem_withOrder complete).1 member with moved | ⟨old, -⟩
  · obtain ⟨index, earlier, -, there, rfl⟩ :=
      exists_of_mem_numbered (List.mem_of_mem_take moved)
    have inChain := complete.subset (List.mem_of_getElem? there)
    exact isTimed_renumber (timed earlier (mem_chain.1 inChain).1) isTime _
  · exact timed t old

/-- The times of records stay times when a call is made at a time. -/
theorem IsTimed.perform (timed : store.IsTimed) {call : Operation} (made : call.IsAt now)
    (isTime : now.IsTime) : IsTimed (call.perform store) := by
  cases call with
  | create proposal id time =>
      cases made
      refine snd_checked timed fun t accepted => timed.put ?_
      obtain ⟨-, sequence, -, rfl, -⟩ := admitted_eq_ok.1 accepted
      refine ⟨isTime, ?_⟩
      rintro _ ⟨⟩
  | update id change time =>
      cases made
      refine snd_checked timed fun t found => ?_
      have isTimed := timed t (require_eq_ok.1 found).1
      split
      next => exact timed
      next =>
        refine snd_checked timed fun result accepted => timed.put ?_
        obtain ⟨sequence, -, rfl⟩ := changed_eq_ok.1 accepted
        exact isTimed_revised isTimed isTime
  | delete id mode time =>
      cases made
      refine snd_checked timed fun t found => ?_
      have isTimed := timed t (require_eq_ok.1 found).1
      cases mode with
      | soft => exact timed.put (isTimed_revised isTimed isTime)
      | hard => exact fun other member => timed other (Keyed.mem_erase.1 member).1
  | reorder dataset column ids time =>
      cases made
      rw [Operation.perform]
      rcases store.snd_reorder_cases dataset column ids now with
        same | ⟨ordered, complete, equal⟩
      · rw [same]
        exact timed
      · rw [equal]
        exact timed.withOrder isTime complete
  | cleanup dataset => exact fun t member => timed t (Keyed.mem_of_mem_foldl_erase member)

end Times
end ColumnChain.Store
