import ColumnChain.Proofs.Chain
import Mathlib.Data.List.Forall2
import Mathlib.Data.List.Perm.Subperm

/-!
# Calls of operations

A call is an operation on a store with all that it is given. This module says once what a
call can do to a store: nothing, put one record, renumber a chain, or take records away.
A live record that is put has its function name and its number from somewhere, and that
is all that invariants of stores need to know about the operations.
-/

namespace ColumnChain

namespace Store

/-- A call of one of the operations. -/
inductive Operation where
  | create (proposal : Proposal) (id : String) (now : Instant)
  | reorder (dataset column : String) (ids : List String) (now : Instant)
  | update (id : String) (change : Change) (now : Instant)
  | delete (id : String) (mode : Deletion) (now : Instant)
  | cleanup (dataset : String)

/-- The store after a call, whether it succeeds or fails. -/
def Operation.perform (store : Store) : Operation → Store
  | create proposal id now => (store.create proposal id now).2
  | reorder dataset column ids now => (store.reorder dataset column ids now).2
  | update id change now => (store.update id change now).2
  | delete id mode now => (store.delete id mode now).2
  | cleanup dataset => (store.cleanup dataset).2

/-- The stores on the way through some calls: the first one, and the one after every
call. -/
def history (store : Store) : List Operation → List Store
  | [] => [store]
  | call :: calls => store :: history (call.perform store) calls

/-- What every call preserves holds on the way through all calls. -/
theorem forall_mem_history (Invariant : Store → Prop)
    (step : ∀ store (call : Operation), Invariant store → Invariant (call.perform store))
    {store : Store} {calls : List Operation} (start : Invariant store) :
    ∀ reached ∈ store.history calls, Invariant reached := by
  induction calls generalizing store with
  | nil => simpa [history] using start
  | cons call calls ih =>
      rw [history, List.forall_mem_cons]
      exact ⟨start, ih (step store call start)⟩

/-! ## Where a live record has its name and its number from -/

/-- Where the function name of a live record comes from that is put into a store. -/
inductive NameSource (store : Store) (t : Transformation) : Prop where
  /-- No other record of the chain has the name. -/
  | free (unique : t.IsUniqueIn (store.chain t.dataset t.column))
  /-- A live record had the name already. -/
  | kept (earlier : Transformation) (member : earlier ∈ store.entries)
      (live : earlier.isLive = true) (revises : t.Revises earlier)

/-- Where the number of a live record comes from that is put into a store. -/
inductive NumberSource (store : Store) (t : Transformation) : Prop where
  /-- It is the number after those of the chain. -/
  | next (others : List Transformation)
      (within : ∀ other ∈ others, other ∈ store.chain t.dataset t.column)
      (complete : ∀ other ∈ store.chain t.dataset t.column, other.id ≠ t.id → other ∈ others)
      (follows : nextSequence others = .ok t.sequence)
  /-- It is positive, and no other record of the chain has it. -/
  | free (positive : t.sequence ≠ 0)
      (unique : ∀ other ∈ store.chain t.dataset t.column, other.id ≠ t.id →
        other.sequence ≠ t.sequence)
  /-- A live record had the number already. -/
  | kept (earlier : Transformation) (member : earlier ∈ store.entries)
      (live : earlier.isLive = true) (revises : t.Revises earlier)
      (equal : t.sequence = earlier.sequence)

/-- The store after putting a chain in an order. -/
def withOrder (store : Store) (now : Instant) (ordered : List Transformation) : Store :=
  ((numbered now 1 ordered).take (UInt32.size - 1)).foldl Keyed.put store

/-- What a call can do to a store. -/
inductive Effect (store : Store) : Store → Prop where
  | unchanged : Effect store store
  | put (t : Transformation) (name : t.isLive = true → NameSource store t)
      (number : t.isLive = true → NumberSource store t) : Effect store (store.put t)
  | reordered (dataset column : String) (now : Instant) (ordered : List Transformation)
      (complete : ordered.Perm (store.chain dataset column)) :
      Effect store (store.withOrder now ordered)
  | removed (remaining : Store) (kept : ∀ t ∈ remaining.entries, t ∈ store.entries) :
      Effect store remaining

/-! ## The effects of the operations -/

section Effects

variable {store : Store}

/-- After a failed check nothing has changed, so what holds of the store, and after what is
done when the check passes, holds in any case. -/
theorem snd_checked {α β : Type} {check : Except Fault α} {act : α → Outcome β}
    {motive : Store → Prop} (before : motive store)
    (after : ∀ value, check = .ok value → motive (act value).2) :
    motive (store.checked check act).2 := by
  cases result : check with
  | error fault => exact before
  | ok value => exact after value result

theorem ensureUnique_eq_ok {t : Transformation} {live : List Transformation} :
    ensureUnique t live = .ok () ↔ t.IsUniqueIn live := by
  simp only [ensureUnique, Transformation.IsUniqueIn]
  cases named : t.functionName? with
  | none => simp
  | some function => simp

section Checks

variable {ε α β : Type} {error fault : ε} {result : β}

theorem bind_eq_ok {check : Except ε α} {act : α → Except ε β} :
    (check >>= act) = .ok result ↔ ∃ value, check = .ok value ∧ act value = .ok result := by
  cases check <;> simp [bind, Except.bind]

theorem bind_eq_error {check : Except ε α} {act : α → Except ε β} :
    (check >>= act) = .error fault ↔
      check = .error fault ∨ ∃ value, check = .ok value ∧ act value = .error fault := by
  cases check <;> simp [bind, Except.bind]

variable {condition : Bool} {check : Except ε Unit} {next : Except ε β}

/-- Going on after a check that is made on a condition. -/
theorem check_eq_ok :
    (do if condition then check
        next) = .ok result ↔ (condition = true → check = .ok ()) ∧ next = .ok result := by
  cases condition with
  | false => simp
  | true => cases check <;> simp [bind, Except.bind]

theorem check_eq_error :
    (do if condition then check
        next) = .error fault ↔
      (condition = true ∧ check = .error fault) ∨
        (condition = true → check = .ok ()) ∧ next = .error fault := by
  cases condition with
  | false => simp
  | true => cases check <;> simp [bind, Except.bind]

variable {refusal : Prop} [Decidable refusal]

/-- Going on where there is no refusal. -/
theorem throw_eq_ok :
    (do if refusal then throw error
        next) = .ok result ↔ ¬ refusal ∧ next = .ok result := by
  by_cases holds : refusal <;>
    simp [holds, throw, throwThe, MonadExceptOf.throw, bind, Except.bind]

theorem throw_eq_error :
    (do if refusal then throw error
        next) = .error fault ↔ (refusal ∧ error = fault) ∨ ¬ refusal ∧ next = .error fault := by
  by_cases holds : refusal <;>
    simp [holds, throw, throwThe, MonadExceptOf.throw, bind, Except.bind]

end Checks

/-- A proposal is admitted with the next number, unless it asks for a deleted record, or for a
live one whose name is taken. -/
theorem admitted_eq_ok {proposal : Proposal} {id : String} {now : Instant}
    {live : List Transformation} {t : Transformation} :
    admitted proposal id now live = .ok t ↔
      proposal.status ≠ some .deleted ∧ ∃ sequence, nextSequence live = .ok sequence ∧
        t = propose proposal id sequence now ∧ (t.isLive = true → t.IsUniqueIn live) := by
  rw [admitted, throw_eq_ok, bind_eq_ok]
  simp only [check_eq_ok, ensureUnique_eq_ok, pure, Except.pure, Except.ok.injEq]
  refine and_congr_right fun _ => exists_congr fun sequence => and_congr_right fun _ => ?_
  constructor
  · rintro ⟨unique, rfl⟩
    exact ⟨rfl, unique⟩
  · rintro ⟨rfl, unique⟩
    exact ⟨unique, rfl⟩

theorem effect_create (proposal : Proposal) (id : String) (now : Instant) :
    Effect store (store.create proposal id now).2 := by
  apply snd_checked .unchanged
  intro t accepted
  obtain ⟨-, sequence, follows, rfl, unique⟩ := admitted_eq_ok.1 accepted
  exact .put _ (fun live => .free (unique live)) fun _ =>
    .next _ (fun other member => member) (fun other member _ => member) follows

theorem effect_delete (id : String) (mode : Deletion) (now : Instant) :
    Effect store (store.delete id mode now).2 := by
  apply snd_checked .unchanged
  intro t found
  cases mode with
  | soft =>
      refine .put _ ?_ ?_ <;>
      · intro live
        cases live
  | hard => exact .removed _ fun other member => (Keyed.mem_erase.1 member).1

theorem effect_cleanup (dataset : String) : Effect store (store.cleanup dataset).2 :=
  .removed _ fun _ member => Keyed.mem_of_mem_foldl_erase member

theorem require_eq_ok {id : String} {t : Transformation} :
    store.require id = .ok t ↔ t ∈ store.entries ∧ t.id = id := by
  rw [← Keyed.find?_eq_some_iff]
  simp only [require]
  split <;> simp_all

end Effects

/-! ## Accepted changes -/

section Changes

variable {t result : Transformation} {change : Change} {others : List Transformation}

theorem ensureFree_eq_ok :
    ensureFree result others = .ok () ↔
      (result.isLive = true → ∀ other ∈ others, other.sequence ≠ result.sequence) := by
  simp only [ensureFree]
  cases result.isLive <;> simp

/-- When a change is accepted, and with which number: it does not ask for zero, a record that
becomes live has a name of its own, and a live record gets a number of its own if one is given. -/
structure Lawful (t : Transformation) (change : Change) (others : List Transformation)
    (sequence : UInt32) : Prop where
  positive : change.sequence ≠ some 0
  unique : awakes t change = true → t.IsUniqueIn others
  number : requestedSequence t change others = .ok sequence
  free : change.sequence.isSome = true → (requested t change sequence).isLive = true →
    ∀ other ∈ others, other.sequence ≠ sequence

/-- What stands in the second of two lists that are related stands beside an item of the first. -/
theorem exists_of_mem_forall₂ {α β : Type} {related : α → β → Prop} {items : List α}
    {results : List β} (beside : List.Forall₂ related items results) :
    ∀ result ∈ results, ∃ item ∈ items, related item result := by
  induction beside with
  | nil => simp
  | @cons item first _ _ here _ ih =>
      rw [List.forall_mem_cons]
      refine ⟨⟨item, List.mem_cons_self, here⟩, fun result inside => ?_⟩
      obtain ⟨source, listed, there⟩ := ih result inside
      exact ⟨source, List.mem_cons_of_mem item listed, there⟩

/-- The items of a list are made into results exactly if each is made into the one in its
place. -/
theorem mapM_eq_ok {ε α β : Type} {act : α → Except ε β} {items : List α} {results : List β} :
    items.mapM act = .ok results ↔
      List.Forall₂ (fun item result => act item = .ok result) items results := by
  induction items generalizing results with
  | nil =>
      rw [List.mapM_nil, List.forall₂_nil_left_iff]
      exact ⟨fun made => (Except.ok.inj made).symm, fun empty => congrArg Except.ok empty.symm⟩
  | cons item items ih =>
      rw [List.mapM_cons, List.forall₂_cons_left_iff, bind_eq_ok]
      constructor
      · rintro ⟨first, madeFirst, rest⟩
        obtain ⟨others, madeOthers, same⟩ := bind_eq_ok.1 rest
        exact ⟨first, others, madeFirst, ih.1 madeOthers, (Except.ok.inj same).symm⟩
      · rintro ⟨first, others, madeFirst, madeOthers, rfl⟩
        exact ⟨first, madeFirst, bind_eq_ok.2 ⟨others, ih.2 madeOthers, rfl⟩⟩

/-- What is made of the items of a list is each made of one of them. -/
theorem exists_of_mem_mapM {ε α β : Type} {act : α → Except ε β} {items : List α}
    {results : List β} (made : items.mapM act = .ok results) :
    ∀ result ∈ results, ∃ item ∈ items, act item = .ok result :=
  exists_of_mem_forall₂ (mapM_eq_ok.1 made)

theorem changed_eq_ok :
    changed t change others = .ok result ↔
      ∃ sequence, Lawful t change others sequence ∧ result = requested t change sequence := by
  rw [changed, throw_eq_ok, check_eq_ok, ensureUnique_eq_ok, bind_eq_ok]
  simp only [check_eq_ok, ensureFree_eq_ok, pure, Except.pure, Except.ok.injEq]
  constructor
  · rintro ⟨positive, unique, sequence, number, free, rfl⟩
    exact ⟨sequence, ⟨positive, unique, number, free⟩, rfl⟩
  · rintro ⟨sequence, lawful, rfl⟩
    exact ⟨lawful.positive, lawful.unique, sequence, lawful.number, lawful.free, rfl⟩

theorem requestedSequence_of_none (given : change.sequence = none) :
    requestedSequence t change others =
      if awakes t change then nextSequence others else .ok t.sequence := by
  rw [requestedSequence, given]

/-- A number that is given is the one of the record. -/
theorem Lawful.sequence_eq {sequence given : UInt32} (lawful : Lawful t change others sequence)
    (isGiven : change.sequence = some given) : sequence = given := by
  have number := lawful.number
  rw [requestedSequence, isGiven] at number
  exact (Except.ok.inj number).symm

/-- A record awakes where it is not live, and live after the change. -/
theorem awakes_eq_true (sequence : UInt32) :
    awakes t change = true ↔
      (requested t change sequence).isLive = true ∧ t.isLive = false := by
  change ((requested t change sequence).isLive && !t.isLive) = true ↔ _
  simp

end Changes

/-! ## The effect of an update -/

section Update

variable {store : Store}

/-- Putting the record of a change that passes the checks, whatever time is noted in it. -/
theorem Lawful.effect {t : Transformation} {change : Change} {sequence : UInt32}
    (member : t ∈ store.entries)
    (lawful : Lawful t change
      ((store.chain t.dataset t.column).filter fun other => other.id != t.id) sequence)
    (updated : Option Instant) :
    Effect store (store.put { requested t change sequence with updated }) := by
  generalize distinguished :
    ((store.chain t.dataset t.column).filter fun other => other.id != t.id) = others at lawful
  have mem_iff : ∀ other, other ∈ others ↔
      other ∈ store.chain t.dataset t.column ∧ other.id ≠ t.id := by
    intro other
    rw [← distinguished]
    exact mem_others
  have revises : ({ requested t change sequence with updated } :
      Transformation).Revises t := rfl
  refine .put _ ?_ ?_
  · intro live
    -- A name is only checked when the record awakes: no change touches the expression.
    cases awake : t.isLive with
    | true => exact .kept t member awake revises
    | false =>
        refine .free ?_
        intro other otherMember different
        exact lawful.unique ((awakes_eq_true sequence).2 ⟨live, awake⟩) other
          ((mem_iff other).2 ⟨otherMember, different⟩) different
  · intro live
    -- A number that is given is checked. Without one a record that awakes goes last, and
    -- one that is awake stays where it is.
    cases given : change.sequence with
    | some number =>
        have equal := lawful.sequence_eq given
        refine .free ?_ ?_
        · intro zero
          apply lawful.positive
          rw [given, ← equal]
          exact congrArg some zero
        · intro other otherMember different
          exact lawful.free (by rw [given]; rfl) live other
            ((mem_iff other).2 ⟨otherMember, different⟩)
    | none =>
        have number := lawful.number
        rw [requestedSequence_of_none given] at number
        cases awake : t.isLive with
        | true =>
            have sleepless : ¬ awakes t change = true := by simp [awakes, awake]
            rw [if_neg sleepless] at number
            exact .kept t member awake revises (Except.ok.inj number).symm
        | false =>
            rw [if_pos ((awakes_eq_true sequence).2 ⟨live, awake⟩)] at number
            exact .next others (fun other within => ((mem_iff other).1 within).1)
              (fun other otherMember different =>
                (mem_iff other).2 ⟨otherMember, different⟩) number

theorem effect_update (id : String) (change : Change) (now : Instant) :
    Effect store (store.update id change now).2 := by
  apply snd_checked .unchanged
  intro t found
  obtain ⟨member, rfl⟩ := require_eq_ok.1 found
  split
  next => exact .unchanged
  next =>
    apply snd_checked .unchanged
    intro result accepted
    obtain ⟨sequence, lawful, rfl⟩ := changed_eq_ok.1 accepted
    exact lawful.effect member (some now)

end Update

/-! ## The effect of putting a chain in an order -/

section Reorder

variable {store : Store} {live ordered : List Transformation} {ids : List String}

/-- The records that are found are those with the given ids, in their order. -/
theorem withIds?_eq_some (found : withIds? live ids = some ordered) :
    ordered.map Transformation.id = ids ∧ ∀ t ∈ ordered, t ∈ live := by
  induction ids generalizing ordered with
  | nil =>
      simp only [withIds?, List.mapM_nil, Option.pure_def, Option.some.injEq] at found
      subst found
      simp
  | cons id ids ih =>
      simp only [withIds?, List.mapM_cons, Option.pure_def, Option.bind_eq_bind,
        Option.bind_eq_some_iff, Option.some.injEq] at found
      obtain ⟨t, tFound, rest, restFound, rfl⟩ := found
      obtain ⟨restIds, restMember⟩ := ih restFound
      have sameId : t.id = id := by simpa using List.find?_some tFound
      simp only [List.map_cons, sameId, restIds, List.mem_cons, forall_eq_or_imp, true_and]
      exact ⟨List.mem_of_find?_eq_some tFound, restMember⟩

/-- Ids that are as many as the records of a chain, and different, name all of them. -/
theorem perm_of_withIds? (found : withIds? live ids = some ordered) (distinct : ids.Nodup)
    (complete : ids.length = live.length) : ordered.Perm live := by
  obtain ⟨sameIds, members⟩ := withIds?_eq_some found
  have distinctOrdered : ordered.Nodup := by
    rw [← sameIds] at distinct
    exact distinct.of_map
  have sameLength : live.length = ordered.length := by
    rw [← complete, ← sameIds, List.length_map]
  exact (List.subperm_of_subset distinctOrdered members).perm_of_length_le
    (Nat.le_of_eq sameLength)

/-- Putting a chain in order leaves the store as it is, or numbers all of the chain. -/
theorem snd_reorder_cases (store : Store) (dataset column : String) (ids : List String)
    (now : Instant) :
    (store.reorder dataset column ids now).2 = store ∨
      ∃ ordered, ordered.Perm (store.chain dataset column) ∧
        (store.reorder dataset column ids now).2 = store.withOrder now ordered := by
  simp only [reorder]
  split
  next ordered found =>
    split
    next lawful =>
      have complete := perm_of_withIds? found lawful.1 lawful.2
      refine Or.inr ⟨ordered, complete, ?_⟩
      split <;> rfl
    next => exact Or.inl rfl
  next => exact Or.inl rfl

theorem effect_reorder (dataset column : String) (ids : List String) (now : Instant) :
    Effect store (store.reorder dataset column ids now).2 := by
  rcases store.snd_reorder_cases dataset column ids now with same | ⟨ordered, complete, equal⟩
  · rw [same]
    exact .unchanged
  · rw [equal]
    exact .reordered dataset column now ordered complete

end Reorder

/-- What a call does is one of the effects. -/
theorem effect_perform (store : Store) (call : Operation) :
    Effect store (call.perform store) := by
  cases call with
  | create proposal id now => exact effect_create proposal id now
  | reorder dataset column ids now => exact effect_reorder dataset column ids now
  | update id change now => exact effect_update id change now
  | delete id mode now => exact effect_delete id mode now
  | cleanup dataset => exact effect_cleanup dataset

end Store
end ColumnChain
