import ColumnChain.Proofs.Views

/-!
# Calls on different columns

A call concerns one column of one dataset. What it answers and what it makes of the records
of this column depend on these records alone, and it leaves the records of every other
column as they are. So two calls that concern different columns answer the same, and leave
the same views, in whichever order they are made. They need not leave the same store: new
records are kept in the order in which they came in.
-/

namespace ColumnChain

/-- The dataset and the column that a transformation is for. -/
def Transformation.site (t : Transformation) : String × String :=
  (t.dataset, t.column)

theorem Transformation.Revises.site {later earlier : Transformation}
    (revises : later.Revises earlier) : later.site = earlier.site :=
  Prod.ext revises.dataset revises.column

namespace Store

/-! ## What a call concerns and what it answers -/

/-- What a call answers that does not end in a fault. -/
inductive Answer where
  | record (t : Transformation)
  | chain (ordered : List Transformation)
  | count (removed : Nat)
  deriving DecidableEq

namespace Operation

/-- The answer of a call, or the fault in which it ends. -/
def answer (store : Store) : Operation → Except Fault Answer
  | create proposal id now => (store.create proposal id now).1.map .record
  | reorder dataset column ids now => (store.reorder dataset column ids now).1.map .chain
  | update id change now => (store.update id change now).1.map .record
  | delete id mode now => (store.delete id mode now).1.map .record
  | cleanup dataset => .ok (.count (store.cleanup dataset).1)

/-- The dataset and the column that a call concerns: those of the record, where one is
changed or deleted. A cleanup concerns all columns of its dataset, and a call for a record
that is not there none. -/
def site? (store : Store) : Operation → Option (String × String)
  | create proposal _ _ => some (proposal.dataset, proposal.column)
  | reorder dataset column _ _ => some (dataset, column)
  | update id _ _ | delete id _ _ => (store.find? id).map Transformation.site
  | cleanup _ => none

/-- The id that a call has for a new record. -/
def newId? : Operation → Option String
  | create _ id _ => some id
  | reorder .. | update .. | delete .. | cleanup _ => none

end Operation

/-! ## Stores that agree on a column -/

/-- Two stores have the same records of a column. -/
def AgreeOn (site : String × String) (left right : Store) : Prop :=
  ∀ t : Transformation, t.site = site → (t ∈ left.entries ↔ t ∈ right.entries)

namespace AgreeOn

variable {site : String × String} {first second third left right : Store}

theorem refl (site : String × String) (store : Store) : AgreeOn site store store :=
  fun _ _ => Iff.rfl

theorem symm (agree : AgreeOn site left right) : AgreeOn site right left :=
  fun t here => (agree t here).symm

theorem trans (agree : AgreeOn site first second) (next : AgreeOn site second third) :
    AgreeOn site first third :=
  fun t here => (agree t here).trans (next t here)

/-- A chain depends on the records of its column. -/
theorem chain {dataset column : String} (agree : AgreeOn (dataset, column) left right) :
    left.chain dataset column = right.chain dataset column :=
  chain_congr fun t inDataset inColumn => agree t (Prod.ext inDataset inColumn)

/-- A record of the column is found in both stores. -/
theorem find? {id : String} {t : Transformation} (agree : AgreeOn site left right)
    (found : left.find? id = some t) (here : t.site = site) : right.find? id = some t := by
  rw [Keyed.find?_eq_some_iff] at found ⊢
  exact ⟨(agree t here).1 found.1, found.2⟩

theorem put (agree : AgreeOn site left right) (t : Transformation) :
    AgreeOn site (Keyed.put left t) (Keyed.put right t) := by
  intro other here
  rw [Keyed.mem_put, Keyed.mem_put, agree other here]

theorem erase (agree : AgreeOn site left right) (id : String) :
    AgreeOn site (Keyed.erase left id) (Keyed.erase right id) := by
  intro other here
  rw [Keyed.mem_erase, Keyed.mem_erase, agree other here]

theorem foldl_put (agree : AgreeOn site left right) (records : List Transformation) :
    AgreeOn site (records.foldl Keyed.put left) (records.foldl Keyed.put right) := by
  induction records generalizing left right with
  | nil => exact agree
  | cons t records ih => exact ih (agree.put t)

end AgreeOn

/-! ## A call and the other columns -/

section Confinement

variable {store : Store} {site : String × String} {newId? : Option String}

/-- Between two stores only records of one column change, and at most one id is new. -/
structure Confined (site : String × String) (newId? : Option String) (before after : Store) :
    Prop where
  elsewhere : ∀ other, other ≠ site → AgreeOn other before after
  ids : ∀ t ∈ after.entries, t.id ∈ before.keys ∨ t.id ∈ newId?

theorem confined_refl (site : String × String) (newId? : Option String) (store : Store) :
    Confined site newId? store store where
  elsewhere other _ := .refl other store
  ids _ stored := Or.inl (List.mem_map_of_mem stored)

/-- Putting a record concerns its column alone, if a record in whose place it comes is of
the same column. -/
theorem confined_put {t : Transformation} (here : t.site = site)
    (replaced : ∀ old ∈ store.entries, old.id = t.id → old.site = site)
    (known : t.id ∈ store.keys ∨ t.id ∈ newId?) :
    Confined site newId? store (store.put t) where
  elsewhere other different := by
    intro record there
    rw [Keyed.mem_put]
    constructor
    · intro stored
      exact Or.inr ⟨stored, fun same =>
        different (there.symm.trans (replaced record stored same))⟩
    · rintro (rfl | ⟨stored, -⟩)
      · exact absurd (there.symm.trans here) different
      · exact stored
  ids record member := by
    rcases Keyed.mem_put.1 member with rfl | ⟨stored, -⟩
    · exact known
    · exact Or.inl (List.mem_map_of_mem stored)

/-- A later form of a record takes its place. -/
theorem confined_put_revision {t earlier : Transformation} (stored : earlier ∈ store.entries)
    (revises : t.Revises earlier) : Confined earlier.site newId? store (store.put t) := by
  refine confined_put revises.site (fun old oldStored same => ?_) (Or.inl ?_)
  · rw [store.eq_of_key_eq oldStored stored (same.trans revises.id)]
  · rw [revises.id]
    exact List.mem_map_of_mem stored

theorem confined_erase {t : Transformation} (stored : t ∈ store.entries) :
    Confined t.site newId? store (store.erase t.id) where
  elsewhere other different := by
    intro record there
    rw [Keyed.mem_erase, iff_self_and]
    intro recordStored same
    rw [store.eq_of_key_eq recordStored stored same] at there
    exact different there.symm
  ids record member := Or.inl (List.mem_map_of_mem (Keyed.mem_erase.1 member).1)

/-- Putting a chain in order concerns its column alone. -/
theorem confined_withOrder {dataset column : String} {now : Instant}
    {ordered : List Transformation} (complete : ordered.Perm (store.chain dataset column)) :
    Confined (dataset, column) newId? store (store.withOrder now ordered) := by
  -- A record that is renumbered is a later form of one of the chain.
  have origin {t : Transformation} (member : t ∈ renumbered now ordered) :
      ∃ earlier ∈ store.entries, t.Revises earlier ∧ earlier.site = (dataset, column) := by
    obtain ⟨index, earlier, -, there, rfl⟩ :=
      exists_of_mem_numbered (List.mem_of_mem_take member)
    obtain ⟨stored, inDataset, inColumn, -⟩ :=
      mem_chain.1 (complete.subset (List.mem_of_getElem? there))
    exact ⟨earlier, stored, renumber_revises _ now earlier, Prod.ext inDataset inColumn⟩
  constructor
  · intro other different t there
    rw [mem_withOrder complete]
    constructor
    · intro stored
      refine Or.inr ⟨stored, fun member => ?_⟩
      obtain ⟨later, laterMember, same⟩ := List.mem_map.1 member
      obtain ⟨earlier, earlierStored, revises, here⟩ := origin laterMember
      have equal : t = earlier :=
        store.eq_of_key_eq stored earlierStored (same.symm.trans revises.id)
      rw [equal] at there
      exact different (there.symm.trans here)
    · rintro (member | ⟨stored, -⟩)
      · obtain ⟨earlier, -, revises, here⟩ := origin member
        exact absurd (there.symm.trans (revises.site.trans here)) different
      · exact stored
  · intro t member
    rcases (mem_withOrder complete).1 member with moved | ⟨stored, -⟩
    · obtain ⟨earlier, stored, revises, -⟩ := origin moved
      rw [revises.id]
      exact Or.inl (List.mem_map_of_mem stored)
    · exact Or.inl (List.mem_map_of_mem stored)

/-- A call changes only records of the column that it concerns, and adds no id but that of
its new record. -/
theorem confined_perform {call : Operation} (concerns : call.site? store = some site)
    (fresh : ∀ id ∈ call.newId?, id ∉ store.keys) :
    Confined site call.newId? store (call.perform store) := by
  cases call with
  | create proposal id now =>
      cases concerns
      refine snd_checked (confined_refl _ _ store) fun t accepted => ?_
      obtain ⟨-, sequence, -, rfl, -⟩ := admitted_eq_ok.1 accepted
      refine confined_put rfl (fun old stored same => ?_) (Or.inr rfl)
      have present : old.id ∈ store.keys := List.mem_map_of_mem stored
      exact absurd present (same ▸ fresh id rfl)
  | reorder dataset column ids now =>
      cases concerns
      rw [Operation.perform]
      rcases store.snd_reorder_cases dataset column ids now with same | ⟨ordered, complete, equal⟩
      · rw [same]
        exact confined_refl _ _ store
      · rw [equal]
        exact confined_withOrder complete
  | update id change now =>
      refine snd_checked (confined_refl _ _ store) fun t required => ?_
      obtain ⟨stored, rfl⟩ := require_eq_ok.1 required
      rw [Operation.site?, Keyed.find?_eq_some_iff.2 ⟨stored, rfl⟩] at concerns
      cases concerns
      split
      next => exact confined_refl _ _ store
      next =>
        refine snd_checked (confined_refl _ _ store) fun result accepted => ?_
        obtain ⟨sequence, -, rfl⟩ := changed_eq_ok.1 accepted
        exact confined_put_revision stored rfl
  | delete id mode now =>
      refine snd_checked (confined_refl _ _ store) fun t required => ?_
      obtain ⟨stored, rfl⟩ := require_eq_ok.1 required
      rw [Operation.site?, Keyed.find?_eq_some_iff.2 ⟨stored, rfl⟩] at concerns
      cases concerns
      cases mode with
      | soft => exact confined_put_revision stored rfl
      | hard => exact confined_erase stored
  | cleanup dataset => cases concerns

end Confinement

/-! ## A call and its own column -/

section Congruence

variable {left right : Store} {site : String × String}

/-- Two operations end in the same way, with stores that agree on a column. -/
structure Outcome.AgreeOn {α : Type} (site : String × String) (left right : Outcome α) :
    Prop where
  result : left.1 = right.1
  stores : Store.AgreeOn site left.2 right.2

theorem AgreeOn.checked {α β : Type} (agree : AgreeOn site left right)
    {leftCheck rightCheck : Except Fault α} {leftAct rightAct : α → Outcome β}
    (same : leftCheck = rightCheck)
    (acts : ∀ value, leftCheck = .ok value →
      Outcome.AgreeOn site (leftAct value) (rightAct value)) :
    Outcome.AgreeOn site (left.checked leftCheck leftAct) (right.checked rightCheck rightAct) := by
  subst same
  cases leftCheck with
  | error fault => exact ⟨rfl, agree⟩
  | ok value => exact acts value rfl

theorem AgreeOn.put_ok (agree : AgreeOn site left right) (t : Transformation) :
    Outcome.AgreeOn site (.ok t, Keyed.put left t) (.ok t, Keyed.put right t) :=
  ⟨rfl, agree.put t⟩

theorem agreeOn_create (proposal : Proposal) (id : String) (now : Instant)
    (agree : AgreeOn (proposal.dataset, proposal.column) left right) :
    Outcome.AgreeOn (proposal.dataset, proposal.column) (left.create proposal id now)
      (right.create proposal id now) := by
  simp only [create, agree.chain]
  exact agree.checked rfl fun _ _ => agree.put_ok _

theorem agreeOn_reorder {dataset column : String} (ids : List String) (now : Instant)
    (agree : AgreeOn (dataset, column) left right) :
    Outcome.AgreeOn (dataset, column) (left.reorder dataset column ids now)
      (right.reorder dataset column ids now) := by
  simp only [reorder, agree.chain]
  split
  next ordered found =>
    split
    next =>
      split
      next => exact ⟨rfl, agree.foldl_put _⟩
      next => exact ⟨rfl, agree.foldl_put _⟩
    next => exact ⟨rfl, agree⟩
  next => exact ⟨rfl, agree⟩

/-- A record of the column is the one with its id in both stores. -/
theorem AgreeOn.require {id : String} {t : Transformation} (agree : AgreeOn site left right)
    (found : left.find? id = some t) (here : t.site = site) :
    left.require id = right.require id := by
  simp only [Store.require, found, agree.find? found here]

theorem agreeOn_update {id : String} {t : Transformation} (change : Change) (now : Instant)
    (found : left.find? id = some t) (agree : AgreeOn t.site left right) :
    Outcome.AgreeOn t.site (left.update id change now) (right.update id change now) := by
  refine agree.checked (agree.require found rfl) fun record required => ?_
  obtain rfl : record = t := by
    have same := Keyed.find?_eq_some_iff.2 (require_eq_ok.1 required)
    exact Option.some.inj (same.symm.trans found)
  split
  next => exact ⟨rfl, agree⟩
  next =>
    have live : left.chain record.dataset record.column =
        right.chain record.dataset record.column := agree.chain
    exact agree.checked (by rw [live]) fun _ _ => agree.put_ok _

theorem agreeOn_delete {id : String} {t : Transformation} (mode : Deletion) (now : Instant)
    (found : left.find? id = some t) (agree : AgreeOn t.site left right) :
    Outcome.AgreeOn t.site (left.delete id mode now) (right.delete id mode now) := by
  refine agree.checked (agree.require found rfl) fun record _ => ?_
  cases mode with
  | soft => exact agree.put_ok _
  | hard => exact ⟨rfl, agree.erase id⟩

/-- What a call answers, and what it makes of the records of its column, depends on these
records alone. -/
theorem answer_eq_and_agreeOn_perform {call : Operation} (concerns : call.site? left = some site)
    (agree : AgreeOn site left right) :
    call.answer left = call.answer right ∧
      AgreeOn site (call.perform left) (call.perform right) := by
  cases call with
  | create proposal id now =>
      cases concerns
      have same := agreeOn_create proposal id now agree
      exact ⟨congrArg (Except.map Answer.record) same.result, same.stores⟩
  | reorder dataset column ids now =>
      cases concerns
      have same := agreeOn_reorder ids now agree
      exact ⟨congrArg (Except.map Answer.chain) same.result, same.stores⟩
  | update id change now =>
      obtain ⟨t, found, rfl⟩ := Option.map_eq_some_iff.1 concerns
      have same := agreeOn_update change now found agree
      exact ⟨congrArg (Except.map Answer.record) same.result, same.stores⟩
  | delete id mode now =>
      obtain ⟨t, found, rfl⟩ := Option.map_eq_some_iff.1 concerns
      have same := agreeOn_delete mode now found agree
      exact ⟨congrArg (Except.map Answer.record) same.result, same.stores⟩
  | cleanup dataset => cases concerns

/-- A call concerns the same column in every store that agrees on it. -/
theorem site?_eq_some_of_agreeOn {call : Operation} (concerns : call.site? left = some site)
    (agree : AgreeOn site left right) : call.site? right = some site := by
  cases call with
  | create | reorder | cleanup => exact concerns
  | update id | delete id =>
      obtain ⟨t, found, here⟩ := Option.map_eq_some_iff.1 concerns
      exact Option.map_eq_some_iff.2 ⟨t, agree.find? found here, here⟩

end Congruence

/-! ## Two calls in either order -/

section EitherOrder

variable {store : Store} {first second : Operation} {site other : String × String}

/-- The id of a new record is still new after a call that has another one. -/
theorem fresh_after (confined : Confined site first.newId? store (first.perform store))
    (fresh : ∀ id ∈ second.newId?, id ∉ store.keys)
    (apart : ∀ id ∈ first.newId?, id ∉ second.newId?) :
    ∀ id ∈ second.newId?, id ∉ (first.perform store).keys := by
  intro id isNew present
  obtain ⟨t, stored, rfl⟩ := List.mem_map.1 present
  rcases confined.ids t stored with known | added
  · exact fresh t.id isNew known
  · exact apart t.id added isNew

/-- Calls that concern different columns answer the same in either order, and the views of
the stores that they leave are the same. -/
theorem views_of_either_order (concernsSite : first.site? store = some site)
    (concernsOther : second.site? store = some other) (different : site ≠ other)
    (freshFirst : ∀ id ∈ first.newId?, id ∉ store.keys)
    (freshSecond : ∀ id ∈ second.newId?, id ∉ store.keys)
    (apart : ∀ id ∈ first.newId?, id ∉ second.newId?) :
    first.answer (second.perform store) = first.answer store ∧
      second.answer (first.perform store) = second.answer store ∧
      ∀ dataset column,
        (second.perform (first.perform store)).list dataset =
            (first.perform (second.perform store)).list dataset ∧
          (second.perform (first.perform store)).chain dataset column =
            (first.perform (second.perform store)).chain dataset column ∧
          (second.perform (first.perform store)).pipeline dataset column =
            (first.perform (second.perform store)).pipeline dataset column := by
  have afterFirst := confined_perform concernsSite freshFirst
  have afterSecond := confined_perform concernsOther freshSecond
  -- Each call finds its own column as it was, whether the other one was made or not.
  have siteKept := afterSecond.elsewhere site different
  have otherKept := afterFirst.elsewhere other different.symm
  obtain ⟨firstAnswer, atSite⟩ := answer_eq_and_agreeOn_perform concernsSite siteKept
  obtain ⟨secondAnswer, atOther⟩ := answer_eq_and_agreeOn_perform concernsOther otherKept
  have secondLater := confined_perform (site?_eq_some_of_agreeOn concernsOther otherKept)
    (fresh_after afterFirst freshSecond apart)
  have firstLater := confined_perform (site?_eq_some_of_agreeOn concernsSite siteKept)
    (fresh_after afterSecond freshFirst fun id added isNew => apart id isNew added)
  have agree : ∀ place : String × String, AgreeOn place
      (second.perform (first.perform store)) (first.perform (second.perform store)) := by
    intro place
    by_cases isSite : place = site
    · subst isSite
      exact (secondLater.elsewhere place different).symm.trans atSite
    · have firstLast := firstLater.elsewhere place isSite
      by_cases isOther : place = other
      · subst isOther
        exact atOther.symm.trans firstLast
      · have secondKept := (secondLater.elsewhere place isOther).symm
        have firstKept := (afterFirst.elsewhere place isSite).symm
        exact ((secondKept.trans firstKept).trans (afterSecond.elsewhere place isOther)).trans
          firstLast
  refine ⟨firstAnswer.symm, secondAnswer.symm, fun dataset column => ?_⟩
  have sameChain := (agree (dataset, column)).chain
  exact ⟨list_congr fun t _ => agree t.site t rfl, sameChain, pipeline_congr sameChain⟩

/-- A proposal for another column than that of the sample store. -/
def otherProposal : Proposal :=
  { sampleProposal with column := "short" }

theorem views_of_either_order_creations :
    let first := Operation.create sampleProposal "e" default
    let second := Operation.create otherProposal "f" default
    first.answer (second.perform sampleStore) = first.answer sampleStore ∧
      second.answer (first.perform sampleStore) = second.answer sampleStore ∧
      ∀ dataset column,
        (second.perform (first.perform sampleStore)).list dataset =
            (first.perform (second.perform sampleStore)).list dataset ∧
          (second.perform (first.perform sampleStore)).chain dataset column =
            (first.perform (second.perform sampleStore)).chain dataset column ∧
          (second.perform (first.perform sampleStore)).pipeline dataset column =
            (first.perform (second.perform sampleStore)).pipeline dataset column :=
  views_of_either_order rfl rfl (by decide) (by decide) (by decide) (by decide)

end EitherOrder

end Store
end ColumnChain
