import ColumnChain.Proofs.Acceptance
import ColumnChain.Proofs.Commitment

/-!
# Numbers that are not given

A record that is created, or that becomes live without a number, gets the one after the largest
live number of its column. That number is positive and larger than all others of the column,
and there is one exactly where none of the others is the last number there is. After the last
number a call that is not refused breaks off, and leaves the store as it is.

How near a chain is to the last number is a matter of all calls that led to it. Every call can
take it one further, and a change as far as the number that it asks for.
-/

namespace ColumnChain.Store

/-! ## Runs, and the numbers that they give -/

/-- Calls that are accepted, one after the other, lead from one store to another. -/
inductive Leads : Store → List Operation → Store → Prop
  | nil (store : Store) : Leads store [] store
  | cons {store later : Store} {call : Operation} {calls : List Operation}
      (accepted : call.fault? store = none) (rest : Leads (call.perform store) calls later) :
      Leads store (call :: calls) later

/-- How a call ends by which a record is to get a number that nobody gives, and the live records
beside it: the record is created, or it is not live and becomes so by a change without a
number. -/
inductive WantsNumber (store : Store) : Outcome Transformation → List Transformation → Prop
  | creation (proposal : Proposal) (id : String) (now : Instant) :
      WantsNumber store (store.create proposal id now)
        (store.chain proposal.dataset proposal.column)
  | activation {t : Transformation} {change : Change} (stored : t ∈ store.entries)
      (awake : awakes t change = true) (unnumbered : change.sequence = none) (now : Instant) :
      WantsNumber store (store.update t.id change now)
        ((store.chain t.dataset t.column).filter fun other => other.id != t.id)

namespace Outcome

/-- A call is refused: it ends in an error that is reported, and does not break off. -/
def IsRefused {α : Type} (outcome : Outcome α) : Prop :=
  ∃ fault, outcome.1 = .error fault ∧ fault ≠ .numbersExhausted

/-- A call answers with a record that it keeps, whose number is positive and larger than those
of the records beside it. -/
structure IsNumbered (outcome : Outcome Transformation) (beside : List Transformation)
    (t : Transformation) : Prop where
  answered : outcome.1 = .ok t
  kept : t ∈ outcome.2.entries
  positive : 0 < t.sequence
  largest : ∀ other ∈ beside, other.sequence < t.sequence

end Outcome

/-- The number that a call asks for, and zero where it asks for none. -/
def Operation.asked : Operation → Nat
  | update _ change _ => (change.sequence.map UInt32.toNat).getD 0
  | create .. | reorder .. | delete .. | cleanup _ => 0

variable {store : Store} {t : Transformation}

/-! ## How a call ends that wants a number -/

/-- A call that wants a number is refused, breaks off after the last number, or keeps a record
with the next number. -/
inductive Ends (store : Store) (beside : List Transformation) : Outcome Transformation → Prop
  | refused {fault : Fault} (reported : fault ≠ .numbersExhausted) :
      Ends store beside (.error fault, store)
  | exhausted (last : ∃ other ∈ beside, other.sequence = lastSequence) :
      Ends store beside (.error .numbersExhausted, store)
  | numbered {t : Transformation} (follows : nextSequence beside = .ok t.sequence) :
      Ends store beside (.ok t, store.put t)

theorem ensureUnique_ne_exhausted {live : List Transformation} :
    ensureUnique t live ≠ .error .numbersExhausted := by
  intro broke
  simp only [ensureUnique] at broke
  split at broke
  next => cases broke
  next => split at broke <;> cases broke

theorem ensureFree_ne_exhausted {others : List Transformation} :
    ensureFree t others ≠ .error .numbersExhausted := by
  intro broke
  simp only [ensureFree] at broke
  split at broke <;> cases broke

/-- A proposal breaks off only after the last number. -/
theorem exists_last_of_admitted {proposal : Proposal} {id : String} {now : Instant}
    {live : List Transformation}
    (broke : admitted proposal id now live = .error .numbersExhausted) :
    ∃ t ∈ live, t.sequence = lastSequence := by
  rw [admitted, throw_eq_error, bind_eq_error] at broke
  simp only [check_eq_error] at broke
  rcases broke with ⟨-, ⟨⟩⟩ | ⟨-, exhausted | ⟨sequence, -, ⟨-, clashes⟩ | ⟨-, ⟨⟩⟩⟩⟩
  · exact (nextSequence_eq_error.1 exhausted).2
  · exact absurd clashes ensureUnique_ne_exhausted

theorem exists_last_of_requestedSequence {change : Change} {others : List Transformation}
    (broke : requestedSequence t change others = .error .numbersExhausted) :
    ∃ other ∈ others, other.sequence = lastSequence := by
  rw [requestedSequence] at broke
  split at broke
  next => cases broke
  next =>
    split at broke
    next => exact (nextSequence_eq_error.1 broke).2
    next => cases broke

/-- A change breaks off only after the last number. -/
theorem exists_last_of_changed {change : Change} {others : List Transformation}
    (broke : changed t change others = .error .numbersExhausted) :
    ∃ other ∈ others, other.sequence = lastSequence := by
  rw [changed, throw_eq_error, check_eq_error, bind_eq_error] at broke
  simp only [check_eq_error] at broke
  rcases broke with
    ⟨-, ⟨⟩⟩ | ⟨-, ⟨-, clashes⟩ | ⟨-, exhausted | ⟨sequence, -, ⟨-, taken⟩ | ⟨-, ⟨⟩⟩⟩⟩⟩
  · exact absurd clashes ensureUnique_ne_exhausted
  · exact exists_last_of_requestedSequence exhausted
  · exact absurd taken ensureFree_ne_exhausted

/-- How a call ends whose checks end in a fault. -/
theorem Ends.of_fault {beside : List Transformation} {fault : Fault}
    (last : fault = .numbersExhausted → ∃ other ∈ beside, other.sequence = lastSequence) :
    Ends store beside (.error fault, store) := by
  by_cases broke : fault = .numbersExhausted
  · subst broke
    exact .exhausted (last rfl)
  · exact .refused broke

theorem isEmpty_of_awakes {change : Change} (awake : awakes t change = true) :
    change.isEmpty = false := by
  cases given : change.status with
  | none => simp [awakes, given, Transformation.isLive] at awake
  | some status => simp [Change.isEmpty, given]

theorem WantsNumber.mem_chain {outcome : Outcome Transformation} {beside : List Transformation}
    (wants : store.WantsNumber outcome beside) :
    ∃ dataset column, ∀ other ∈ beside, other ∈ store.chain dataset column := by
  cases wants with
  | creation => exact ⟨_, _, fun _ member => member⟩
  | activation => exact ⟨_, _, fun _ member => (List.mem_filter.1 member).1⟩

theorem WantsNumber.ends {outcome : Outcome Transformation} {beside : List Transformation}
    (wants : store.WantsNumber outcome beside) : Ends store beside outcome := by
  cases wants with
  | creation proposal id now =>
      cases made : admitted proposal id now (store.chain proposal.dataset proposal.column) with
      | ok t =>
          obtain ⟨-, sequence, follows, rfl, -⟩ := admitted_eq_ok.1 made
          rw [create_of_admitted made]
          exact .numbered follows
      | error fault =>
          rw [create_of_error made]
          exact .of_fault fun broke => exists_last_of_admitted (broke ▸ made)
  | @activation t change stored awake unnumbered now =>
      have found : store.require t.id = .ok t := require_eq_ok.2 ⟨stored, rfl⟩
      have notEmpty : change.isEmpty = false := isEmpty_of_awakes awake
      simp only [update, found, checked, notEmpty, Bool.false_eq_true, if_false]
      cases made : changed t change
        ((store.chain t.dataset t.column).filter fun other => other.id != t.id) with
      | ok result =>
          obtain ⟨sequence, lawful, rfl⟩ := changed_eq_ok.1 made
          have follows := lawful.number
          rw [requestedSequence_of_none unnumbered, if_pos awake] at follows
          exact .numbered follows
      | error fault => exact .of_fault fun broke => exists_last_of_changed (broke ▸ made)

/-- A call that wants a number and is not refused keeps a record with one exactly where no
record beside it has the last number, and breaks off where one has. -/
theorem WantsNumber.isNumbered_iff {outcome : Outcome Transformation}
    {beside : List Transformation} (wants : store.WantsNumber outcome beside)
    (admitted : ¬ outcome.IsRefused) :
    ((∃ t, outcome.IsNumbered beside t) ↔ ∀ other ∈ beside, other.sequence ≠ lastSequence) ∧
      ((∃ other ∈ beside, other.sequence = lastSequence) →
        outcome = (.error .numbersExhausted, store)) := by
  cases wants.ends with
  | refused reported => exact absurd ⟨_, rfl, reported⟩ admitted
  | exhausted last =>
      obtain ⟨other, member, isLast⟩ := last
      refine ⟨⟨?_, fun bounded => absurd isLast (bounded other member)⟩, fun _ => rfl⟩
      rintro ⟨t, numbered⟩
      cases numbered.answered
  | @numbered t follows =>
      have bounded : ∀ other ∈ beside, other.sequence ≠ lastSequence := by
        intro other member last
        rw [nextSequence_eq_error.2 ⟨rfl, other, member, last⟩] at follows
        cases follows
      refine ⟨⟨fun _ => bounded, fun _ => ⟨t, ?_⟩⟩, ?_⟩
      · exact {
          answered := rfl
          kept := Keyed.mem_put.2 (Or.inl rfl)
          positive := pos_of_nextSequence follows
          largest := fun other member => sequence_lt_of_nextSequence follows member }
      · rintro ⟨other, member, last⟩
        exact absurd last (bounded other member)

/-! ## How far calls can take numbers -/

/-- A store has at most so many records, and live numbers that go beyond a limit by no more
than that. -/
structure IsWithin (store : Store) (limit count : Nat) : Prop where
  size : store.size ≤ count
  numbers : ∀ t ∈ store.entries, t.isLive = true → t.sequence.toNat ≤ limit + count

namespace IsWithin

variable {later : Store} {limit count : Nat}

theorem empty (limit : Nat) : IsWithin Keyed.empty limit 0 where
  size := Nat.le_refl 0
  numbers _ member := nomatch member

theorem of_subset (within : store.IsWithin limit count)
    (kept : ∀ t ∈ later.entries, t ∈ store.entries) : later.IsWithin limit (count + 1) where
  size := (Keyed.size_le_of_subset kept).trans (Nat.le_succ_of_le within.size)
  numbers t member live := Nat.le_succ_of_le (within.numbers t (kept t member) live)

theorem succ (within : store.IsWithin limit count) : store.IsWithin limit (count + 1) :=
  within.of_subset fun _ member => member

theorem put (within : store.IsWithin limit count)
    (number : t.isLive = true → t.sequence.toNat ≤ limit + count + 1) :
    IsWithin (store.put t) limit (count + 1) where
  size := (Keyed.size_put_le store t).trans (Nat.add_le_add_right within.size 1)
  numbers other member live := by
    rcases Keyed.mem_put.1 member with rfl | ⟨stored, -⟩
    · exact number live
    · exact Nat.le_succ_of_le (within.numbers other stored live)

theorem chain (within : store.IsWithin limit count) (dataset column : String) :
    ∀ t ∈ store.chain dataset column, t.sequence.toNat ≤ limit + count := by
  intro t member
  obtain ⟨stored, -, -, live⟩ := mem_chain.1 member
  exact within.numbers t stored live

theorem checked {α β : Type} {check : Except Fault α} {act : α → Outcome β}
    (within : store.IsWithin limit count)
    (acts : ∀ value, check = .ok value → (act value).2.IsWithin limit (count + 1)) :
    (store.checked check act).2.IsWithin limit (count + 1) :=
  snd_checked (motive := fun later => later.IsWithin limit (count + 1)) within.succ acts

/-- The records of a chain get numbers up to how many they are, however large theirs were. -/
theorem withOrder (within : store.IsWithin limit count) {dataset column : String}
    {ordered : List Transformation} (complete : ordered.Perm (store.chain dataset column))
    (now : Instant) : (store.withOrder now ordered).IsWithin limit (count + 1) where
  size := by
    rw [← Keyed.length_keys, keys_withOrder complete, Keyed.length_keys]
    exact Nat.le_succ_of_le within.size
  numbers t member live := by
    rcases (mem_withOrder complete).1 member with moved | ⟨stored, -⟩
    · obtain ⟨index, earlier, -, there, rfl⟩ :=
        exists_of_mem_numbered (List.mem_of_mem_take moved)
      have inside : index < ordered.length := (List.getElem?_eq_some_iff.1 there).1
      have enough : ordered.length ≤ store.size := by
        rw [complete.length_eq]
        exact (List.subperm_of_subset (store.distinct_chain dataset column).of_map
          fun t member => (mem_chain.1 member).1).length_le
      have fits := within.size
      rw [renumber_sequence, UInt32.toNat_ofNat']
      exact (Nat.mod_le _ _).trans (by omega)
    · exact Nat.le_succ_of_le (within.numbers t stored live)

/-- The next number of a chain goes beyond the limit by one more. -/
theorem next (within : store.IsWithin limit count) {dataset column : String}
    {live : List Transformation} (beside : ∀ other ∈ live, other ∈ store.chain dataset column)
    {sequence : UInt32} (follows : nextSequence live = .ok sequence) :
    sequence.toNat ≤ limit + count + 1 := by
  rw [nextSequence_eq_ok.1 follows]
  apply Nat.succ_le_succ
  rcases largestSequence_eq_zero_or_mem live with zero | ⟨other, member, same⟩
  · rw [zero]
    exact Nat.zero_le _
  · rw [← same]
    exact within.chain _ _ other (beside other member)

/-- A record that is live after a change has the number that was asked for, the next one, or its
own. -/
theorem requested (within : store.IsWithin limit count) (stored : t ∈ store.entries)
    {change : Change} (asked : ∀ sequence ∈ change.sequence, sequence.toNat ≤ limit)
    {others : List Transformation}
    (beside : ∀ other ∈ others, other ∈ store.chain t.dataset t.column) {sequence : UInt32}
    (lawful : Lawful t change others sequence)
    (live : (Store.requested t change sequence).isLive = true) :
    sequence.toNat ≤ limit + count + 1 := by
  cases given : change.sequence with
  | some number =>
      have small := asked number given
      rw [lawful.sequence_eq given]
      omega
  | none =>
      have number := lawful.number
      rw [requestedSequence_of_none given] at number
      split at number
      next => exact within.next beside number
      next sleepless =>
        have awake : t.isLive = true := by
          by_contra asleep
          exact sleepless ((awakes_eq_true sequence).2 ⟨live, Bool.eq_false_iff.2 asleep⟩)
        rw [← Except.ok.inj number]
        exact Nat.le_succ_of_le (within.numbers t stored awake)

/-- A call takes live numbers beyond what it asks for by one at most. -/
theorem perform (within : store.IsWithin limit count) {call : Operation}
    (asked : call.asked ≤ limit) : (call.perform store).IsWithin limit (count + 1) := by
  cases call with
  | create proposal id now =>
      refine within.checked fun t accepted => within.put fun _ => ?_
      obtain ⟨-, sequence, follows, rfl, -⟩ := admitted_eq_ok.1 accepted
      exact within.next (fun _ member => member) follows
  | reorder dataset column ids now =>
      rw [Operation.perform]
      rcases store.snd_reorder_cases dataset column ids now with same | ⟨ordered, complete, equal⟩
      · rw [same]
        exact within.succ
      · rw [equal]
        exact within.withOrder complete now
  | update id change now =>
      refine within.checked fun t found => ?_
      split
      next => exact within.succ
      next =>
        refine within.checked fun result accepted => within.put fun live => ?_
        obtain ⟨sequence, lawful, rfl⟩ := changed_eq_ok.1 accepted
        refine within.requested (require_eq_ok.1 found).1 ?_
          (fun other member => (List.mem_filter.1 member).1) lawful live
        intro sequence given
        rw [Operation.asked, given] at asked
        exact asked
  | delete id mode now =>
      refine within.checked fun t _ => ?_
      cases mode with
      | soft =>
          refine within.put fun live => ?_
          cases live
      | hard => exact within.of_subset fun other member => (Keyed.mem_erase.1 member).1
  | cleanup dataset =>
      exact within.of_subset fun other member => Keyed.mem_of_mem_foldl_erase member

/-- Along a run live numbers stay within the largest number that a call asks for and as many
more as there are calls. -/
theorem leads {calls : List Operation} (within : store.IsWithin limit count)
    (leads : Leads store calls later) (asked : ∀ call ∈ calls, call.asked ≤ limit) :
    later.IsWithin limit (count + calls.length) := by
  induction leads generalizing count with
  | nil => exact within
  | cons accepted rest ih =>
      rw [List.forall_mem_cons] at asked
      rw [List.length_cons, Nat.add_comm _ 1, ← Nat.add_assoc]
      exact ih (within.perform asked.1) asked.2

end IsWithin

/-! ## Numbers in range -/

/-- After accepted calls on the empty store, a call that wants a number and is not refused gets
one in range exactly where no other live record of the column has the last number. It breaks off
where one has. So it gets one where the largest number that a call asked for is farther from the
last one than there are calls. -/
theorem isNumbered_of_leads {calls : List Operation} (leads : Leads Keyed.empty calls store)
    {outcome : Outcome Transformation} {beside : List Transformation}
    (wants : store.WantsNumber outcome beside) (admitted : ¬ outcome.IsRefused) :
    ((∃ t, outcome.IsNumbered beside t) ↔ ∀ other ∈ beside, other.sequence ≠ lastSequence) ∧
      ((∃ other ∈ beside, other.sequence = lastSequence) →
        outcome = (.error .numbersExhausted, store)) ∧
      ∀ limit, (∀ call ∈ calls, call.asked ≤ limit) →
        limit + calls.length < lastSequence.toNat → ∃ t, outcome.IsNumbered beside t := by
  obtain ⟨numbered, exhausted⟩ := wants.isNumbered_iff admitted
  refine ⟨numbered, exhausted, fun limit asked room => numbered.2 fun other member last => ?_⟩
  have within := (IsWithin.empty limit).leads leads asked
  obtain ⟨dataset, column, inChain⟩ := wants.mem_chain
  have small := within.chain dataset column other (inChain other member)
  rw [last, Nat.zero_add] at small
  omega

/-! ## A chain of one record -/

/-- The store of one record. -/
def alone (t : Transformation) : Store where
  entries := [t]
  distinct := List.nodup_singleton _

theorem chain_alone (live : t.isLive = true) : (alone t).chain t.dataset t.column = [t] := by
  simp [Store.chain, ofDataset, alone, live]

/-- The only record of a chain gets any number that is asked for, but zero. -/
theorem update_alone (live : t.isLive = true) {sequence : UInt32} (positive : sequence ≠ 0)
    (now : Instant) :
    (alone t).update t.id { sequence := some sequence } now =
      (.ok { t with sequence, updated := some now },
        alone { t with sequence, updated := some now }) := by
  have found : (alone t).require t.id = .ok t :=
    require_eq_ok.2 ⟨List.mem_singleton.2 rfl, rfl⟩
  have others : ((alone t).chain t.dataset t.column).filter (fun other => other.id != t.id) =
      [] := by
    simp [chain_alone live]
  have made : changed t { sequence := some sequence } [] = .ok { t with sequence } :=
    changed_eq_ok.2 ⟨sequence, {
      positive := fun zero => positive (Option.some.inj zero)
      unique := fun _ _ member => nomatch member
      number := rfl
      free := fun _ _ _ member => nomatch member }, rfl⟩
  have replaced : (alone t).put { t with sequence, updated := some now } =
      alone { t with sequence, updated := some now } := by
    apply Keyed.ext
    exact if_pos rfl
  simp only [update, found, checked, others, made, replaced]
  rfl

/-! ### An example -/

/-- The proposal of the first record of the example. -/
def trimming : Proposal where
  dataset := "people"
  column := "name"
  expression := "TRIM(name)"

/-- Its record. -/
def trimmed (sequence : UInt32) : Transformation :=
  sampleRecord "a" "TRIM(name)" .active sequence

/-- Calls that create the record and ask for a number for it. -/
def raising (sequence : UInt32) : List Operation :=
  [.create trimming "a" default, .update "a" { sequence := some sequence } default]

/-- The store that these calls lead to. -/
def raised (sequence : UInt32) : Store :=
  alone { trimmed sequence with updated := some default }

theorem create_trimming :
    Store.create Keyed.empty trimming "a" default = (.ok (trimmed 1), alone (trimmed 1)) := by
  have none : Store.chain Keyed.empty trimming.dataset trimming.column = [] :=
    List.mergeSort_nil
  refine (create_of_admitted ?_).trans rfl
  rw [none]
  decide

theorem leads_raised {sequence : UInt32} (positive : sequence ≠ 0) :
    Leads Keyed.empty (raising sequence) (raised sequence) := by
  have created : Operation.perform Keyed.empty (.create trimming "a" default) =
      alone (trimmed 1) := congrArg Prod.snd create_trimming
  have updated : (alone (trimmed 1)).update "a" { sequence := some sequence } default =
      (.ok { trimmed sequence with updated := some default }, raised sequence) :=
    update_alone rfl positive default
  refine .cons ?_ (.cons ?_ ?_)
  · rw [Operation.fault?, create_trimming]
    rfl
  · rw [created, Operation.fault?, updated]
    rfl
  · rw [created, Operation.perform, updated]
    exact .nil _

theorem chain_raised (sequence : UInt32) :
    (raised sequence).chain sampleProposal.dataset sampleProposal.column =
      (raised sequence).entries :=
  chain_alone rfl

/-- How the creation of a further record ends. -/
def further (sequence : UInt32) : Outcome Transformation :=
  (raised sequence).create sampleProposal "e" default

theorem wantsNumber_further (sequence : UInt32) :
    (raised sequence).WantsNumber (further sequence) (raised sequence).entries := by
  rw [← chain_raised]
  exact .creation sampleProposal "e" default

theorem fst_further {sequence : UInt32} {answer : Except Fault Transformation}
    (ends : admitted sampleProposal "e" default (raised sequence).entries = answer) :
    (further sequence).1 = answer := by
  rw [further, create, chain_raised, ends]
  cases answer <;> rfl

/-- After a record whose number is small enough the next one gets a number in range. -/
theorem isNumbered_of_leads_raised :
    Leads Keyed.empty (raising 7) (raised 7) ∧
      (raised 7).WantsNumber (further 7) (raised 7).entries ∧ ¬ (further 7).IsRefused ∧
      (∀ call ∈ raising 7, call.asked ≤ 7) ∧ 7 + (raising 7).length < lastSequence.toNat ∧
      ∃ t, (further 7).IsNumbered (raised 7).entries t := by
  have leads : Leads Keyed.empty (raising 7) (raised 7) := leads_raised (by decide)
  have answered : (further 7).1 = .ok sampleCreated := fst_further (by decide)
  have admitted : ¬ (further 7).IsRefused := by
    rintro ⟨fault, refused, -⟩
    rw [answered] at refused
    cases refused
  have asked : ∀ call ∈ raising 7, call.asked ≤ 7 := by decide
  obtain ⟨-, -, numbered⟩ := isNumbered_of_leads leads (wantsNumber_further 7) admitted
  exact ⟨leads, wantsNumber_further 7, admitted, asked, by decide, numbered 7 asked (by decide)⟩

/-- After a record with the last number the next one gets none, and is not refused either: calls
that are accepted can take the numbers out of range. -/
theorem not_isNumbered_after_last :
    Leads Keyed.empty (raising lastSequence) (raised lastSequence) ∧
      (raised lastSequence).WantsNumber (further lastSequence) (raised lastSequence).entries ∧
      ¬ (further lastSequence).IsRefused ∧
      ¬ ∃ t, (further lastSequence).IsNumbered (raised lastSequence).entries t := by
  have broke : (further lastSequence).1 = .error .numbersExhausted := fst_further (by decide)
  refine ⟨leads_raised (by decide), wantsNumber_further lastSequence, ?_, ?_⟩
  · rintro ⟨fault, refused, reported⟩
    rw [broke] at refused
    exact reported (Except.error.inj refused).symm
  · rintro ⟨t, numbered⟩
    have answered := numbered.answered
    rw [broke] at answered
    cases answered

end ColumnChain.Store
