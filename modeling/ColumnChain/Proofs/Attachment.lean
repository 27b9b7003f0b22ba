import ColumnChain.Proofs.Acceptance
import ColumnChain.Proofs.Arrangement

/-!
# Attaching expressions

Attaching an expression to a column is refused where a deleted record is asked for, or a live
one whose function name a live record of the column has; a refusal leaves no trace. Otherwise
the new record goes to the end of the store, with the number after the largest live one of its
column, and a live record to the end of the chain. Deleting it right afterwards takes all of
this back.
-/

namespace ColumnChain.Store

/-! ## What is refused, and what is attached -/

/-- A proposal that is refused asks for a deleted record, or for a live one whose function name
a live record of its column has. A proposal without a function name never clashes. -/
def Refuses (store : Store) (proposal : Proposal) : Prop :=
  proposal.status = some .deleted ∨
    (proposal.status.getD .active).isLive = true ∧
      (Expression.leadingName? proposal.expression).isSome = true ∧
        ∃ other ∈ store.liveOn proposal.dataset proposal.column,
          other.functionName? = Expression.leadingName? proposal.expression

instance (store : Store) (proposal : Proposal) : Decidable (store.Refuses proposal) :=
  inferInstanceAs (Decidable (_ ∨ _))

/-- A record of a proposal is attached to a store: it comes last in the store and, if it is
live, in the chain of its column, and deleting it leaves the store, or all chains, as they
were. -/
structure Attaches (store : Store) (proposal : Proposal) (id : String) (now : Instant)
    (t : Transformation) (later : Store) : Prop where
  record : t = {
    id
    dataset := proposal.dataset
    column := proposal.column
    expression := proposal.expression
    category := Category.ofExpression proposal.expression
    status := proposal.status.getD .active
    sequence := t.sequence
    created := now
    output := proposal.output.getD .overwrite
    updated := none }
  last : later.entries = store.entries ++ [t]
  number : t.sequence.toNat = store.endNumber t
  chain : t.isLive = true →
    later.chain t.dataset t.column = store.chain t.dataset t.column ++ [t]
  pipeline : t.isLive = true →
    later.pipeline t.dataset t.column =
      ⟨t.column, (store.pipeline t.dataset t.column).steps ++ [t.step]⟩
  erased : ∀ time, later.delete id .hard time = (.ok t, store)
  marked : ∀ time, (∃ deleted, (later.delete id .soft time).1 = .ok deleted) ∧
    ∀ dataset column,
      (later.delete id .soft time).2.chain dataset column = store.chain dataset column

variable {store : Store} {proposal : Proposal} {id : String} {now : Instant}
  {t : Transformation}

/-! ## The checks -/

/-- A proposal is not refused where it asks for no deleted record, and a live one has a name of
its own. -/
theorem not_refuses_iff (fresh : id ∉ store.keys) (sequence : UInt32) (now : Instant) :
    ¬ store.Refuses proposal ↔ proposal.status ≠ some .deleted ∧
      ((propose proposal id sequence now).isLive = true →
        (propose proposal id sequence now).IsUniqueIn
          (store.chain proposal.dataset proposal.column)) := by
  rw [Refuses, not_or]
  refine and_congr_right fun _ => ?_
  constructor
  · intro unclashed live other inChain _ function isName same
    refine unclashed ⟨live, ?_, other, (store.chain_perm_liveOn _ _).mem_iff.1 inChain,
      same.trans isName.symm⟩
    exact Option.isSome_iff_exists.2 ⟨function, isName⟩
  · rintro unique ⟨live, named, other, member, same⟩
    obtain ⟨function, isName⟩ := Option.isSome_iff_exists.1 named
    have inChain := (store.chain_perm_liveOn _ _).mem_iff.2 member
    exact unique live other inChain (id_ne_of_mem_chain fresh other inChain) function isName
      (same.trans isName)

/-- Where there is a next number, a proposal that is not refused is admitted with it. -/
theorem admitted_chain {sequence : UInt32} (fresh : id ∉ store.keys)
    (follows : nextSequence (store.chain proposal.dataset proposal.column) = .ok sequence) :
    admitted proposal id now (store.chain proposal.dataset proposal.column) = .ok t ↔
      ¬ store.Refuses proposal ∧ t = propose proposal id sequence now := by
  rw [admitted_eq_ok, not_refuses_iff fresh sequence now, and_assoc]
  refine and_congr_right fun _ => ?_
  constructor
  · rintro ⟨number, given, rfl, unique⟩
    rw [follows] at given
    cases given
    exact ⟨unique, rfl⟩
  · rintro ⟨unique, rfl⟩
    exact ⟨sequence, follows, rfl, unique⟩

/-! ## Deleting what was put last -/

theorem require_put (store : Store) (t : Transformation) :
    require (store.put t) t.id = .ok t :=
  require_eq_ok.2 ⟨Keyed.mem_put.2 (Or.inl rfl), rfl⟩

/-- Deleting a new record takes it out again. -/
theorem delete_hard_put (absent : t.id ∉ store.keys) (time : Instant) :
    delete (store.put t) t.id .hard time = (.ok t, store) := by
  simp only [delete, require_put, checked, Keyed.erase_put_of_absent absent]

theorem delete_soft_put (store : Store) (t : Transformation) (time : Instant) :
    delete (store.put t) t.id .soft time =
      (.ok { t with status := .deleted, updated := some time },
        Keyed.put (store.put t) { t with status := .deleted, updated := some time }) := by
  simp only [delete, require_put, checked]

/-- A new record that is marked as deleted is in no chain. -/
theorem chain_delete_soft_put (absent : t.id ∉ store.keys) (time : Instant)
    (dataset column : String) :
    (delete (store.put t) t.id .soft time).2.chain dataset column =
      store.chain dataset column := by
  rw [delete_soft_put]
  apply chain_congr_of_isLive
  intro other live _ _
  rw [Keyed.mem_put, Keyed.mem_put]
  constructor
  · rintro (rfl | ⟨rfl | ⟨stored, -⟩, different⟩)
    · cases live
    · exact absurd rfl different
    · exact stored
  · intro stored
    have different : other.id ≠ t.id := fun same => absent (same ▸ List.mem_map_of_mem stored)
    exact Or.inr ⟨Or.inr ⟨stored, different⟩, different⟩

/-! ## Creating a record -/

/-- A record that is created is attached. -/
theorem attaches_put_propose {sequence : UInt32} (fresh : id ∉ store.keys)
    (follows : nextSequence (store.chain proposal.dataset proposal.column) = .ok sequence) :
    store.Attaches proposal id now (propose proposal id sequence now)
      (store.put (propose proposal id sequence now)) := by
  have absent : (propose proposal id sequence now).id ∉ store.keys := fresh
  have longer (live : (propose proposal id sequence now).isLive = true) :=
    chain_put_of_last live (id_ne_of_mem_chain absent) fun other member =>
      sequence_lt_of_nextSequence follows member
  -- No record of the chain has the new id, so that the others are all.
  have all : (store.chain proposal.dataset proposal.column).filter
      (fun other => other.id != id) = store.chain proposal.dataset proposal.column := by
    rw [List.filter_eq_self]
    intro other member
    exact bne_iff_ne.2 (id_ne_of_mem_chain fresh other member)
  rw [← all] at follows
  exact {
    record := rfl
    last := Keyed.entries_put_of_absent absent
    number := nextSequence_others.1 follows
    chain := longer
    pipeline := fun live => by
      rw [pipeline_eq, longer live, List.map_append, List.map_singleton]
      rfl
    erased := delete_hard_put absent
    marked := fun time => ⟨⟨_, congrArg Prod.fst (delete_soft_put store _ time)⟩,
      chain_delete_soft_put absent time⟩ }

/-- A proposal for a new record is refused exactly where it asks for a deleted record or clashes
with a live one, and then nothing changes; otherwise the record that is answered is attached. -/
theorem create_refuses_or_attaches (bounded : store.IsBounded) (fresh : id ∉ store.keys)
    (proposal : Proposal) (now : Instant) :
    ((∃ fault, (store.create proposal id now).1 = .error fault) ↔ store.Refuses proposal) ∧
      (∀ fault, (store.create proposal id now).1 = .error fault →
        (store.create proposal id now).2 = store) ∧
      ∀ t, (store.create proposal id now).1 = .ok t →
        store.Attaches proposal id now t (store.create proposal id now).2 := by
  obtain ⟨sequence, follows⟩ :=
    exists_nextSequence (bounded.chain proposal.dataset proposal.column)
  cases made : admitted proposal id now (store.chain proposal.dataset proposal.column) with
  | error fault =>
      rw [create_of_error made]
      refine ⟨⟨fun _ => ?_, fun _ => ⟨fault, rfl⟩⟩, fun _ _ => rfl, ?_⟩
      · by_contra admissible
        rw [(admitted_chain fresh follows).2 ⟨admissible, rfl⟩] at made
        cases made
      · intro t answered
        cases answered
  | ok t =>
      obtain ⟨admissible, rfl⟩ := (admitted_chain fresh follows).1 made
      rw [create_of_admitted made]
      refine ⟨⟨?_, fun refused => absurd refused admissible⟩, ?_, ?_⟩
      · rintro ⟨fault, answered⟩
        cases answered
      · intro fault answered
        cases answered
      · intro t answered
        cases answered
        exact attaches_put_propose fresh follows

/-- A proposal with the name of a live record of the sample. -/
def clashingProposal : Proposal :=
  { sampleProposal with expression := " upperCase( name )" }

/-- What clashes with no live record of the sample is attached with the number after 7, and a
name clashes in whatever letter case it is written. -/
theorem create_refuses_or_attaches_sampleStore :
    (sampleStore.IsBounded ∧ "e" ∉ sampleStore.keys) ∧
      ((sampleStore.create sampleProposal "e" default).1 = .ok sampleCreated ∧
        sampleStore.Attaches sampleProposal "e" default sampleCreated
          (sampleStore.create sampleProposal "e" default).2) ∧
      ∃ fault, (sampleStore.create clashingProposal "e" default).1 = .error fault := by
  have bounded : sampleStore.IsBounded := by decide
  have fresh : "e" ∉ sampleStore.keys := by decide
  obtain ⟨-, -, attaches⟩ := create_refuses_or_attaches bounded fresh sampleProposal default
  obtain ⟨clashes, -, -⟩ := create_refuses_or_attaches bounded fresh clashingProposal default
  have created : (sampleStore.create sampleProposal "e" default).1 = .ok sampleCreated := by
    rw [create_sampleProposal]
  exact ⟨⟨bounded, fresh⟩, ⟨created, attaches sampleCreated created⟩, clashes.2 (by decide)⟩

end ColumnChain.Store
