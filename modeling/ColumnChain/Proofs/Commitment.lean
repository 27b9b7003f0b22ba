import ColumnChain.Proofs.Chaining
import ColumnChain.Proofs.Lawfulness
import ColumnChain.Proofs.Randomness

/-!
# Previews and commitment

A record that is created live comes last in the chain of its column. What the committed
chain then derives is what a preview of the record shows on top of the chain that was
there before.
-/

namespace ColumnChain

/-- The step that a proposal asks for. -/
def Proposal.step (proposal : Proposal) : Step :=
  Step.read proposal.expression (proposal.output.getD .overwrite)

namespace Store

variable {store committed : Store} {proposal : Proposal} {id : String} {now : Instant}
  {t : Transformation} {dataset column : String}

/-! ## Creating at the end of a chain -/

/-- What is created is a record of the proposal that is kept, with the next number. -/
theorem of_create_eq_ok (created : store.create proposal id now = (.ok t, committed)) :
    ∃ sequence, nextSequence (store.chain proposal.dataset proposal.column) = .ok sequence ∧
      t = propose proposal id sequence now ∧ committed = store.put t := by
  simp only [create, checked] at created
  split at created
  next value made =>
    simp only [Prod.mk.injEq, Except.ok.injEq] at created
    obtain ⟨rfl, rfl⟩ := created
    obtain ⟨-, sequence, follows, equal, -⟩ := admitted_eq_ok.1 made
    exact ⟨sequence, follows, equal, rfl⟩
  next => simp at created

/-- A record that is admitted beside the chain of its column is created. -/
theorem create_of_admitted
    (made : admitted proposal id now (store.chain proposal.dataset proposal.column) = .ok t) :
    store.create proposal id now = (.ok t, store.put t) := by
  simp only [create, made, checked]

theorem create_of_error {fault : Fault}
    (refused : admitted proposal id now (store.chain proposal.dataset proposal.column) =
      .error fault) :
    store.create proposal id now = (.error fault, store) := by
  simp only [create, refused, checked]

theorem step_of_create_eq_ok (created : store.create proposal id now = (.ok t, committed)) :
    t.step = proposal.step := by
  obtain ⟨sequence, -, rfl, -⟩ := of_create_eq_ok created
  rfl

/-- A live record with the largest number of its chain comes last. -/
theorem chain_put_of_last (live : t.isLive = true)
    (absent : ∀ other ∈ store.chain t.dataset t.column, other.id ≠ t.id)
    (last : ∀ other ∈ store.chain t.dataset t.column, other.sequence < t.sequence) :
    chain (store.put t) t.dataset t.column = store.chain t.dataset t.column ++ [t] := by
  have notMember : t ∉ store.chain t.dataset t.column :=
    fun member => absent t member rfl
  apply chain_eq
  · rw [List.nodup_append]
    refine ⟨(store.distinct_chain _ _).of_map, List.nodup_singleton t, ?_⟩
    intro other member same sameMember equal
    rw [List.mem_singleton.1 sameMember] at equal
    exact notMember (equal ▸ member)
  · rw [List.pairwise_append]
    refine ⟨store.pairwise_chain _ _, List.pairwise_singleton _ t, ?_⟩
    intro other member same sameMember
    rw [List.mem_singleton.1 sameMember]
    exact Transformation.precedes_of_sequence_lt (last other member)
  · intro other
    simp only [List.mem_append, List.mem_singleton, mem_chain, Keyed.mem_put]
    constructor
    · rintro (⟨stored, inDataset, inColumn, otherLive⟩ | rfl)
      · have different := absent other (mem_chain.2 ⟨stored, inDataset, inColumn, otherLive⟩)
        exact ⟨Or.inr ⟨stored, different⟩, inDataset, inColumn, otherLive⟩
      · exact ⟨Or.inl rfl, rfl, rfl, live⟩
    · rintro ⟨rfl | ⟨stored, -⟩, inDataset, inColumn, otherLive⟩
      · exact Or.inr rfl
      · exact Or.inl ⟨stored, inDataset, inColumn, otherLive⟩

/-- A record that is created live comes last in the chain of its column. -/
theorem chain_of_create (created : store.create proposal id now = (.ok t, committed))
    (live : t.isLive = true)
    (fresh : ∀ other ∈ store.chain proposal.dataset proposal.column, other.id ≠ id) :
    committed.chain proposal.dataset proposal.column =
      store.chain proposal.dataset proposal.column ++ [t] := by
  obtain ⟨sequence, follows, rfl, rfl⟩ := of_create_eq_ok created
  exact chain_put_of_last live fresh fun other member =>
    sequence_lt_of_nextSequence follows member

theorem id_ne_of_mem_chain (fresh : id ∉ store.keys) :
    ∀ other ∈ store.chain dataset column, other.id ≠ id := by
  intro other member same
  exact fresh (same ▸ List.mem_map_of_mem (mem_chain.1 member).1)

/-! ## What a chain derives -/

/-- No transformation of a chain can call `GENERATE_ID`. -/
def IsDeterministicOn (store : Store) (dataset column : String) : Prop :=
  ∀ t ∈ store.chain dataset column, t.step.isDeterministic = true

theorem pipeline_eq (store : Store) (dataset column : String) :
    store.pipeline dataset column =
      ⟨column, (store.chain dataset column).map Transformation.step⟩ := rfl

theorem apply_draws (deterministic : store.IsDeterministicOn dataset column)
    (engine : Engine) (left right : Draws) (rows : List Row) :
    store.apply engine left dataset column rows =
      store.apply engine right dataset column rows := by
  apply engine.applySteps_draws column
  rw [pipeline_eq]
  exact List.forall_mem_map.2 deterministic

theorem isDeterministicOn_of_create
    (created : store.create proposal id now = (.ok t, committed)) (live : t.isLive = true)
    (fresh : ∀ other ∈ store.chain proposal.dataset proposal.column, other.id ≠ id)
    (deterministic : store.IsDeterministicOn proposal.dataset proposal.column)
    (candidateDeterministic : proposal.step.isDeterministic = true) :
    committed.IsDeterministicOn proposal.dataset proposal.column := by
  intro other member
  rw [chain_of_create created live fresh, List.mem_append, List.mem_singleton] at member
  rcases member with old | rfl
  · exact deterministic other old
  · rw [step_of_create_eq_ok created]
    exact candidateDeterministic

/-- The committed chain takes the steps that were there, and then that of the proposal. -/
theorem apply_of_create (created : store.create proposal id now = (.ok t, committed))
    (live : t.isLive = true)
    (fresh : ∀ other ∈ store.chain proposal.dataset proposal.column, other.id ≠ id)
    (deterministic : proposal.step.isDeterministic = true) (engine : Engine)
    (draws stepDraws : Draws) (rows : List Row) :
    committed.apply engine draws proposal.dataset proposal.column rows =
      Pipeline.apply ⟨proposal.column, [proposal.step]⟩ engine stepDraws
        (store.apply engine draws proposal.dataset proposal.column rows) := by
  have longer := chain_of_create created live fresh
  have step := step_of_create_eq_ok created
  simp only [Store.apply, Pipeline.apply, pipeline_eq, longer, List.map_append,
    List.map_singleton, step, Engine.applySteps_append]
  apply engine.applySteps_draws
  simpa using deterministic

end Store

/-! ## What a preview shows -/

/-- A preview shows pairs of cells: of those whose first cell is not blank, or of all where
there are none, as many as the limit allows, from the first row on. It counts the pairs
that differ. -/
structure Preview.Shows (preview : Preview) (limit : Nat) (pairs : List Pair) : Prop where
  pairs : preview.pairs =
    if pairs.all fun pair => pair.before.isBlank then pairs.take limit
    else (pairs.filter fun pair => !pair.before.isBlank).take limit
  changed : preview.changed =
    preview.pairs.countP fun pair => !pair.before.same pair.after

namespace Store

variable {store committed : Store} {proposal : Proposal} {id : String} {now : Instant}
  {t : Transformation}

/-- The candidate of a proposal, tried on rows. -/
def trialOf (proposal : Proposal) (samples : List Cell) (rows : List Row) : Trial where
  column := proposal.column
  expression := proposal.expression
  samples
  context := rows
  output := proposal.output.getD .overwrite

/-- The pairs of a preview come from what the chain derives before the candidate is created
and from what it derives afterwards. -/
theorem pairs_onChain (engine : Engine) (samples : List Cell) {rows : List Row}
    (previewDraws beforeDraws afterDraws : Draws) (filled : rows ≠ [])
    (created : store.create proposal id now = (.ok t, committed)) (live : t.isLive = true)
    (fresh : ∀ other ∈ store.chain proposal.dataset proposal.column, other.id ≠ id)
    (chainDeterministic : store.IsDeterministicOn proposal.dataset proposal.column)
    (deterministic : proposal.step.isDeterministic = true) :
    (Preview.onChain engine previewDraws
        (store.pipeline proposal.dataset proposal.column)
        (trialOf proposal samples rows)).pairs =
      Preview.shown engine.settings.previewLimit
        ((trialOf proposal samples rows).pairs
          (store.apply engine beforeDraws proposal.dataset proposal.column rows)
          (committed.apply engine afterDraws proposal.dataset proposal.column rows)) := by
  have trialRows : (trialOf proposal samples rows).rows = rows := by
    simp [Trial.rows, trialOf, filled]
  -- The preview draws at other places than the chains, but nothing here draws.
  have sameBefore : (store.pipeline proposal.dataset proposal.column).apply engine
      (previewDraws.under 0) rows =
        store.apply engine beforeDraws proposal.dataset proposal.column rows :=
    apply_draws chainDeterministic engine _ _ rows
  have composed := apply_of_create created live fresh deterministic engine
    afterDraws (previewDraws.under 1) rows
  rw [apply_draws chainDeterministic engine afterDraws beforeDraws rows] at composed
  simp only [Preview.onChain, Preview.ofRows, trialRows, sameBefore, composed]
  rfl

/-- A preview shows what committing does: row by row, the cell of the column before the
candidate is created, and the cell of its target afterwards. -/
theorem preview_shows_commitment {engine : Engine} {samples : List Cell} {rows : List Row}
    {previewDraws beforeDraws afterDraws : Draws} (filled : rows ≠ [])
    (created : store.create proposal id now = (.ok t, committed)) (live : t.isLive = true)
    (fresh : ∀ other ∈ store.chain proposal.dataset proposal.column, other.id ≠ id)
    (chainDeterministic : store.IsDeterministicOn proposal.dataset proposal.column)
    (deterministic : proposal.step.isDeterministic = true) :
    let before := store.apply engine beforeDraws proposal.dataset proposal.column rows
    let after := committed.apply engine afterDraws proposal.dataset proposal.column rows
    let preview := Preview.onChain engine previewDraws
      (store.pipeline proposal.dataset proposal.column) (trialOf proposal samples rows)
    before.length = rows.length ∧ after.length = rows.length ∧
      preview.Shows engine.settings.previewLimit
        (List.zipWith (fun row derived => ⟨Row.get row proposal.column,
          Row.get derived ((proposal.output.getD .overwrite).target proposal.column)⟩)
          before after) := by
  intro before after preview
  refine ⟨Pipeline.length_apply _ _ _ _, Pipeline.length_apply _ _ _ _, ?_, rfl⟩
  have pairs := pairs_onChain engine samples previewDraws beforeDraws afterDraws filled
    created live fresh chainDeterministic deterministic
  rw [Preview.shown_eq] at pairs
  exact pairs

/-! ## An example -/

theorem chain_sampleStore :
    sampleStore.chain "people" "name" =
      [sampleRecord "a" "TRIM(name)" .active 1,
        sampleRecord "c" "UPPERCASE(name)" .applied 7] := by
  simp only [Store.chain]
  exact List.mergeSort_of_pairwise (by decide)

/-- A proposal for the column of the sample store. -/
def sampleProposal : Proposal where
  dataset := "people"
  column := "name"
  expression := "LEFT(name, 2)"
  output := some (.column "short")

/-- The record of the proposal, with the number after the largest one. -/
def sampleCreated : Transformation :=
  { sampleRecord "e" "LEFT(name, 2)" .active 8 with output := .column "short" }

/-- Rows of the sample, one of them without a name. -/
def sampleRows : List Row :=
  [.single "name" (.text " ada "), .single "age" .null, .single "name" (.text "Bob")]

theorem create_sampleProposal :
    sampleStore.create sampleProposal "e" default =
      (.ok sampleCreated, sampleStore.put sampleCreated) := by
  apply create_of_admitted
  have chain : sampleStore.chain sampleProposal.dataset sampleProposal.column = _ :=
    chain_sampleStore
  rw [chain]
  decide

/-- An engine with the settings nobody has changed. -/
def sampleEngine : Engine :=
  Settings.engine {} default 4

/-- A random source that always yields the same. -/
def sampleDraws : Draws :=
  fun _ _ => 0

theorem preview_shows_sample_commitment :
    let before := sampleStore.apply sampleEngine sampleDraws "people" "name" sampleRows
    let after := apply (sampleStore.put sampleCreated) sampleEngine sampleDraws "people" "name"
      sampleRows
    let preview := Preview.onChain sampleEngine sampleDraws
      (sampleStore.pipeline "people" "name") (trialOf sampleProposal [] sampleRows)
    before.length = 3 ∧ after.length = 3 ∧
      preview.Shows 5
        (List.zipWith (fun row derived => ⟨Row.get row "name", Row.get derived "short"⟩)
          before after) := by
  refine preview_shows_commitment (by decide) create_sampleProposal (by decide)
    ?_ ?_ (by decide)
  · change ∀ other ∈ sampleStore.chain "people" "name", other.id ≠ "e"
    rw [chain_sampleStore]
    decide
  · change ∀ other ∈ sampleStore.chain "people" "name", other.step.isDeterministic = true
    rw [chain_sampleStore]
    decide

end Store
end ColumnChain
