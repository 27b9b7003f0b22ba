import ColumnChain.Files.Disk
import ColumnChain.Proofs.Derivation
import ColumnChain.Proofs.Handling
import ColumnChain.Proofs.Loading

/-!
# Previews and derived data over the service

A preview on the rows of a dataset, the creation of its candidate, and the derived data
afterwards: where the chains of the other columns do not interfere, the preview has shown
what the derived data has. Where they do, it has not.
-/

namespace ColumnChain

namespace Service

/-! ## The preview and the derived data -/

/-- Previews of a candidate foretell the derived data of a workspace: the dataset is a
table, nothing of the chain or the candidate is random, the candidate is live, and the other
chains do not interfere with it. -/
structure Foretells (workspace : Workspace) (proposal : Proposal)
    (before after : List String) : Prop where
  table : workspace.dataset.IsTable
  order : workspace.dataset.columnNames = before ++ proposal.column :: after
  deterministic : workspace.store.IsDeterministicOn workspace.id proposal.column
  candidateDeterministic : proposal.step.isDeterministic = true
  live : (proposal.status.getD .active).isLive = true
  isolates : workspace.store.Isolates workspace.id proposal.column proposal.step before after

/-- The request for a preview that goes with a proposal: on the rows of the dataset and on
top of the chain. -/
def previewBodyOf (proposal : Proposal) : PreviewBody where
  column := proposal.column
  expression := proposal.expression
  samples := none
  standalone := false
  output := proposal.output.getD .overwrite

theorem previewOf_previewBodyOf {engine : Engine} {draws : Draws} {workspace : Workspace}
    {proposal : Proposal} (inDataset : workspace.dataset.hasColumn proposal.column = true) :
    previewOf engine draws workspace (previewBodyOf proposal) =
      .ok (Preview.onChain engine draws
        (workspace.store.pipeline workspace.id proposal.column)
        (Store.trialOf proposal [] workspace.dataset.rows)).toJson := by
  simp only [previewOf, previewBodyOf, inDataset]
  rfl

/-- The cells after the candidate in the response to a request for a preview. -/
theorem map_after_part_pairs (preview : Preview) :
    ((Response.ok preview.toJson).part "pairs").items.map (fun pair => pair.part "after") =
      (preview.pairs.map Pair.after).map Cell.toJson := by
  simp [Response.ok, Response.of, Response.part, Preview.toJson, Json.part, Json.member?,
    Json.items, Pair.toJson, Function.comp_def]

/-- The rows in the response to a request for derived data. -/
theorem items_part_rows (engine : Engine) (draws : Draws) (workspace : Workspace)
    (limit : Nat) :
    ((derivedOf engine draws workspace limit).part "rows").items =
      ((workspace.dataset.derive workspace.store engine draws).take limit).map Row.toJson := by
  simp [derivedOf, Response.ok, Response.of, Response.part, Json.part, Json.member?,
    Json.items]

theorem part_getD_rows (rows : List Row) (place : Nat) (name : String) :
    ((rows.map Row.toJson).getD place .null).part name =
      (Row.get (rows[place]?.getD default) name).toJson := by
  rw [List.getD_eq_getElem?_getD, List.getElem?_map]
  cases rows[place]? with
  | none => rfl
  | some row => exact Row.part_toJson row name

theorem Foretells.inDataset {workspace : Workspace} {proposal : Proposal}
    {before after : List String} (foretells : Foretells workspace proposal before after) :
    workspace.dataset.hasColumn proposal.column = true := by
  rw [Dataset.hasColumn_eq_true_iff, foretells.order]
  exact List.mem_append_right before List.mem_cons_self

section Serving

variable {σ : Type} [Files (StateM σ)] {previewEngine creationEngine derivedEngine : Engine}
  {workspaces : Workspaces} {workspace : Workspace} {id : String} {proposal : Proposal}
  {limit : Option Nat}

/-- Once a creation has succeeded, the service shows all that the created record and those
before it derive. -/
theorem derived_of_created {creationRequest derivedRequest : Request}
    {creationMoment : Moment} {creationState : σ}
    (stored : workspaces.find? id = some workspace)
    (asksCreation : AsksCreation creationRequest id proposal)
    (asksDerived : AsksDerived derivedRequest id limit)
    (enough : workspace.dataset.rows.length ≤ limit.getD defaultRows)
    (derivedMoment : Moment) (derivedState : σ) :
    let created := serve creationEngine workspaces creationMoment creationRequest creationState
    let derived := serve derivedEngine created.1.2 derivedMoment derivedRequest derivedState
    created.1.1.status = 201 →
      ∃ t committed,
        workspace.store.create proposal (Transformation.freshId creationMoment.token)
          creationMoment.now = (.ok t, committed) ∧
        derived.1.1.status = 200 ∧
        (derived.1.1.part "rows").items =
          (workspace.dataset.derive committed derivedEngine derivedMoment.draws).map
            Row.toJson := by
  intro created derived succeeds
  obtain ⟨t, committed, success, kept⟩ := created_of_status asksCreation stored succeeds
  have sameId : workspace.id = id := (Keyed.find?_eq_some_iff.1 stored).2
  have storedLater : created.1.2.find? id = some { workspace with store := committed } := by
    rw [← sameId, kept, Keyed.find?_put]
    exact if_pos rfl
  have answer : derived = ((derivedOf derivedEngine derivedMoment.draws
      { workspace with store := committed } (limit.getD defaultRows), created.1.2),
        derivedState) := serve_derived asksDerived storedLater derivedState
  refine ⟨t, committed, success, by rw [answer]; rfl, ?_⟩
  rw [answer, items_part_rows, List.take_of_length_le]
  rw [Store.length_derive]
  exact enough

/-- What a preview shows of a row is what the derived data has there once the candidate is
created. Each of the requests is answered with an engine of its own; those of the preview and of
the derived data have the same settings and the same day. -/
theorem previewed_eq_derived {before after : List String} {draws : Draws}
    {previewRequest creationRequest derivedRequest : Request}
    {previewMoment creationMoment derivedMoment : Moment}
    {previewState creationState derivedState : σ}
    (sameSettings : derivedEngine.settings = previewEngine.settings)
    (sameDay : derivedEngine.today = previewEngine.today)
    (stored : workspaces.find? id = some workspace)
    (foretells : Foretells workspace proposal before after)
    (fresh : Transformation.freshId creationMoment.token ∉ workspace.store.keys)
    (asksPreview : AsksPreview previewRequest id (previewBodyOf proposal))
    (asksCreation : AsksCreation creationRequest id proposal)
    (asksDerived : AsksDerived derivedRequest id limit)
    (enough : workspace.dataset.rows.length ≤ limit.getD defaultRows) :
    let previewed := serve previewEngine workspaces previewMoment previewRequest previewState
    let created := serve creationEngine previewed.1.2 creationMoment creationRequest creationState
    let derived := serve derivedEngine created.1.2 derivedMoment derivedRequest derivedState
    let places := Preview.places previewEngine.settings.previewLimit
      ((workspace.store.apply previewEngine draws id proposal.column workspace.dataset.rows).map
        fun row => Row.get row proposal.column)
    let pairs := (previewed.1.1.part "pairs").items
    let rows := (derived.1.1.part "rows").items
    created.1.1.status = 201 →
      previewed.1.1.status = 200 ∧ derived.1.1.status = 200 ∧
      rows.length = workspace.dataset.rows.length ∧ (∀ place ∈ places, place < rows.length) ∧
      pairs.map (fun pair => pair.part "after") = places.map fun place =>
        (rows.getD place .null).part (proposal.step.target proposal.column) := by
  intro previewed created derived places pairs rows succeeds
  have sameId : workspace.id = id := (Keyed.find?_eq_some_iff.1 stored).2
  subst sameId
  have proposed : proposal.dataset = workspace.dataset.id := asksCreation.dataset
  have previewAnswer : previewed = ((.ok (Preview.onChain previewEngine previewMoment.draws
      (workspace.store.pipeline workspace.id proposal.column)
      (Store.trialOf proposal [] workspace.dataset.rows)).toJson, workspaces),
        previewState) := by
    rw [← previewOf_previewBodyOf foretells.inDataset]
    exact serve_preview asksPreview stored previewState
  have stillStored : previewed.1.2.find? workspace.id = some workspace := by
    rw [previewAnswer]
    exact stored
  obtain ⟨t, committed, success, derivedStatus, complete⟩ := derived_of_created stillStored
    asksCreation asksDerived enough derivedMoment derivedState succeeds
  change rows = _ at complete
  rw [Store.derive_congr sameSettings sameDay] at complete
  have length : rows.length = workspace.dataset.rows.length := by
    rw [complete, List.length_map, Store.length_derive]
  have live : t.isLive = true := by
    obtain ⟨sequence, -, rfl, -⟩ := Store.of_create_eq_ok success
    exact foretells.live
  have deterministic := foretells.deterministic
  rw [Workspace.id, ← proposed] at deterministic
  have same := Store.map_after_preview_eq success live fresh
    deterministic foretells.candidateDeterministic proposed foretells.order
    foretells.table.distinct foretells.isolates foretells.table.filled previewEngine draws
    previewMoment.draws derivedMoment.draws
  refine ⟨by rw [previewAnswer]; rfl, derivedStatus, length, ?_, ?_⟩
  · intro place member
    have inside := Preview.lt_of_mem_places member
    rw [List.length_map, Store.apply, Pipeline.length_apply] at inside
    omega
  · simp only [pairs, previewAnswer, map_after_part_pairs]
    rw [Workspace.id, same, List.map_map]
    apply List.map_congr_left
    intro place _
    rw [complete, part_getD_rows]
    rfl

end Serving

/-! ## An example -/

open Store

/-- A dataset of one person. -/
def samplePeople : Dataset :=
  Dataset.ofRows "people" [Row.ofPairs [("first", .text "max"), ("last", .text "king")]]

/-- A transformation of the first column. -/
def sampleUpper : Transformation :=
  { sampleRecord "a" "UPPERCASE(first)" .active 1 with column := "first" }

/-- A transformation of the second column. -/
def sampleReverse : Transformation :=
  { sampleRecord "b" "REVERSE(last)" .active 1 with column := "last" }

/-- A workspace in which each column has a chain. -/
def sampleWorkspace : Workspace where
  dataset := samplePeople
  store := ⟨[sampleUpper, sampleReverse], by decide⟩
  ledger := "people.transforms.json"

/-- The workspaces of the sample. -/
def sampleWorkspaces : Workspaces :=
  ⟨[sampleWorkspace], List.nodup_singleton _⟩

/-- The moment of every request of the sample. -/
def sampleMoment : Moment :=
  ⟨default, fun _ => 0, sampleDraws⟩

/-- A disk with nothing on it. -/
def sampleDisk : Disk :=
  ⟨Keyed.empty, []⟩

/-- A request for a preview with a body. -/
def samplePreview (body : String) : Request :=
  ⟨"POST", "/api/datasets/people/preview", some "application/json", body⟩

/-- A request that creates a transformation. -/
def sampleCreation (body : String) : Request :=
  ⟨"POST", "/api/datasets/people/transformations", some "application/json", body⟩

/-- A request for the derived rows. -/
def sampleDerived : Request :=
  ⟨"GET", "/api/datasets/people/derived", none, ""⟩

theorem find?_sampleWorkspaces :
    sampleWorkspaces.find? "people" = some sampleWorkspace := rfl

theorem columnNames_samplePeople : samplePeople.columnNames = ["first", "last"] := by
  rw [samplePeople, Dataset.columnNames_ofRows]
  decide

theorem chain_first : sampleWorkspace.store.chain "people" "first" = [sampleUpper] := by
  simp only [Store.chain]
  exact List.mergeSort_singleton _

theorem chain_last : sampleWorkspace.store.chain "people" "last" = [sampleReverse] := by
  simp only [Store.chain]
  exact List.mergeSort_singleton _

theorem nameOf_people : nameOf "people".toList = .ok "people" := by
  have text : unescapePart? "people".toList = some "people" := by decide +kernel
  rw [nameOf, text]

theorem asksDerived_sample : AsksDerived sampleDerived "people" none where
  method := rfl
  route := ⟨"people".toList, nameOf_people, rfl⟩
  limit := rfl

theorem route_preview :
    Route.ofParts? (Target.read "/api/datasets/people/preview".toList).parts =
      some (.preview "people".toList) := rfl

theorem route_transformations :
    Route.ofParts? (Target.read "/api/datasets/people/transformations".toList).parts =
      some (.transformations "people".toList) := rfl

/-- The record of a proposal for the sample, each of whose chains has one record. -/
def samplePropose (proposal : Proposal) : Transformation :=
  propose proposal (Transformation.freshId sampleMoment.token) 2 sampleMoment.now

/-- A proposal that the sample accepts, with the text that asks for it. -/
structure IsCandidate (proposal : Proposal) (body : String) : Prop where
  preview : readBody (some "application/json") body asPreviewBody =
    .ok (previewBodyOf proposal)
  creation : readBody (some "application/json") body (asProposalFor "people") = .ok proposal
  inDataset : samplePeople.hasColumn proposal.column = true
  accepted : admitted proposal (Transformation.freshId sampleMoment.token) sampleMoment.now
    (sampleWorkspace.store.chain proposal.dataset proposal.column) = .ok (samplePropose proposal)
  live : (samplePropose proposal).isLive = true
  written : ((commit sampleWorkspaces sampleWorkspace
      (sampleWorkspace.store.put (samplePropose proposal)) sampleMoment.now
      (.of 201 (samplePropose proposal).toJson) : StateM Disk (Response × Workspaces)).run
    sampleDisk).1.1.status = 201

namespace IsCandidate

variable {proposal : Proposal} {body : String}

theorem asksPreview (candidate : IsCandidate proposal body) :
    AsksPreview (samplePreview body) "people" (previewBodyOf proposal) where
  method := rfl
  route := ⟨"people".toList, nameOf_people, route_preview⟩
  body := candidate.preview

theorem asksCreation (candidate : IsCandidate proposal body) :
    AsksCreation (sampleCreation body) "people" proposal where
  method := rfl
  route := ⟨"people".toList, nameOf_people, route_transformations⟩
  body := candidate.creation

theorem status_created (candidate : IsCandidate proposal body) (engine : Engine) :
    (serve engine sampleWorkspaces sampleMoment (sampleCreation body) sampleDisk).1.1.status =
      201 := by
  rw [serve_creation_of_ok candidate.asksCreation rfl candidate.inDataset
    (create_of_admitted candidate.accepted)]
  exact candidate.written

end IsCandidate

/-- A proposal that reads and writes its own column only. -/
def shortening : Proposal where
  dataset := "people"
  column := "last"
  expression := "LEFT(last, 2)"

/-- The text that asks for shortening. -/
def shorteningBody : String :=
  "\x7b\"column\":\"last\",\"expression\":\"LEFT(last, 2)\"\x7d"

theorem isCandidate_shortening : IsCandidate shortening shorteningBody where
  preview := by decide +kernel
  creation := by decide +kernel
  inDataset := by decide
  accepted := by
    have chain : sampleWorkspace.store.chain shortening.dataset shortening.column = _ :=
      chain_last
    rw [chain]
    decide
  live := rfl
  written := by decide +kernel

theorem foretells_shortening : Foretells sampleWorkspace shortening ["first"] [] where
  table := Dataset.isTable_ofRows "people" (List.cons_ne_nil _ _)
  order := columnNames_samplePeople
  deterministic := by
    intro t member
    have chain : sampleWorkspace.store.chain sampleWorkspace.id shortening.column = _ :=
      chain_last
    rw [chain, List.mem_singleton] at member
    rw [member]
    decide
  candidateDeterministic := by decide
  live := rfl
  isolates := {
    before := by
      intro other otherMember name written
      rw [List.mem_singleton.1 otherMember] at written
      have chain : sampleWorkspace.store.chain sampleWorkspace.id "first" = _ := chain_first
      have own : sampleWorkspace.store.chain sampleWorkspace.id shortening.column = _ :=
        chain_last
      rw [writes, chain] at written
      rw [List.mem_singleton.1 written, Store.needs, pipeline_eq, own]
      decide
    after := by
      intro other otherMember
      cases otherMember }

/-- The engine of the sample on a machine with one worker. -/
def sampleSingle : Engine :=
  Settings.engine {} default 1

/-- The preview of the sample agrees with the derived data for a proposal that only concerns
its own column. -/
theorem previewed_eq_derived_shortening :
    let previewed := serve sampleEngine sampleWorkspaces sampleMoment
      (samplePreview shorteningBody) sampleDisk
    let created := serve sampleEngine previewed.1.2 sampleMoment
      (sampleCreation shorteningBody) sampleDisk
    let derived := serve sampleSingle created.1.2 sampleMoment
      sampleDerived sampleDisk
    let places := Preview.places sampleEngine.settings.previewLimit
      ((sampleWorkspace.store.apply sampleEngine sampleDraws "people" shortening.column
        sampleWorkspace.dataset.rows).map fun row => Row.get row shortening.column)
    let pairs := (previewed.1.1.part "pairs").items
    let rows := (derived.1.1.part "rows").items
    sampleSingle.settings = sampleEngine.settings ∧ sampleSingle.today = sampleEngine.today ∧
      created.1.1.status = 201 ∧
      previewed.1.1.status = 200 ∧ derived.1.1.status = 200 ∧
      rows.length = sampleWorkspace.dataset.rows.length ∧
      (∀ place ∈ places, place < rows.length) ∧
      pairs.map (fun pair => pair.part "after") = places.map fun place =>
        (rows.getD place .null).part (shortening.step.target shortening.column) := by
  intro previewed created derived places pairs rows
  have previewAnswer : previewed = _ :=
    serve_preview isCandidate_shortening.asksPreview find?_sampleWorkspaces sampleDisk
  have succeeds : created.1.1.status = 201 := by
    simp only [created, previewAnswer]
    exact isCandidate_shortening.status_created sampleEngine
  exact ⟨rfl, rfl, succeeds, previewed_eq_derived rfl rfl find?_sampleWorkspaces
    foretells_shortening (by decide) isCandidate_shortening.asksPreview
    isCandidate_shortening.asksCreation asksDerived_sample (by decide) succeeds⟩

/-! ## Where the preview differs -/

/-- What a preview of a body shows after the candidate, the status of the response when the
candidate is created, and what the derived data has in a column then. -/
def sampleRun (body target : String) : List Json × Nat × List Json :=
  let previewed := serve sampleEngine sampleWorkspaces sampleMoment
    (samplePreview body) sampleDisk
  let created := serve sampleEngine previewed.1.2 sampleMoment
    (sampleCreation body) previewed.2
  let derived := serve sampleEngine created.1.2 sampleMoment
    sampleDerived created.2
  ((previewed.1.1.part "pairs").items.map fun pair => pair.part "after",
    created.1.1.status, (derived.1.1.part "rows").items.map fun row => row.part target)

/-- The run of a candidate without the requests and responses. -/
theorem IsCandidate.sampleRun_eq {proposal : Proposal} {body : String}
    (candidate : IsCandidate proposal body) (target : String) :
    sampleRun body target =
      (((Preview.onChain sampleEngine sampleDraws
          (sampleWorkspace.store.pipeline "people" proposal.column)
          (trialOf proposal [] samplePeople.rows)).pairs.map Pair.after).map Cell.toJson,
        201,
        ((samplePeople.derive (sampleWorkspace.store.put (samplePropose proposal)) sampleEngine
          sampleDraws).map fun row => Row.get row target).map Cell.toJson) := by
  have previewed : serve sampleEngine sampleWorkspaces sampleMoment
      (samplePreview body) sampleDisk = _ :=
    serve_preview candidate.asksPreview find?_sampleWorkspaces sampleDisk
  have created : serve sampleEngine sampleWorkspaces sampleMoment
      (sampleCreation body) sampleDisk = _ :=
    serve_creation_of_ok candidate.asksCreation find?_sampleWorkspaces candidate.inDataset
      (create_of_admitted candidate.accepted) sampleDisk
  have status := candidate.status_created sampleEngine
  have stored : (serve sampleEngine sampleWorkspaces sampleMoment
      (sampleCreation body) sampleDisk).1.2.find? "people" = some { sampleWorkspace with
          store := sampleWorkspace.store.put (samplePropose proposal) } := by
    rw [created, workspaces_commit, Keyed.find?_put]
    exact if_pos rfl
  rw [previewOf_previewBodyOf candidate.inDataset] at previewed
  simp only [sampleRun, previewed, status, serve_derived asksDerived_sample stored,
    map_after_part_pairs, items_part_rows]
  rw [List.take_of_length_le]
  · simp only [List.map_map, Function.comp_def, Row.part_toJson]
    rfl
  · rw [Store.length_derive]
    decide

/-- A proposal that reads the column before its own. -/
def copying : Proposal where
  dataset := "people"
  column := "last"
  expression := "first"

/-- The text that asks for copying. -/
def copyingBody : String :=
  "\x7b\"column\":\"last\",\"expression\":\"first\"\x7d"

theorem isCandidate_copying : IsCandidate copying copyingBody where
  preview := by decide +kernel
  creation := by decide +kernel
  inDataset := by decide
  accepted := by
    have chain : sampleWorkspace.store.chain copying.dataset copying.column = _ := chain_last
    rw [chain]
    decide
  live := rfl
  written := by decide +kernel

/-- A proposal that writes the column after its own. -/
def spilling : Proposal where
  dataset := "people"
  column := "first"
  expression := "TRIM(first)"
  output := some (.column "last")

/-- The text that asks for spilling. -/
def spillingBody : String :=
  "\x7b\"column\":\"first\",\"expression\":\"TRIM(first)\",\"output\":" ++
    "\x7b\"mode\":\"newColumn\",\"name\":\"last\"\x7d\x7d"

theorem isCandidate_spilling : IsCandidate spilling spillingBody where
  preview := by decide +kernel
  creation := by decide +kernel
  inDataset := by decide
  accepted := by
    have chain : sampleWorkspace.store.chain spilling.dataset spilling.column = _ :=
      chain_first
    rw [chain]
    decide
  live := rfl
  written := by decide +kernel

theorem pipeline_first :
    sampleWorkspace.store.pipeline "people" "first" = ⟨"first", [sampleUpper.step]⟩ := by
  rw [pipeline_eq, chain_first]
  rfl

theorem pipeline_last :
    sampleWorkspace.store.pipeline "people" "last" = ⟨"last", [sampleReverse.step]⟩ := by
  rw [pipeline_eq, chain_last]
  rfl

namespace IsCandidate

variable {proposal : Proposal} {body : String}

theorem pipeline_self (candidate : IsCandidate proposal body) :
    Store.pipeline (sampleWorkspace.store.put (samplePropose proposal)) "people"
        proposal.column =
      ⟨proposal.column, (sampleWorkspace.store.pipeline "people" proposal.column).steps ++
        [proposal.step]⟩ := by
  have created := create_of_admitted candidate.accepted
  have longer := chain_of_create created candidate.live
    (id_ne_of_mem_chain (by decide))
  rw [candidate.asksCreation.dataset] at longer
  simp only [pipeline_eq, longer, List.map_append, List.map_singleton,
    step_of_create_eq_ok created]

theorem pipeline_other (candidate : IsCandidate proposal body) {other : String}
    (different : other ≠ proposal.column) :
    Store.pipeline (sampleWorkspace.store.put (samplePropose proposal)) "people" other =
      sampleWorkspace.store.pipeline "people" other := by
  have same : Store.chain (sampleWorkspace.store.put (samplePropose proposal)) "people" other =
      sampleWorkspace.store.chain "people" other :=
    chain_of_create_of_ne (create_of_admitted candidate.accepted) (by decide) different
  simp only [pipeline_eq, same]

end IsCandidate

theorem derive_samplePeople (store : Store) (engine : Engine) (draws : Draws) :
    samplePeople.derive store engine draws =
      (store.pipeline "people" "last").apply engine (draws.under 1)
        ((store.pipeline "people" "first").apply engine (draws.under 0) samplePeople.rows) := by
  rw [Dataset.derive, columnNames_samplePeople]
  rfl

theorem sampleRun_copying :
    sampleRun copyingBody "last" = ([.text "max"], 201, [.text "MAX"]) := by
  have column : copying.column = "last" := rfl
  have self := isCandidate_copying.pipeline_self
  have other := isCandidate_copying.pipeline_other (show "first" ≠ copying.column by decide)
  rw [column, pipeline_last] at self
  have shown : (Preview.onChain sampleEngine sampleDraws ⟨"last", [sampleReverse.step]⟩
      (trialOf copying [] samplePeople.rows)).pairs.map Pair.after = [.text "max"] := by
    decide +kernel
  have derived : (Pipeline.apply ⟨"last", [sampleReverse.step, copying.step]⟩ sampleEngine
      (sampleDraws.under 1) (Pipeline.apply ⟨"first", [sampleUpper.step]⟩ sampleEngine
        (sampleDraws.under 0) samplePeople.rows)).map (fun row => Row.get row "last") =
      [.text "MAX"] := by
    decide +kernel
  rw [isCandidate_copying.sampleRun_eq, derive_samplePeople, self, other, column,
    pipeline_first, pipeline_last, shown]
  exact congrArg (fun cells => (_, _, List.map Cell.toJson cells)) derived

theorem sampleRun_spilling :
    sampleRun spillingBody "last" = ([.text "MAX"], 201, [.text "XAM"]) := by
  have column : spilling.column = "first" := rfl
  have self := isCandidate_spilling.pipeline_self
  have other := isCandidate_spilling.pipeline_other (show "last" ≠ spilling.column by decide)
  rw [column, pipeline_first] at self
  have shown : (Preview.onChain sampleEngine sampleDraws ⟨"first", [sampleUpper.step]⟩
      (trialOf spilling [] samplePeople.rows)).pairs.map Pair.after = [.text "MAX"] := by
    decide +kernel
  have derived : (Pipeline.apply ⟨"last", [sampleReverse.step]⟩ sampleEngine
      (sampleDraws.under 1) (Pipeline.apply ⟨"first", [sampleUpper.step, spilling.step]⟩
        sampleEngine (sampleDraws.under 0) samplePeople.rows)).map
          (fun row => Row.get row "last") = [.text "XAM"] := by
    decide +kernel
  rw [isCandidate_spilling.sampleRun_eq, derive_samplePeople, self, other, column,
    pipeline_first, pipeline_last, shown]
  exact congrArg (fun cells => (_, _, List.map Cell.toJson cells)) derived

/-- A preview does not show what another chain makes of the columns it reads, nor what
another chain writes over its target. -/
theorem previewed_ne_derived :
    (∀ t ∈ sampleWorkspace.store.entries, t.step.isDeterministic = true) ∧
      copying.step.isDeterministic = true ∧ spilling.step.isDeterministic = true ∧
      sampleRun copyingBody "last" = ([.text "max"], 201, [.text "MAX"]) ∧
      sampleRun spillingBody "last" = ([.text "MAX"], 201, [.text "XAM"]) :=
  ⟨by decide, by decide, by decide, sampleRun_copying, sampleRun_spilling⟩

end Service
end ColumnChain
