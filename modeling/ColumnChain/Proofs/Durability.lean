import ColumnChain.Proofs.Failing
import ColumnChain.Proofs.Opening

/-!
# What is served is on disk

As long as no file operation fails, the ledger of every workspace holds just the records
that the workspace has, after every response. A request whose response does not report
success changes neither the workspaces nor the files.
-/

namespace ColumnChain

namespace Path

/-- The stem of a file is not empty. -/
theorem ne_empty_of_stem? {path stem : String} (found : stem? path = some stem) : stem ≠ "" := by
  obtain ⟨name, named, rfl⟩ := Option.map_eq_some_iff.1 found
  have filled : name.toList ≠ [] := by
    simp only [fileName?] at named
    split at named
    next => cases named
    next noDots =>
      cases named
      rw [String.toList_ofList]
      intro empty
      simp [empty] at noDots
  rw [ne_eq, ← String.toList_inj, String.toList_ofList]
  exact splitExtension_ne_nil filled

end Path

namespace Workspace

/-- The id of the datasets whose files have a stem. -/
def idOfStem (stem : String) : String :=
  if stem = "" then "dataset" else stem

/-- A workspace is kept when its ledger holds its records. -/
structure IsKept (workspace : Workspace) (disk : Disk) : Prop where
  seated : ∃ place stem, Ledger.IsSeated disk workspace.ledger place stem ∧
    workspace.id = idOfStem stem
  stored : Ledger.found workspace.ledger (disk.lookUp workspace.ledger) = .ok workspace.store
  timed : workspace.store.IsTimed

variable {disk : Disk} {now : Instant} {path : String} {workspace : Workspace}

theorem IsOpened.id_eq (opened : IsOpened disk now path workspace) :
    workspace.id = idOfStem (Path.stemOf path) := by
  obtain ⟨bytes, read, dataset⟩ := opened.dataset
  rw [Workspace.id, Delimited.id_of_ofFile dataset, Path.stemOf]
  cases stem : Path.stem? path with
  | none => rfl
  | some name => exact (if_neg (Path.ne_empty_of_stem? stem)).symm

/-- A workspace is kept when it is opened. -/
theorem IsOpened.isKept (opened : IsOpened disk now path workspace) :
    workspace.IsKept disk := by
  obtain ⟨bytes, read, -⟩ := opened.dataset
  obtain ⟨directory, place, found, holds, -⟩ := Disk.exists_holds read
  refine ⟨⟨place, Path.stemOf path, ?_, opened.id_eq⟩, ?_, opened.isTimed⟩
  · rw [opened.ledger]
    exact holds.isSeated
  · rw [opened.ledger]
    exact opened.store

end Workspace

namespace Service

/-! ## One request -/

section Step

variable {disk : Disk} {workspaces : Workspaces} {engine : Engine} {moment : Moment}
  {request : Request} {response : Response} {later : Workspaces} {watched : Watched Disk}

/-- A request leaves all workspaces kept when no operation fails. -/
theorem isKept_of_serve (kept : ∀ workspace ∈ workspaces.entries, workspace.IsKept disk)
    (isTime : moment.now.IsTime)
    (served : serve engine workspaces moment request (⟨disk, false⟩ : Watched Disk) =
      ((response, later), watched))
    (unfailed : watched.failed = false) :
    (∀ workspace ∈ later.entries, workspace.IsKept watched.files) ∧
      (¬ response.IsSuccess → later = workspaces ∧ watched = ⟨disk, false⟩) := by
  cases comesTo_handle engine workspaces moment request with
  | unchanged other same =>
      cases served.symm.trans (same _ _)
      exact ⟨kept, fun _ => ⟨rfl, rfl⟩⟩
  | @committed workspace other call _ member made accepted succeeds same =>
      have outcome := served.symm.trans (same _ _)
      obtain ⟨⟨place, stem, seated, id⟩, stored, timed⟩ := kept workspace member
      have timedLater := timed.perform made isTime
      have saves := seated.succeeds_save timedLater isTime stored
      rw [run_commit] at outcome
      split at outcome
      next after ran =>
        cases outcome
        obtain ⟨-, -, found, changes⟩ := saves.of_run ran unfailed
        refine ⟨fun served inside => ?_, fun fails => absurd succeeds fails⟩
        rcases Keyed.mem_put.1 inside with rfl | ⟨inside, different⟩
        · exact ⟨⟨place, stem, seated.of_changes changes, id⟩, found, timedLater⟩
        · -- The ledger of a workspace with another id has another name.
          obtain ⟨⟨otherPlace, otherStem, otherSeated, otherId⟩, otherStored, otherTimed⟩ :=
            kept served inside
          have differs : otherStem ≠ stem := by
            rintro rfl
            exact different (otherId.trans id.symm)
          refine ⟨⟨otherPlace, otherStem, otherSeated.of_changes changes, otherId⟩, ?_,
            otherTimed⟩
          rw [otherSeated.lookUp_eq differs changes, otherStored]
      next fault after ran =>
        cases outcome
        obtain ⟨_, worked, -⟩ := saves.of_run ran unfailed
        cases worked

end Step

/-! ## Opening workspaces -/

/-- Ids of which none is repeated are different. -/
theorem Workspaces.nodup_of_repeated? {seen ids : List String}
    (unrepeated : repeated? seen ids = none) :
    ids.Nodup ∧ ∀ id ∈ ids, id ∉ seen := by
  induction ids generalizing seen with
  | nil => exact ⟨List.nodup_nil, List.forall_mem_nil _⟩
  | cons id ids ih =>
      rw [repeated?] at unrepeated
      split at unrepeated
      next => cases unrepeated
      next absent =>
        obtain ⟨distinct, fresh⟩ := ih unrepeated
        rw [List.contains_iff_mem] at absent
        refine ⟨List.nodup_cons.2 ⟨fun member => fresh id member List.mem_cons_self, distinct⟩, ?_⟩
        rw [List.forall_mem_cons]
        exact ⟨absent, fun other member known =>
          fresh other member (List.mem_cons_of_mem id known)⟩

/-- All workspaces of a list are served. -/
theorem Workspaces.mem_ofList {list : List Workspace} {workspaces : Workspaces}
    (gathered : ofList list = .ok workspaces) {workspace : Workspace} (member : workspace ∈ list) :
    workspace ∈ workspaces.entries := by
  simp only [ofList] at gathered
  split at gathered
  next => cases gathered
  next unrepeated =>
    cases gathered
    have distinct := (nodup_of_repeated? unrepeated).1
    have sorted := (List.mergeSort_perm list fun left right => left.id ≤ right.id).map Workspace.id
    exact (Keyed.mem_foldl_put (sorted.nodup_iff.2 distinct) _).2
      (Or.inl (List.mem_mergeSort.2 member))

section Opening

variable {disk : Disk} {now : Instant}

/-- Opening files opens each of them, and leaves the disk as it is. -/
theorem run_mapM_ofFile {paths : List String} {opened : List Workspace} {after : Disk}
    (opens : (paths.mapM (Workspace.ofFile now) :
      ExceptT Fault (StateM Disk) (List Workspace)).run.run disk = (.ok opened, after)) :
    (∀ workspace ∈ opened, ∃ path, workspace.IsOpened disk now path) ∧
      (∀ path ∈ paths, ∃ workspace ∈ opened, workspace.IsOpened disk now path) ∧
      after = disk := by
  induction paths generalizing opened after with
  | nil =>
      cases opens
      exact ⟨List.forall_mem_nil _, List.forall_mem_nil _, rfl⟩
  | cons path paths ih =>
      rw [List.mapM_cons] at opens
      obtain ⟨workspace, between, opensFirst, opensRest⟩ := run_bind_eq_ok.1 opens
      obtain ⟨first, rfl⟩ := Workspace.run_ofFile opensFirst
      obtain ⟨others, later, opensOthers, complete⟩ := run_bind_eq_ok.1 opensRest
      obtain ⟨rest, all, rfl⟩ := ih opensOthers
      cases complete
      refine ⟨List.forall_mem_cons.2 ⟨⟨path, first⟩, rest⟩, List.forall_mem_cons.2 ⟨?_, ?_⟩, rfl⟩
      · exact ⟨workspace, List.mem_cons_self, first⟩
      · intro other listed
        obtain ⟨found, member, isOpened⟩ := all other listed
        exact ⟨found, List.mem_cons_of_mem workspace member, isOpened⟩

/-- All workspaces are kept when they are opened. -/
theorem isKept_of_ofFiles {paths : List String} {workspaces : Workspaces} {after : Disk}
    (opens : (Workspaces.ofFiles now paths :
      ExceptT Fault (StateM Disk) Workspaces).run.run disk = (.ok workspaces, after)) :
    (∀ workspace ∈ workspaces.entries, workspace.IsKept disk) ∧ after = disk := by
  obtain ⟨opened, between, opensAll, gathered⟩ := run_bind_eq_ok.1 opens
  obtain ⟨each, -, rfl⟩ := run_mapM_ofFile opensAll
  obtain ⟨gathered, rfl⟩ : Workspaces.ofList opened = .ok workspaces ∧ between = after :=
    Prod.mk.inj gathered
  refine ⟨fun workspace member => ?_, rfl⟩
  simp only [Workspaces.ofList] at gathered
  split at gathered
  next => cases gathered
  next =>
    cases gathered
    rcases Keyed.mem_of_mem_foldl_put member with none | inside
    · cases none
    · obtain ⟨path, isOpened⟩ := each workspace (List.mem_mergeSort.1 inside)
      exact isOpened.isKept

/-- The workspace that is served under the id of a file is the one of the file. -/
theorem isOpened_of_ofFiles {paths : List String} {path : String} {after : Disk}
    {workspaces : Workspaces} {workspace : Workspace}
    (opens : (Workspaces.ofFiles now paths :
      ExceptT Fault (StateM Disk) Workspaces).run.run disk = (.ok workspaces, after))
    (listed : path ∈ paths)
    (stored : workspaces.find? (Workspace.idOfStem (Path.stemOf path)) = some workspace) :
    workspace.IsOpened disk now path := by
  obtain ⟨opened, between, opensAll, gathered⟩ := run_bind_eq_ok.1 opens
  obtain ⟨gathered, -⟩ : Workspaces.ofList opened = .ok workspaces ∧ between = after :=
    Prod.mk.inj gathered
  obtain ⟨-, each, -⟩ := run_mapM_ofFile opensAll
  obtain ⟨other, member, isOpened⟩ := each path listed
  obtain ⟨inEntries, sameId⟩ := Keyed.find?_eq_some_iff.1 stored
  have same := workspaces.eq_of_key_eq inEntries (Workspaces.mem_ofList gathered member)
    (sameId.trans isOpened.id_eq.symm)
  exact same ▸ isOpened

end Opening

/-! ## Requests one after the other -/

/-- A request, when it comes, and the engine that it is answered with. -/
structure Arrival where
  engine : Engine
  moment : Moment
  request : Request

/-- What there was before a request, the response, and what there was afterwards. -/
structure Exchange (σ : Type) where
  workspaces : Workspaces
  files : σ
  response : Response
  workspacesAfter : Workspaces
  filesAfter : σ

/-- The exchanges when requests come one after the other. -/
def exchanges {σ : Type} [Files (StateM σ)] (workspaces : Workspaces) (files : σ) :
    List Arrival → List (Exchange σ)
  | [] => []
  | arrival :: rest =>
      let ((response, workspacesAfter), filesAfter) :=
        serve arrival.engine workspaces arrival.moment arrival.request files
      ⟨workspaces, files, response, workspacesAfter, filesAfter⟩ ::
        exchanges workspacesAfter filesAfter rest

/-- Workspaces that are kept stay kept over requests. -/
theorem isKept_of_mem_exchanges {disk : Disk} {workspaces : Workspaces}
    {arrivals : List Arrival} (kept : ∀ workspace ∈ workspaces.entries, workspace.IsKept disk)
    (times : ∀ arrival ∈ arrivals, arrival.moment.now.IsTime)
    (unfailed : ∀ exchange ∈ exchanges workspaces (⟨disk, false⟩ : Watched Disk) arrivals,
      exchange.filesAfter.failed = false) :
    ∀ exchange ∈ exchanges workspaces (⟨disk, false⟩ : Watched Disk) arrivals,
      (∀ workspace ∈ exchange.workspacesAfter.entries,
        workspace.IsKept exchange.filesAfter.files) ∧
      (¬ exchange.response.IsSuccess → exchange.workspacesAfter = exchange.workspaces ∧
        exchange.filesAfter = exchange.files) := by
  induction arrivals generalizing disk workspaces with
  | nil => exact fun exchange member => nomatch member
  | cons arrival arrivals ih =>
      rw [List.forall_mem_cons] at times
      obtain ⟨response, later, ⟨after, failed⟩, served⟩ : ∃ response later after,
          serve arrival.engine workspaces arrival.moment arrival.request
            (⟨disk, false⟩ : Watched Disk) = ((response, later), after) := ⟨_, _, _, rfl⟩
      simp only [exchanges, served] at unfailed ⊢
      rw [List.forall_mem_cons] at unfailed ⊢
      obtain ⟨first, rest⟩ := unfailed
      dsimp only at first
      subst first
      have step := isKept_of_serve kept times.1 served rfl
      exact ⟨step, ih step.1 times.2 rest⟩

/-- When no file operation fails, the ledger of each workspace holds just its records after
every response, and a response that does not report success changes nothing. -/
theorem loaded_after_responses {disk opened : Disk} {now : Instant} {paths : List String}
    {workspaces : Workspaces} {arrivals : List Arrival}
    (opens : (Workspaces.ofFiles now paths :
      ExceptT Fault (StateM Disk) Workspaces).run.run disk = (.ok workspaces, opened))
    (times : ∀ arrival ∈ arrivals, arrival.moment.now.IsTime)
    (unfailed : ∀ exchange ∈ exchanges workspaces (⟨opened, false⟩ : Watched Disk) arrivals,
      exchange.filesAfter.failed = false) :
    ∀ exchange ∈ exchanges workspaces (⟨opened, false⟩ : Watched Disk) arrivals,
      (∀ workspace ∈ exchange.workspacesAfter.entries,
        ((Store.loadOrEmpty workspace.ledger : ExceptT Fault (StateM Disk) Store).run.run
          exchange.filesAfter.files).1 = .ok workspace.store) ∧
      (¬ exchange.response.IsSuccess → exchange.workspacesAfter = exchange.workspaces ∧
        exchange.filesAfter = exchange.files) := by
  obtain ⟨kept, rfl⟩ := isKept_of_ofFiles opens
  intro exchange member
  obtain ⟨keptAfter, unchanged⟩ := isKept_of_mem_exchanges kept times unfailed exchange member
  refine ⟨fun workspace inside => ?_, unchanged⟩
  rw [Ledger.run_loadOrEmpty]
  exact (keptAfter workspace inside).stored

/-! ## A change that is accepted and one that is not -/

/-- The workspaces of a data file. -/
def peopleWorkspaces : Workspaces :=
  ((Workspaces.ofFiles default ["people.csv"] : ExceptT Fault (StateM Disk) Workspaces).run.run
    Workspace.peopleDisk).1.toOption.getD Keyed.empty

theorem opens_peopleWorkspaces :
    (Workspaces.ofFiles default ["people.csv"] :
      ExceptT Fault (StateM Disk) Workspaces).run.run Workspace.peopleDisk =
        (.ok peopleWorkspaces, Workspace.peopleDisk) := by
  have opens : (Workspaces.ofFiles default ["people.csv"] :
      ExceptT Fault (StateM Disk) Workspaces).run.run Workspace.peopleDisk =
        (.ok peopleWorkspaces, _) := run_eq_ok_getD (by decide +kernel) _
  exact opens.trans (congrArg (Prod.mk _) (isKept_of_ofFiles opens).2)

/-- Two requests that attach the same expression to the same column. -/
def peopleArrivals : List Arrival :=
  [⟨Store.sampleEngine, sampleMoment, sampleCreation shorteningBody⟩,
    ⟨Store.sampleEngine, { sampleMoment with token := fun _ => 1 },
      sampleCreation shorteningBody⟩]

/-- The first of the requests is accepted, the second is not. -/
theorem loaded_after_people_responses :
    let happened := exchanges peopleWorkspaces (⟨Workspace.peopleDisk, false⟩ : Watched Disk)
      peopleArrivals
    happened.map (fun exchange => exchange.response.status) = [201, 409] ∧
      ∀ exchange ∈ happened, (∀ workspace ∈ exchange.workspacesAfter.entries,
        ((Store.loadOrEmpty workspace.ledger : ExceptT Fault (StateM Disk) Store).run.run
          exchange.filesAfter.files).1 = .ok workspace.store) ∧
      (¬ exchange.response.IsSuccess → exchange.workspacesAfter = exchange.workspaces ∧
        exchange.filesAfter = exchange.files) :=
  ⟨by decide +kernel, loaded_after_responses opens_peopleWorkspaces (by decide +kernel)
    (by decide +kernel)⟩

end Service
end ColumnChain
