import ColumnChain.CommandLine.Running
import ColumnChain.Proofs.Calls
import ColumnChain.Proofs.Opening

/-!
# One process after the other

A process opens a data file with its ledger, does one thing and saves. When no file
operation fails, processes that run one after the other do what one store in memory does
when it is changed by the same calls.
-/

namespace ColumnChain

namespace Disk

/-- Two paths lead to the same file, and they end in the same name. -/
def IsSameFile (disk : Disk) (path other : String) : Prop :=
  other = path ∨ Path.fileName? path ≠ none ∧ Path.fileName? other = Path.fileName? path ∧
    disk.locate other = disk.locate path

variable {disk after : Disk} {path other : String} {place : Place} {places : Set Place}

theorem IsSameFile.of_changes (same : disk.IsSameFile path other)
    (located : disk.locate path = .ok place) (changes : Changes places disk after) :
    after.IsSameFile path other := by
  refine same.imp_right fun ⟨named, names, locates⟩ => ⟨named, names, ?_⟩
  rw [changes.locate_eq_ok located, changes.locate_eq_ok (locates.trans located)]

end Disk

namespace Disk.Holds

variable {disk : Disk} {path other directory : String} {place found : Place} {bytes : Bytes}

/-- Another path of the same file leads to it by way of the same directory. -/
theorem of_isSameFile (holds : disk.Holds path directory place found)
    (file : disk.at? found = some (.file bytes)) (same : disk.IsSameFile path other) :
    ∃ way, disk.Holds other way place found := by
  rcases same with rfl | ⟨named, names, locates⟩
  · exact ⟨directory, holds⟩
  have located := locates.trans holds.located
  obtain ⟨way, otherPlace, otherFound, otherHolds, -⟩ :=
    exists_holds (read_eq_ok.2 ⟨found, located, file⟩)
  obtain rfl : found = otherFound := Except.ok.inj (located.symm.trans otherHolds.located)
  rcases holds.named with ⟨name, hasName, isName, here⟩ | ⟨unnamed, -⟩
  · rcases otherHolds.named with ⟨otherName, otherHasName, -, there⟩ | ⟨unnamed, -⟩
    · have places : place = otherPlace := by
        rw [here] at there
        exact (List.append_inj' there rfl).1
      exact ⟨way, places ▸ otherHolds⟩
    · rw [names] at unnamed
      exact absurd unnamed named
  · exact absurd unnamed named

end Disk.Holds

namespace Workspace

variable {disk after : Disk} {path other : String} {now later : Instant} {workspace : Workspace}

/-- A workspace as it is opened by another path of its file. -/
def byPath (workspace : Workspace) (path : String) (source : Option Source) : Workspace :=
  { workspace with
    dataset := { workspace.dataset with source }
    ledger := Ledger.pathFor path }

@[simp] theorem byPath_store (source : Option Source) :
    (workspace.byPath path source).store = workspace.store := by
  rw [byPath]

@[simp] theorem byPath_ledger (source : Option Source) :
    (workspace.byPath path source).ledger = Ledger.pathFor path := by
  rw [byPath]

/-- Where the files of a workspace are that is opened by one path of its data file and can be
opened by another. -/
structure IsPlaced (disk : Disk) (now : Instant) (path other : String) (workspace : Workspace)
    (place found : Place) (bytes : Bytes) : Prop where
  located : disk.locate path = .ok found
  otherLocated : disk.locate other = .ok found
  file : disk.at? found = some (.file bytes)
  dataset : Delimited.ofFile {} path bytes now = .ok workspace.dataset
  untouched : found ∉ Store.touched place (Path.stemOf path)
  stems : Path.stem? other = Path.stem? path
  ledger : Ledger.IsSeated disk (Ledger.pathFor path) place (Path.stemOf path)
  otherLedger : Ledger.IsSeated disk (Ledger.pathFor other) place (Path.stemOf path)

namespace IsOpened

theorem exists_isPlaced (opened : IsOpened disk now path workspace)
    (same : disk.IsSameFile path other) :
    ∃ place found bytes, IsPlaced disk now path other workspace place found bytes := by
  obtain ⟨bytes, read, dataset⟩ := opened.dataset
  obtain ⟨directory, place, found, holds, file⟩ := Disk.exists_holds read
  obtain ⟨way, otherHolds⟩ := holds.of_isSameFile file same
  have stems : Path.stem? other = Path.stem? path := by
    rcases same with rfl | ⟨-, names, -⟩
    · rfl
    · rw [Path.stem?, names, Path.stem?]
  have otherLedger := otherHolds.isSeated
  rw [Path.stemOf, stems] at otherLedger
  exact ⟨place, found, bytes, holds.located, otherHolds.located, file, dataset,
    holds.not_mem_touched, stems, holds.isSeated, otherLedger⟩

/-- A workspace is opened by any path of its file, at any time. -/
theorem of_isSameFile (opened : IsOpened disk now path workspace)
    (same : disk.IsSameFile path other) (later : Instant) :
    ∃ source, IsOpened disk later other (workspace.byPath other source) := by
  obtain ⟨place, found, bytes, placed⟩ := opened.exists_isPlaced same
  obtain ⟨source, loaded⟩ := Delimited.exists_ofFile placed.stems placed.dataset
  have read := Disk.read_eq_ok.2 ⟨found, placed.otherLocated, placed.file⟩
  refine ⟨source, ⟨bytes, read, loaded⟩, by simp, ?_⟩
  rw [byPath_store]
  exact placed.ledger.found_eq_ok placed.otherLedger rfl opened.store

/-- What is saved by any path of a file is opened again. -/
theorem succeeds_save {source : Option Source} {store : Store}
    (opened : IsOpened disk now path workspace) (same : disk.IsSameFile path other)
    (timed : store.IsTimed) (isTime : later.IsTime) :
    Watched.Succeeds (Workspace.save { workspace.byPath other source with store } later) disk
      fun _ after => IsOpened after now path { workspace with store } ∧
        ∃ places, Disk.Changes places disk after := by
  obtain ⟨place, found, bytes, placed⟩ := opened.exists_isPlaced same
  have readable := placed.ledger.found_eq_ok placed.otherLedger rfl opened.store
  have saves : Watched.Succeeds (store.saveWithHistory (Ledger.pathFor other) later) disk _ :=
    placed.otherLedger.succeeds_save timed isTime readable
  rw [Workspace.save]
  dsimp only
  rw [byPath_ledger]
  refine saves.mono ?_
  rintro _ after ⟨saved, changes⟩
  have kept : after.at? found = some (.file bytes) := by
    rw [changes.elsewhere found placed.untouched, placed.file]
  refine ⟨⟨⟨bytes, ?_, placed.dataset⟩, opened.ledger, ?_⟩, _, changes⟩
  · exact Disk.read_eq_ok.2 ⟨found, changes.locate_eq_ok placed.located, kept⟩
  · exact (placed.otherLedger.of_changes changes).found_eq_ok (placed.ledger.of_changes changes)
      rfl saved

end IsOpened
end Workspace

namespace CommandLine

/-! ## Commands that change a data file -/

/-- The data file that a command changes, if it changes one. -/
def Command.changedFile? : Command → Option String
  | .add file .. | .reorder file _ _ | .remove file _ _ | .cleanup file => some file
  | .functions .. | .preview .. | .list .. | .apply .. | .serve .. => none

/-- The call that a command makes on the store of a dataset. It makes none for a column that
the dataset does not have. -/
def Command.call? (dataset : Dataset) (moment : Moment) : Command → Option Store.Operation
  | .add _ column expression into draft =>
      if dataset.hasColumn column then
        some (.create {
          dataset := dataset.id
          column
          expression
          status := if draft then some .draft else none
          output := into.map Output.column } (Transformation.freshId moment.token) moment.now)
      else none
  | .reorder _ column ids => some (.reorder dataset.id column ids moment.now)
  | .remove _ id hard => some (.delete id (if hard then .hard else .soft) moment.now)
  | .cleanup _ => some (.cleanup dataset.id)
  | .functions .. | .preview .. | .list .. | .apply .. | .serve .. => none

/-- There is no call, or it ends in a fault. -/
def IsRefused (store : Store) (call : Option Store.Operation) : Prop :=
  ∀ made ∈ call, made.fault? store ≠ none

/-- The store after a call, if there is one. -/
def afterCall (store : Store) (call : Option Store.Operation) : Store :=
  match call with
  | some made => made.perform store
  | none => store

/-- Work on a data file ends as a call on its store does. -/
structure Matches {α : Type} (workspace : Workspace) (now : Instant) (path : String)
    (before : Disk) (call : Option Store.Operation) (ended : Except Failure α)
    (after : Disk) : Prop where
  opened : Workspace.IsOpened after now path
    { workspace with store := afterCall workspace.store call }
  changes : ∃ places, Disk.Changes places before after
  refused : IsRefused workspace.store call → (∃ failure, ended = .error failure) ∧ after = before
  accepted : ¬ IsRefused workspace.store call → ∃ value, ended = .ok value

theorem Matches.map {α β : Type} {workspace : Workspace} {now : Instant} {path : String}
    {before after : Disk} {call : Option Store.Operation} {ended : Except Failure α}
    (matched : Matches workspace now path before call ended after) (f : α → β) :
    Matches workspace now path before call (ended.map f) after where
  opened := matched.opened
  changes := matched.changes
  refused refused := by
    obtain ⟨⟨failure, rfl⟩, same⟩ := matched.refused refused
    exact ⟨⟨failure, rfl⟩, same⟩
  accepted accepted := by
    obtain ⟨value, rfl⟩ := matched.accepted accepted
    exact ⟨f value, rfl⟩

section Steps

variable {α : Type} {disk : Disk} {path other : String} {now later : Instant}
  {workspace : Workspace} {source : Option Source}

theorem succeeds_orFail {work : ExceptT Fault (StateM (Watched Disk)) α}
    {result : α → Disk → Prop} (succeeds : Watched.Succeeds work disk result) :
    Watched.Succeeds (orFail work) disk result := by
  rcases succeeds with ⟨fault, after, failed⟩ | ⟨_, after, worked, value, rfl, holds⟩
  · refine Or.inl ⟨.fault fault, after, ?_⟩
    rw [orFail, ExceptT.run_mk, StateT.run_bind, failed]
    rfl
  · refine Or.inr ⟨.ok value, after, ?_, value, rfl, holds⟩
    rw [orFail, ExceptT.run_mk, StateT.run_bind, worked]
    rfl

theorem run_orFail_eq_ok {σ : Type} {work : ExceptT Fault (StateM σ) α} {state after : σ}
    {value : α} : (orFail work).run.run state = (.ok value, after) ↔
      work.run.run state = (.ok value, after) := by
  obtain ⟨ended, between, run⟩ : ∃ ended between, work.run.run state = (ended, between) :=
    ⟨_, _, rfl⟩
  rw [orFail, ExceptT.run_mk, StateT.run_bind, run]
  cases ended <;> constructor <;> intro same <;> cases same <;> rfl

theorem succeeds_openFile (opened : Workspace.IsOpened disk now path workspace)
    (same : disk.IsSameFile path other) (later : Instant) :
    Watched.Succeeds (openFile other later) disk fun found after =>
      (∃ source, found = workspace.byPath other source) ∧ after = disk := by
  obtain ⟨source, openedBy⟩ := opened.of_isSameFile same later
  obtain ⟨place, found, bytes, placed⟩ := opened.exists_isPlaced same
  refine Watched.Succeeds.bind (Watched.succeeds_quietly
    (fun present after => present = true ∧ after = disk) ⟨?_, rfl⟩) ?_
  · change (disk.lookUp other).toBool = true
    have looked : disk.lookUp other = .ok (.file bytes) := by
      simp only [Disk.lookUp, placed.otherLocated, bind, Except.bind, placed.file]
      rfl
    rw [looked]
    rfl
  · rintro _ _ ⟨rfl, rfl⟩
    refine (succeeds_orFail (Workspace.succeeds_ofFile openedBy)).mono ?_
    rintro _ _ ⟨rfl, rfl⟩
    exact ⟨⟨source, rfl⟩, rfl⟩

theorem Matches.of_refused {call : Option Store.Operation} {failure : Failure}
    (opened : Workspace.IsOpened disk now path workspace)
    (refused : IsRefused workspace.store call)
    (kept : afterCall workspace.store call = workspace.store) :
    Matches workspace now path disk call (.error failure : Except Failure α) disk where
  opened := by
    rw [kept]
    exact opened
  changes := ⟨∅, .refl _ disk⟩
  refused := fun _ => ⟨⟨failure, rfl⟩, rfl⟩
  accepted := fun accepted => absurd refused accepted

theorem check_ok {σ : Type} (value : α) :
    (check (.ok value) : ExceptT Failure (StateM σ) α) = pure value :=
  ExceptT.ext (StateT.ext fun _ => rfl)

theorem check_error {σ : Type} (cause : Fault) :
    (check (.error cause) : ExceptT Failure (StateM σ) α) = throw (.fault cause) :=
  ExceptT.ext (StateT.ext fun _ => rfl)

variable (opened : Workspace.IsOpened disk now path workspace) (same : disk.IsSameFile path other)
  (isTime : later.IsTime)

include opened same isTime

/-- A store that is committed is opened again. -/
theorem ends_commit {store : Store} (timed : store.IsTimed)
    {result : Except Failure α → Disk → Prop}
    {next : Unit → ExceptT Failure (StateM (Watched Disk)) α}
    (rest : ∀ after, Workspace.IsOpened after now path { workspace with store } →
      (∃ places, Disk.Changes places disk after) → Watched.Ends (next ()) after result) :
    Watched.Ends (commit (workspace.byPath other source) store later >>= next) disk result := by
  refine Watched.Succeeds.bind (succeeds_orFail (opened.succeeds_save same timed isTime)) ?_
  rintro ⟨⟩ after ⟨saved, changes⟩
  exact rest after saved changes

/-- A call whose outcome is checked before the store is committed. -/
theorem ends_check {β : Type} (call : Store.Operation) (made : call.IsAt later)
    (bounded : (call.perform workspace.store).IsBounded) {answer : Except Fault α}
    {changed : Store}
    (fault : Store.Outcome.fault? (answer, changed) = call.fault? workspace.store)
    (performed : changed = call.perform workspace.store) (report : α → β) :
    Watched.Ends (do
        let value ← check answer
        commit (workspace.byPath other source) changed later
        return report value) disk
      (Matches workspace now path disk (some call)) := by
  cases answer with
  | error cause =>
      have kept : call.perform workspace.store = workspace.store :=
        (Store.perform_of_fault fault.symm).resolve_right fun ⟨_, unbounded⟩ =>
          unbounded bounded
      have refused : IsRefused workspace.store (some call) := by
        rintro _ ⟨⟩
        rw [← fault]
        exact Option.some_ne_none cause
      rw [check_error]
      exact Watched.ends_throw_bind (.of_refused opened refused kept)
  | ok value =>
      have accepted : ¬ IsRefused workspace.store (some call) := fun refused =>
        refused call rfl fault.symm
      subst performed
      rw [check_ok, pure_bind]
      exact ends_commit opened same isTime (opened.isTimed.perform made isTime)
        fun after saved changes => Watched.ends_pure
          ⟨saved, changes, fun refused => absurd refused accepted, fun _ => ⟨report value, rfl⟩⟩

end Steps

section Commands

/-- The report of a command is its outcome, and the program ends with the code 0. -/
theorem ends_finish {disk : Disk} {workspace : Workspace} {now : Instant} {path : String}
    {call : Option Store.Operation}
    {report : ExceptT Failure (StateM (Watched Disk)) (List String)}
    (ends : Watched.Ends report disk (Matches workspace now path disk call)) :
    Watched.Ends (Command.run.finish report) disk fun ended after =>
      Matches workspace now path disk call ended after ∧
        ∀ outcome, ended = .ok outcome → outcome.code = 0 := by
  refine ends.map fun ended after matched => ⟨matched.map _, ?_⟩
  rintro outcome finished
  cases ended with
  | error failure => cases finished
  | ok lines =>
      cases finished
      rfl

variable {disk : Disk} {path file : String} {now : Instant} {workspace : Workspace}
  {moment : Moment} (opened : Workspace.IsOpened disk now path workspace)
  (same : disk.IsSameFile path file) (isTime : moment.now.IsTime)

include opened same isTime

theorem ends_add {column expression : String} {into : Option String} {draft : Bool}
    (bounded : (afterCall workspace.store (Command.call? workspace.dataset moment
      (.add file column expression into draft))).IsBounded) :
    Watched.Ends (add moment file column expression into draft) disk
      (Matches workspace now path disk (Command.call? workspace.dataset moment
        (.add file column expression into draft))) := by
  simp only [add, openColumn, bind_assoc]
  refine (succeeds_openFile opened same moment.now).bind ?_
  rintro _ _ ⟨⟨source, rfl⟩, rfl⟩
  by_cases present : workspace.dataset.hasColumn column = true
  · simp only [Command.call?, if_pos present] at bounded ⊢
    have there : (workspace.byPath file source).dataset.hasColumn column = true := present
    rw [if_pos there, pure_bind]
    exact ends_check opened same isTime (.create _ _ moment.now) rfl bounded rfl rfl _
  · simp only [Command.call?, if_neg present]
    have absent : ¬ (workspace.byPath file source).dataset.hasColumn column = true := present
    rw [if_neg absent]
    exact Watched.ends_throw_bind (.of_refused opened (fun _ impossible => nomatch impossible) rfl)

theorem ends_reorder {column : String} {ids : List String}
    (bounded : (afterCall workspace.store (Command.call? workspace.dataset moment
      (.reorder file column ids))).IsBounded) :
    Watched.Ends (reorder moment file column ids) disk
      (Matches workspace now path disk (Command.call? workspace.dataset moment
        (.reorder file column ids))) := by
  refine (succeeds_openFile opened same moment.now).bind ?_
  rintro _ _ ⟨⟨source, rfl⟩, rfl⟩
  exact ends_check opened same isTime (.reorder _ column ids moment.now) rfl bounded rfl rfl _

theorem ends_remove {id : String} {hard : Bool}
    (bounded : (afterCall workspace.store (Command.call? workspace.dataset moment
      (.remove file id hard))).IsBounded) :
    Watched.Ends (remove moment file id hard) disk
      (Matches workspace now path disk (Command.call? workspace.dataset moment
        (.remove file id hard))) := by
  refine (succeeds_openFile opened same moment.now).bind ?_
  rintro _ _ ⟨⟨source, rfl⟩, rfl⟩
  exact ends_check opened same isTime (.delete id _ moment.now) rfl bounded rfl rfl _

/-- A cleanup that removes nothing does not save, and nothing has to be saved. -/
theorem ends_cleanup :
    Watched.Ends (cleanup moment file) disk
      (Matches workspace now path disk (Command.call? workspace.dataset moment
        (.cleanup file))) := by
  have accepted : ¬ IsRefused workspace.store (some (.cleanup workspace.dataset.id)) :=
    fun refused => refused _ rfl rfl
  refine (succeeds_openFile opened same moment.now).bind ?_
  rintro _ _ ⟨⟨source, rfl⟩, rfl⟩
  have cleaned : (workspace.byPath file source).store.cleanup (workspace.byPath file source).id =
      workspace.store.cleanup workspace.dataset.id := rfl
  simp only [cleaned]
  split
  next =>
    have timed := (opened.isTimed.perform trivial isTime :
      Store.IsTimed (Store.Operation.perform workspace.store (.cleanup workspace.dataset.id)))
    exact ends_commit opened same isTime timed fun after saved changes => Watched.ends_pure
      ⟨saved, changes, fun refused => absurd refused accepted, fun _ => ⟨_, rfl⟩⟩
  next unsaved =>
    have kept := Store.snd_cleanup_of_fst (Decidable.not_not.1 unsaved)
    refine Watched.ends_pure ⟨?_, ⟨∅, .refl _ _⟩, fun refused => absurd refused accepted,
      fun _ => ⟨_, rfl⟩⟩
    simp only [Command.call?, afterCall, Store.Operation.perform, kept]
    exact opened

/-- A command that changes a data file ends as its call does. -/
theorem Command.ends_run {command : Command} {engine : Engine} {verbose : Bool}
    (changes : command.changedFile? = some file)
    (bounded : (afterCall workspace.store (command.call? workspace.dataset moment)).IsBounded) :
    Watched.Ends (command.run engine moment verbose) disk fun ended after =>
      Matches workspace now path disk (command.call? workspace.dataset moment) ended after ∧
        ∀ outcome, ended = .ok outcome → outcome.code = 0 := by
  cases command <;> simp only [changedFile?, Option.some.injEq, reduceCtorEq] at changes <;>
    subst changes
  case add => exact ends_finish (ends_add opened same isTime bounded)
  case reorder => exact ends_finish (ends_reorder opened same isTime bounded)
  case remove => exact ends_finish (ends_remove opened same isTime bounded)
  case cleanup => exact ends_finish (ends_cleanup opened same isTime)

end Commands

/-! ## Settings -/

/-- Settings that are read leave the files as they are. -/
theorem succeeds_loadSettings {invocation : Invocation} {settings : Settings}
    {disk after : Disk}
    (loads : (invocation.loadSettings : ExceptT Failure (StateM Disk) Settings).run.run disk =
      (.ok settings, after)) :
    Watched.Succeeds invocation.loadSettings disk fun _ after => after = disk := by
  simp only [Invocation.loadSettings] at loads ⊢
  split
  next => exact Watched.succeeds_pure rfl
  next path given =>
    rw [given] at loads
    obtain ⟨result, between, read, interpreted⟩ := run_bind_eq_ok.1 (run_orFail_eq_ok.1 loads)
    obtain ⟨content, rfl⟩ : Except.ok (disk.read path) = Except.ok result ∧ disk = between :=
      Prod.mk.inj read
    cases content
    cases content : disk.read path with
    | error error =>
        rw [content] at interpreted
        cases error <;> cases interpreted
    | ok bytes =>
        rw [content] at interpreted
        obtain ⟨decoded, -⟩ : Settings.decode bytes = .ok settings ∧ disk = after :=
          Prod.mk.inj interpreted
        have noted : (liftM (Files.read path : StateM (Watched Disk) (Except DiskError Bytes)) :
            ExceptT Fault (StateM (Watched Disk)) (Except DiskError Bytes)).run.run ⟨disk, false⟩ =
              (.ok (.ok bytes), ⟨disk, false⟩) :=
          run_liftM (Watched.run_noting (Disk.run_read content))
        refine succeeds_orFail (Or.inr ⟨.ok settings, disk, ?_, settings, rfl, rfl⟩)
        rw [Settings.load, run_bind_of_ok noted, ← decoded]
        rfl

/-! ## Processes -/

/-- A command line, and what its process finds. -/
structure Launch where
  line : List String
  moment : Moment
  workers : Nat

namespace Launch

/-- What the line calls for. -/
def invocation? (launch : Launch) : Option Invocation :=
  Invocation.ofWords? launch.line

/-- The call that the process makes on the store of a dataset. -/
def call? (dataset : Dataset) (launch : Launch) : Option Store.Operation :=
  launch.invocation?.bind fun invocation => invocation.command.call? dataset launch.moment

/-- The line calls for a command that changes the data file at a path. -/
def Changes (launch : Launch) (disk : Disk) (path : String) : Prop :=
  ∃ invocation file, launch.invocation? = some invocation ∧
    invocation.command.changedFile? = some file ∧ disk.IsSameFile path file

/-- The settings that the line names can be used. -/
def HasSettings (launch : Launch) (disk : Disk) : Prop :=
  ∀ invocation ∈ launch.invocation?, ∃ settings after,
    (invocation.loadSettings : ExceptT Failure (StateM Disk) Settings).run.run disk =
      (.ok settings, after)

/-- The process of a command line. -/
def process {σ : Type} [Files (StateM σ)] (launch : Launch) : StateM σ Outcome :=
  run launch.line launch.moment launch.workers

end Launch

/-- What a process found, how it ended and what it left. -/
structure Completed (σ : Type) where
  launch : Launch
  files : σ
  outcome : Outcome
  filesAfter : σ

/-- The processes that run one after the other. -/
def processes {σ : Type} [Files (StateM σ)] (files : σ) : List Launch → List (Completed σ)
  | [] => []
  | launch :: rest =>
      let (outcome, filesAfter) := launch.process.run files
      ⟨launch, files, outcome, filesAfter⟩ :: processes filesAfter rest

/-- The store before each of the calls that are made on a dataset, with the call. -/
def sequence (dataset : Dataset) (store : Store) :
    List Launch → List (Store × Option Store.Operation)
  | [] => []
  | launch :: rest =>
      (store, launch.call? dataset) ::
        sequence dataset (afterCall store (launch.call? dataset)) rest

section Processes

variable {disk : Disk} {path : String} {now : Instant} {workspace : Workspace}

theorem code_failed_ne_zero (report : List String) (failure : Failure) :
    (Outcome.finished report (some failure)).code ≠ 0 := by
  rw [Outcome.code]
  split <;> decide

/-- A process in which nothing fails does what its call does. -/
theorem matches_of_run {launch : Launch} {outcome : Outcome} {watched : Watched Disk}
    (opened : Workspace.IsOpened disk now path workspace)
    (changes : launch.Changes disk path) (settings : launch.HasSettings disk)
    (isTime : launch.moment.now.IsTime)
    (bounded : (afterCall workspace.store (launch.call? workspace.dataset)).IsBounded)
    (ran : launch.process.run (⟨disk, false⟩ : Watched Disk) = (outcome, watched))
    (unfailed : watched.failed = false) :
    ∃ ended : Except Failure Outcome,
      Matches workspace now path disk (launch.call? workspace.dataset) ended watched.files ∧
        (outcome.code ≠ 0 ↔ ∃ failure, ended = .error failure) := by
  obtain ⟨invocation, file, reads, changed, same⟩ := changes
  obtain ⟨loaded, after, loads⟩ := settings invocation reads
  simp only [Launch.call?, reads, Option.bind_some] at bounded ⊢
  have ends : Watched.Ends (invocation.run launch.moment launch.workers) disk
      fun ended after => Matches workspace now path disk
        (invocation.command.call? workspace.dataset launch.moment) ended after ∧
          ∀ outcome, ended = .ok outcome → outcome.code = 0 := by
    refine (succeeds_loadSettings loads).bind ?_
    rintro settings _ rfl
    exact Command.ends_run opened same isTime changed bounded
  obtain ⟨ended, between, ranInvocation⟩ : ∃ ended between,
      (invocation.run launch.moment launch.workers :
        ExceptT Failure (StateM (Watched Disk)) Outcome).run.run ⟨disk, false⟩ =
          (ended, between) := ⟨_, _, rfl⟩
  simp only [Launch.invocation?] at reads
  simp only [Launch.process, run, reads, StateT.run_bind, ranInvocation] at ran
  cases ended with
  | error failure =>
      cases ran
      obtain ⟨matched, -⟩ := ends.of_run ranInvocation unfailed
      exact ⟨_, matched, fun _ => ⟨failure, rfl⟩, fun _ => code_failed_ne_zero [] failure⟩
  | ok value =>
      cases ran
      obtain ⟨matched, succeeds⟩ := ends.of_run ranInvocation unfailed
      refine ⟨_, matched, fun fails => absurd (succeeds _ rfl) fails, ?_⟩
      rintro ⟨failure, impossible⟩
      cases impossible

/-- What holds of a process and of the call that is made in its place. -/
structure Simulates (path : String) (process : Completed (Watched Disk))
    (made : Store × Option Store.Operation) : Prop where
  loads : ((Store.loadOrEmpty (Ledger.pathFor path) : ExceptT Fault (StateM Disk) Store).run.run
    process.filesAfter.files).1 = .ok (afterCall made.1 made.2)
  fails : process.outcome.code ≠ 0 ↔ IsRefused made.1 made.2
  unchanged : process.outcome.code ≠ 0 → process.filesAfter = process.files

/-- A process whose work ends as its call does. -/
theorem Matches.simulates {launch : Launch} {call : Option Store.Operation} {after : Disk}
    {outcome : Outcome} {ended : Except Failure Outcome}
    (matched : Matches workspace now path disk call ended after)
    (code : outcome.code ≠ 0 ↔ ∃ failure, ended = .error failure) :
    Simulates path ⟨launch, ⟨disk, false⟩, outcome, ⟨after, false⟩⟩ (workspace.store, call) := by
  have fails : outcome.code ≠ 0 ↔ IsRefused workspace.store call := by
    rw [code]
    constructor
    · rintro ⟨failure, rfl⟩
      by_contra accepted
      obtain ⟨value, impossible⟩ := matched.accepted accepted
      cases impossible
    · exact fun refused => (matched.refused refused).1
  refine ⟨?_, fails, fun nonzero => ?_⟩
  · rw [Ledger.run_loadOrEmpty]
    dsimp only
    rw [matched.opened.store]
  · obtain ⟨-, rfl⟩ := matched.refused (fails.1 nonzero)
    rfl

/-- What changes a file on a disk changes it when directories stay where they are. -/
theorem Launch.Changes.of_changes {launch : Launch} {after : Disk} {places : Set Place}
    (changes : launch.Changes disk path) (opened : Workspace.IsOpened disk now path workspace)
    (changed : Disk.Changes places disk after) : launch.Changes after path := by
  obtain ⟨invocation, file, reads, changedFile, same⟩ := changes
  obtain ⟨bytes, content, -⟩ := opened.dataset
  obtain ⟨place, located, -⟩ := Disk.read_eq_ok.1 content
  exact ⟨invocation, file, reads, changedFile, same.of_changes located changed⟩

theorem simulates_of_isOpened {launches : List Launch}
    (opened : Workspace.IsOpened disk now path workspace)
    (changes : ∀ launch ∈ launches, launch.Changes disk path)
    (times : ∀ launch ∈ launches, launch.moment.now.IsTime)
    (settings : ∀ process ∈ processes (⟨disk, false⟩ : Watched Disk) launches,
      process.launch.HasSettings process.files.files)
    (unfailed : ∀ process ∈ processes (⟨disk, false⟩ : Watched Disk) launches,
      process.filesAfter.failed = false)
    (bounded : ∀ made ∈ sequence workspace.dataset workspace.store launches,
      (afterCall made.1 made.2).IsBounded) :
    List.Forall₂ (Simulates path) (processes (⟨disk, false⟩ : Watched Disk) launches)
      (sequence workspace.dataset workspace.store launches) := by
  induction launches generalizing disk workspace with
  | nil => exact .nil
  | cons launch launches ih =>
      rw [List.forall_mem_cons] at changes times
      obtain ⟨outcome, ⟨after, failed⟩, ran⟩ : ∃ outcome watched,
          launch.process.run (⟨disk, false⟩ : Watched Disk) = (outcome, watched) := ⟨_, _, rfl⟩
      simp only [processes, ran] at settings unfailed ⊢
      simp only [sequence] at bounded ⊢
      rw [List.forall_mem_cons] at settings unfailed bounded
      obtain ⟨first, rest⟩ := unfailed
      dsimp only at first
      subst first
      obtain ⟨ended, matched, code⟩ :=
        matches_of_run opened changes.1 settings.1 times.1 bounded.1 ran rfl
      obtain ⟨places, changed⟩ := matched.changes
      exact .cons (matched.simulates code)
        (ih matched.opened (fun next member => (changes.2 next member).of_changes opened changed)
          times.2 settings.2 rest bounded.2)

/-- Processes that change the same data file one after the other, and of whose file
operations none fails, leave after each of them the store that results from the calls made
one after the other on the store that was there at first. A process ends with another code
than 0 just when its call is refused, and then it leaves the files as they are. -/
theorem processes_simulate_calls {opened : Disk} {launches : List Launch}
    (opens : (Workspace.ofFile now path : ExceptT Fault (StateM Disk) Workspace).run.run disk =
      (.ok workspace, opened))
    (changes : ∀ launch ∈ launches, launch.Changes disk path)
    (times : ∀ launch ∈ launches, launch.moment.now.IsTime)
    (settings : ∀ process ∈ processes (⟨disk, false⟩ : Watched Disk) launches,
      process.launch.HasSettings process.files.files)
    (unfailed : ∀ process ∈ processes (⟨disk, false⟩ : Watched Disk) launches,
      process.filesAfter.failed = false)
    (bounded : ∀ made ∈ sequence workspace.dataset workspace.store launches,
      (afterCall made.1 made.2).IsBounded) :
    List.Forall₂ (Simulates path) (processes (⟨disk, false⟩ : Watched Disk) launches)
      (sequence workspace.dataset workspace.store launches) :=
  simulates_of_isOpened (Workspace.run_ofFile opens).1 changes times settings unfailed bounded

end Processes

/-! ## Processes on a data file -/

theorem launch_mem_of_mem_processes {σ : Type} [Files (StateM σ)] {launches : List Launch}
    {files : σ} {process : Completed σ} (member : process ∈ processes files launches) :
    process.launch ∈ launches := by
  induction launches generalizing files with
  | nil => cases member
  | cons launch launches ih =>
      rcases List.mem_cons.1 member with rfl | later
      · exact List.mem_cons_self
      · exact List.mem_cons_of_mem launch (ih later)

/-- The workspace of a data file. -/
def peopleWorkspace : Workspace :=
  ((Workspace.ofFile default "people.csv" : ExceptT Fault (StateM Disk) Workspace).run.run
    Workspace.peopleDisk).1.toOption.getD ⟨.ofRows "people" [], Keyed.empty, ""⟩

theorem opens_peopleWorkspace :
    (Workspace.ofFile default "people.csv" :
      ExceptT Fault (StateM Disk) Workspace).run.run Workspace.peopleDisk =
        (.ok peopleWorkspace, Workspace.peopleDisk) := by
  have opens : (Workspace.ofFile default "people.csv" :
      ExceptT Fault (StateM Disk) Workspace).run.run Workspace.peopleDisk =
        (.ok peopleWorkspace, _) := run_eq_ok_getD (by decide +kernel) _
  exact opens.trans (congrArg (Prod.mk _) (Workspace.run_ofFile opens).2)

/-- An expression for a column that is not there, a cleanup, and an expression for a column
of the file by another of its paths. -/
def peopleLaunches : List Launch :=
  let moment : Moment := ⟨default, fun _ => 0, fun _ _ => 0⟩
  [⟨["add", "people.csv", "UPPER()", "--column", "age"], moment, 1⟩,
    ⟨["cleanup", "people.csv"], moment, 1⟩,
    ⟨["add", "./people.csv", "UPPER()", "-c", "first"], moment, 1⟩]

theorem changes_of_mem_peopleLaunches :
    ∀ launch ∈ peopleLaunches, launch.Changes Workspace.peopleDisk "people.csv" := by
  have same : Workspace.peopleDisk.IsSameFile "people.csv" "./people.csv" :=
    Or.inr ⟨by decide +kernel, by decide +kernel, by decide +kernel⟩
  have first : Invocation.ofWords? ["add", "people.csv", "UPPER()", "--column", "age"] =
      some ⟨false, none, .add "people.csv" "age" "UPPER()" none false⟩ := by decide +kernel
  have second : Invocation.ofWords? ["cleanup", "people.csv"] =
      some ⟨false, none, .cleanup "people.csv"⟩ := by decide +kernel
  have third : Invocation.ofWords? ["add", "./people.csv", "UPPER()", "-c", "first"] =
      some ⟨false, none, .add "./people.csv" "first" "UPPER()" none false⟩ := by decide +kernel
  simp only [peopleLaunches, List.forall_mem_cons]
  exact ⟨⟨_, _, first, rfl, Or.inl rfl⟩, ⟨_, _, second, rfl, Or.inl rfl⟩,
    ⟨_, _, third, rfl, same⟩, List.forall_mem_nil _⟩

/-- The first of the processes fails, the others do not. -/
theorem processes_simulate_people_calls :
    (processes (⟨Workspace.peopleDisk, false⟩ : Watched Disk) peopleLaunches).map
      (fun process => process.outcome.code) = [1, 0, 0] ∧
    List.Forall₂ (Simulates "people.csv")
      (processes (⟨Workspace.peopleDisk, false⟩ : Watched Disk) peopleLaunches)
      (sequence peopleWorkspace.dataset peopleWorkspace.store peopleLaunches) := by
  refine ⟨by decide +kernel, processes_simulate_calls opens_peopleWorkspace
    changes_of_mem_peopleLaunches (by decide +kernel) ?_ (by decide +kernel) (by decide +kernel)⟩
  have plain : ∀ launch ∈ peopleLaunches, ∀ invocation ∈ launch.invocation?,
      invocation.settings = none := by decide +kernel
  intro process member invocation reads
  refine ⟨{}, process.files.files, ?_⟩
  rw [Invocation.loadSettings, plain _ (launch_mem_of_mem_processes member) invocation reads]
  rfl

end CommandLine
end ColumnChain
