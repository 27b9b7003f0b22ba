import ColumnChain.Proofs.Loading
import ColumnChain.Proofs.Saving

/-!
# Opening data files

A data file that can be read is a file in some directory, and its ledger is in the same
directory. Opening it reads these two and changes nothing, and saving the ledger does not
touch the data file.
-/

namespace ColumnChain

/-! ## The ledger of a data file -/

/-- The stem of a data file; it is empty for a file without a name. -/
def Path.stemOf (path : String) : String :=
  (Path.stem? path).getD ""

namespace Disk.Holds

variable {disk : Disk} {path directory : String} {place found : Place}
  (holds : disk.Holds path directory place found)

include holds

theorem isStem : Path.IsStem (Path.stemOf path) := by
  rcases holds.named with ⟨name, named, isName, -⟩ | ⟨unnamed, -⟩
  · have within {c : Char} (member : c ∈ (Path.splitExtension name.toList).1) :
        c ∈ name.toList :=
      (Path.splitExtension_isPrefix name.toList).subset member
    constructor <;> simp only [Path.stemOf, Path.stem?, named, Option.map_some,
      Option.getD_some, String.toList_ofList]
    · exact fun member => isName.single (within member)
    · exact fun member => isName.clean (within member)
  · constructor <;> simp [Path.stemOf, Path.stem?, unnamed]

theorem isSeated : Ledger.IsSeated disk (Ledger.pathFor path) place (Path.stemOf path) := by
  refine ⟨holds.isStem, directory, holds.leads, ?_⟩
  rw [Ledger.pathFor, holds.parent]
  rfl

/-- Saving the ledger does not touch the data file. -/
theorem not_mem_touched : found ∉ Store.touched place (Path.stemOf path) := by
  rcases holds.named with ⟨name, named, -, rfl⟩ | ⟨-, rfl⟩
  · have stem : (Path.stemOf path).toList = (Path.splitExtension name.toList).1 := by
      simp only [Path.stemOf, Path.stem?, named, Option.map_some, Option.getD_some,
        String.toList_ofList]
    -- The stems of the files beside a ledger are longer than that of the data file.
    have longer (front extension : List Char) (noDot : '.' ∉ extension)
        (long : (Path.stemOf path).toList.length < front.length)
        (same : name.toList = front ++ '.' :: extension) : False := by
      have filled : front ≠ [] := List.ne_nil_of_length_pos (Nat.zero_lt_of_lt long)
      rw [same, Path.splitExtension_append filled noDot] at stem
      rw [stem] at long
      exact Nat.lt_irrefl _ long
    have last {other : String} (same : place ++ [name] = place ++ [other]) : name = other :=
      List.singleton_inj.1 (List.append_cancel_left same)
    rintro ((same | same | same) | ⟨updated, same | same⟩)
    · refine longer ((Path.stemOf path).toList ++ ".transforms".toList) "json".toList
        (by decide) (by simp) ?_
      simp [last same, Ledger.fileName]
    · refine longer ('.' :: (Ledger.fileName (Path.stemOf path)).toList) "tmp".toList
        (by decide) ?_ ?_
      · simp only [Ledger.fileName, String.toList_append, List.length_append, List.length_cons]
        omega
      · simp [last same, Ledger.stagingName]
    · refine longer ((Path.stemOf path).toList ++ ".transforms".toList) "history".toList
        (by decide) (by simp) ?_
      simp [last same, Ledger.historyName]
    · simpa using congrArg List.length same
    · simpa using congrArg List.length same
  · have short := place.length_dropLast
    rintro ((same | same | same) | ⟨updated, same | same⟩) <;>
    · have length := congrArg List.length same
      simp only [List.length_append, List.length_singleton] at length
      omega

end Disk.Holds

/-! ## Opening a workspace -/

namespace Delimited

theorem id_of_loadWith {options : Options} {id : String} {bytes : Bytes}
    {delimiter : UInt8} {data : Dataset}
    (loaded : loadWith options id bytes delimiter = .ok data) : data.id = id := by
  obtain ⟨_, _, _, _, -, -, -, -, -, rfl⟩ := loadWith_eq_ok.1 loaded
  rw [Options.finish]
  split <;> rfl

theorem id_of_ofFile {options : Options} {path : String} {bytes : Bytes} {now : Instant}
    {data : Dataset} (loaded : ofFile options path bytes now = .ok data) :
    data.id = (Path.stem? path).getD "dataset" := by
  obtain ⟨delimiter, -, loaded⟩ := Store.bind_eq_ok.1 loaded
  obtain ⟨content, loadedContent, loaded⟩ := Store.bind_eq_ok.1 loaded
  have same := id_of_loadWith loadedContent
  cases loaded
  exact same

/-- When a file is loaded, and by which path, does not change what is loaded. -/
theorem exists_ofFile {options : Options} {path other : String} {bytes : Bytes}
    {now later : Instant} {data : Dataset} (same : Path.stem? other = Path.stem? path)
    (loaded : ofFile options path bytes now = .ok data) :
    ∃ source, ofFile options other bytes later = .ok { data with source } := by
  obtain ⟨delimiter, delimited, loaded⟩ := Store.bind_eq_ok.1 loaded
  obtain ⟨content, loadedContent, loaded⟩ := Store.bind_eq_ok.1 loaded
  cases loaded
  refine ⟨some (sourceOf other bytes delimiter later), ?_⟩
  rw [← same] at loadedContent
  exact Store.bind_eq_ok.2 ⟨delimiter, delimited, Store.bind_eq_ok.2 ⟨content, loadedContent, rfl⟩⟩

theorem loadFile_eq {σ : Type} [Files (StateM σ)] (options : Options) (path : String)
    (now : Instant) :
    (loadFile options path now : ExceptT Fault (StateM σ) Dataset) =
      Ledger.attempt (Files.read path) (.unreadable path) >>= fun bytes =>
        ExceptT.mk (pure (ofFile options path bytes now)) := by
  refine ExceptT.ext (StateT.ext fun state => ?_)
  obtain ⟨result, after, run⟩ : ∃ result after,
      (Files.read path : StateM σ (Except DiskError Bytes)).run state = (result, after) :=
    ⟨_, _, rfl⟩
  have read : (liftM (Files.read path : StateM σ (Except DiskError Bytes)) :
      ExceptT Fault (StateM σ) _).run.run state = (.ok result, after) := run_liftM run
  refine (run_bind_of_ok read).trans ?_
  cases result with
  | error error =>
      rw [run_bind_of_error (Ledger.run_attempt_error run _)]
      rfl
  | ok bytes =>
      rw [run_bind_of_ok (Ledger.run_attempt_ok run _)]

end Delimited

namespace Workspace

variable {disk : Disk} {path : String} {now : Instant} {workspace : Workspace}

/-- What a workspace is opened from. -/
structure IsOpened (disk : Disk) (now : Instant) (path : String) (workspace : Workspace) :
    Prop where
  dataset : ∃ bytes, disk.read path = .ok bytes ∧
    Delimited.ofFile {} path bytes now = .ok workspace.dataset
  ledger : workspace.ledger = Ledger.pathFor path
  store : Ledger.found (Ledger.pathFor path) (disk.lookUp (Ledger.pathFor path)) =
    .ok workspace.store

/-- The times of the records in a ledger are times. -/
theorem IsOpened.isTimed (opened : IsOpened disk now path workspace) :
    workspace.store.IsTimed := by
  have readable := opened.store
  simp only [Ledger.found] at readable
  split at readable
  next =>
    split at readable
    next ledger decoded =>
      rw [← Except.ok.inj readable]
      exact (Ledger.isTimed_of_decode? decoded).store
    next => cases readable
  next => cases readable
  next =>
    rw [← Except.ok.inj readable]
    exact fun t member => absurd member List.not_mem_nil

/-- Opening a workspace leaves the files as they are. -/
theorem run_ofFile {after : Disk}
    (opened : (ofFile now path : ExceptT Fault (StateM Disk) Workspace).run.run disk =
      (.ok workspace, after)) : IsOpened disk now path workspace ∧ after = disk := by
  obtain ⟨data, between, loaded, rest⟩ := run_bind_eq_ok.1 opened
  obtain ⟨store, later, kept, complete⟩ := run_bind_eq_ok.1 rest
  rw [Delimited.loadFile_eq] at loaded
  obtain ⟨bytes, found, read, made⟩ := run_bind_eq_ok.1 loaded
  obtain ⟨content, rfl⟩ : disk.read path = .ok bytes ∧ found = disk := by
    cases content : disk.read path with
    | error error =>
        rw [Ledger.run_attempt_error (Disk.run_read content)] at read
        cases read
    | ok other =>
        rw [Ledger.run_attempt_ok (Disk.run_read content)] at read
        cases read
        exact ⟨rfl, rfl⟩
  obtain ⟨dataset, rfl⟩ : Delimited.ofFile {} path bytes now = .ok data ∧ found = between :=
    Prod.mk.inj made
  rw [Ledger.run_loadOrEmpty] at kept
  obtain ⟨known, rfl⟩ := Prod.mk.inj kept
  cases complete
  refine ⟨⟨⟨bytes, content, dataset⟩, ?_, ?_⟩, rfl⟩ <;> dsimp only
  exact known

/-- A workspace is opened from its files, which stay as they are. -/
theorem IsOpened.run_ofFile (opened : IsOpened disk now path workspace) :
    (ofFile now path : ExceptT Fault (StateM Disk) Workspace).run.run disk =
      (.ok workspace, disk) := by
  obtain ⟨bytes, content, dataset⟩ := opened.dataset
  have loaded : (Delimited.loadFile {} path now : ExceptT Fault (StateM Disk) Dataset).run.run
      disk = (.ok workspace.dataset, disk) := by
    rw [Delimited.loadFile_eq, run_bind_of_ok (Ledger.run_attempt_ok (Disk.run_read content) _),
      ← dataset]
    rfl
  have kept : (Store.loadOrEmpty (Ledger.pathFor path) :
      ExceptT Fault (StateM Disk) Store).run.run disk = (.ok workspace.store, disk) := by
    rw [Ledger.run_loadOrEmpty, opened.store]
  rw [ofFile, run_bind_of_ok loaded, run_bind_of_ok kept, ← opened.ledger]
  rfl

theorem IsOpened.lookUp_toBool (opened : IsOpened disk now path workspace) :
    (disk.lookUp path).toBool = true := by
  obtain ⟨bytes, content, -⟩ := opened.dataset
  obtain ⟨found, located, file⟩ := Disk.read_eq_ok.1 content
  rw [(Disk.lookUp_eq_ok located).2 file]
  rfl

theorem IsOpened.columnNames_ne_nil (opened : IsOpened disk now path workspace) :
    workspace.dataset.columnNames ≠ [] := by
  obtain ⟨bytes, -, dataset⟩ := opened.dataset
  exact Delimited.columnNames_ne_nil_of_ofFile dataset

theorem IsOpened.isTable (opened : IsOpened disk now path workspace) :
    workspace.dataset.IsTable := by
  obtain ⟨bytes, -, dataset⟩ := opened.dataset
  exact Delimited.isTable_of_ofFile dataset

/-- A workspace is opened where its files can be read. -/
theorem succeeds_ofFile (opened : IsOpened disk now path workspace) :
    Watched.Succeeds (ofFile now path) disk fun other after =>
      other = workspace ∧ after = disk := by
  obtain ⟨bytes, content, dataset⟩ := opened.dataset
  have loads : Watched.Succeeds (Delimited.loadFile {} path now) disk
      fun data after => data = workspace.dataset ∧ after = disk := by
    rw [Delimited.loadFile_eq]
    refine Watched.Succeeds.bind (Watched.succeeds_attempt
      (fun found after => found = bytes ∧ after = disk) fun found after done => ?_) ?_
    · obtain ⟨read, rfl⟩ : disk.read path = .ok found ∧ disk = after := Prod.mk.inj done
      rw [content] at read
      cases read
      exact ⟨rfl, rfl⟩
    · rintro _ _ ⟨rfl, rfl⟩
      rw [dataset]
      exact Watched.succeeds_pure ⟨rfl, rfl⟩
  refine loads.bind ?_
  rintro _ _ ⟨rfl, rfl⟩
  refine (Store.succeeds_loadOrEmpty opened.store).bind ?_
  rintro _ _ ⟨rfl, rfl⟩
  exact Watched.succeeds_pure ⟨by rw [← opened.ledger], rfl⟩

/-- A disk with a data file that has no ledger. -/
def peopleDisk : Disk :=
  ⟨Keyed.empty.put (["people.csv"], .file (Text.encode "first,last\nmax,king\n")), []⟩

end Workspace
end ColumnChain
