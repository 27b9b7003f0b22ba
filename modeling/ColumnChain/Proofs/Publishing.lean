import ColumnChain.Proofs.Durability
import ColumnChain.Proofs.Exporting
import ColumnChain.Proofs.Processes
import ColumnChain.Proofs.Sharing

/-!
# Exports and the service

The derived rows of a data file, as a command writes them and as the service shows them. Where
the settings fix the day and nothing is random, both have the same rows under the same columns:
those of the dataset and then the others that some row has, so that no cell is left out.
-/

namespace ColumnChain

/-! ## Columns of derived rows -/

namespace Dataset

/-- Columns that start with those of a source, have different names, and are all that some rows
have. -/
structure Covers (source columns : List String) (rows : List Row) : Prop where
  begins : source <+: columns
  distinct : columns.Nodup
  complete : ∀ row ∈ rows, ∀ name ∈ row.keys, name ∈ columns

variable {source columns : List String} {rows : List Row}

theorem isPrefix_addNames (names more : List String) : names <+: addNames names more := by
  induction more generalizing names with
  | nil => exact List.prefix_rfl
  | cons name more ih =>
      rw [addNames, List.foldl_cons]
      refine List.IsPrefix.trans ?_ (ih _)
      split
      next => exact List.prefix_rfl
      next => exact List.prefix_append names [name]

/-- The columns of one more row are added. -/
theorem Covers.addRow (covers : Covers source columns rows) (row : Row) :
    Covers source (addNames columns row.keys) (rows ++ [row]) where
  begins := covers.begins.trans (isPrefix_addNames columns row.keys)
  distinct := nodup_addNames covers.distinct row.keys
  complete other member name inRow := by
    rw [mem_addNames]
    rcases List.mem_append.1 member with earlier | last
    · exact Or.inl (covers.complete other earlier name inRow)
    · rw [List.mem_singleton] at last
      exact Or.inr (last ▸ inRow)

theorem Covers.addRows (covers : Covers source columns rows) (more : List Row) :
    Covers source (more.foldl (fun names row => addNames names row.keys) columns)
      (rows ++ more) := by
  induction more generalizing columns rows with
  | nil => simpa using covers
  | cons row more ih =>
      rw [List.foldl_cons, List.append_cons]
      exact ih (covers.addRow row)

theorem covers_self (distinct : source.Nodup) : Covers source source [] :=
  ⟨List.prefix_rfl, distinct, List.forall_mem_nil _⟩

end Dataset

/-- The columns of derived rows are those of the dataset and all that the rows have. -/
theorem Workspace.covers_derivedColumns {workspace : Workspace}
    (distinct : workspace.dataset.columnNames.Nodup) (rows : List Row) :
    Dataset.Covers workspace.dataset.columnNames (workspace.derivedColumns rows) rows :=
  (Dataset.covers_self distinct).addRows rows

/-! ## Rows that do not depend on the machine -/

namespace Store

variable {store : Store} {dataset : String}

/-- The chain of a column with a single live record takes one step. -/
theorem pipeline_of_single {column : String} {t : Transformation}
    (single : (store.ofDataset dataset).filter (fun t => t.isLive && t.column == column) = [t]) :
    store.pipeline dataset column = ⟨column, [t.step]⟩ := by
  rw [pipeline_eq, chain, single, List.mergeSort_singleton]
  rfl

/-- Chains that draw nothing derive the same whatever the random source yields. -/
theorem applyColumns_draws {columns : List String}
    (deterministic : ∀ column ∈ columns, store.IsDeterministicOn dataset column)
    (engine : Engine) (left right : Draws) (place : Nat) (rows : List Row) :
    store.applyColumns engine left dataset place columns rows =
      store.applyColumns engine right dataset place columns rows := by
  induction columns generalizing place rows with
  | nil => rfl
  | cons column columns ih =>
      rw [List.forall_mem_cons] at deterministic
      rw [applyColumns, applyColumns,
        apply_draws deterministic.1 engine (left.under place) (right.under place) rows]
      exact ih deterministic.2 (place + 1) _

/-- With the day fixed, what is derived does not depend on the machine, on the time or on the
random source. -/
theorem derive_of_pinned {settings : Settings} {day : Date}
    (pinned : settings.referenceDate = some day) {data : Dataset}
    (deterministic : ∀ column ∈ data.columnNames, store.IsDeterministicOn data.id column)
    (today tomorrow : Date) (workers others : Nat) (left right : Draws) :
    data.derive store (settings.engine today workers) left =
      data.derive store (settings.engine tomorrow others) right := by
  have sameSettings : (settings.engine today workers).settings =
      (settings.engine tomorrow others).settings := rfl
  have sameDay : (settings.engine today workers).today =
      (settings.engine tomorrow others).today := by
    simp only [Settings.engine, pinned, Option.getD_some]
  rw [derive_congr sameSettings sameDay]
  exact applyColumns_draws deterministic _ left right 0 data.rows

end Store

/-! ## Files of derived rows -/

namespace CommandLine

/-- A file that is created and written holds the contents. -/
theorem run_writeFile_of_isWritable {disk : Disk} {path : String}
    (writable : disk.IsWritable path) (contents : Bytes) :
    ∃ after, (writeFile path contents : ExceptT DiskError (StateM Disk) Unit).run.run disk =
      (.ok (), after) ∧ after.read path = .ok contents := by
  obtain ⟨created, creates, -, writable⟩ := writable.exists_write []
  obtain ⟨after, writes, holds, -⟩ := writable.exists_write contents
  refine ⟨after, ?_, holds⟩
  have creation : (ExceptT.mk (Files.create path) : ExceptT DiskError (StateM Disk) Unit).run.run
      disk = (.ok (), created) := by
    rw [ExceptT.run_mk]
    exact Disk.run_attempt_of_ok (fun disk => disk.write path []) creates
  rw [writeFile, run_bind_of_ok creation, ExceptT.run_mk]
  exact Disk.run_attempt_of_ok (fun disk => disk.write path contents) writes

theorem run_writeFile_of_not_isWritable {disk : Disk} {path : String}
    (unwritable : ¬ disk.IsWritable path) (contents : Bytes) :
    ∃ error, (writeFile path contents : ExceptT DiskError (StateM Disk) Unit).run.run disk =
      (.error error, disk) := by
  obtain ⟨error, fails⟩ := Disk.exists_write_error unwritable []
  have creation : (ExceptT.mk (Files.create path) : ExceptT DiskError (StateM Disk) Unit).run.run
      disk = (.error error, disk) := by
    rw [ExceptT.run_mk]
    exact Disk.run_attempt_of_error (fun disk => disk.write path []) fails
  refine ⟨error, ?_⟩
  rw [writeFile, run_bind_of_error creation]

/-- A record with the texts of a row under some columns, among them that of every cell. -/
structure IsRecordOf (columns : List String) (row : Row) (record : List Bytes) : Prop where
  texts : record = columns.map fun name => Text.encode (Row.get row name).toText
  cells : ∀ name cell, Row.get? row name = some cell →
    ∃ place : Nat, columns[place]? = some name ∧ record[place]? = some (Text.encode cell.toText)

/-- Records of which the first has the names of some columns, and the others are those of some
rows. -/
structure IsTableOf (columns : List String) (rows : List Row) (records : List (List Bytes)) :
    Prop where
  header : records.head? = some (columns.map Text.encode)
  body : List.Forall₂ (IsRecordOf columns) rows records.tail

/-- What is in a file of derived rows: the list of the rows as JSON, or from its first byte on a
table. -/
def Format.Exports (columns : List String) (rows : List Row) (contents : Bytes) : Format → Prop
  | .tsv => IsTableOf columns rows
      (Delimited.recordsFrom (Text.byte '\t') Delimited.Scan.fresh contents)
  | .csv => IsTableOf columns rows
      (Delimited.recordsFrom (Text.byte ',') Delimited.Scan.fresh contents)
  | .json => contents = Text.encode (String.ofList (Json.list (rows.map Row.toJson)).pretty)

section Contents

variable {source columns : List String} {rows : List Row}

theorem isRecordOf_fieldsOf {row : Row} (complete : ∀ name ∈ row.keys, name ∈ columns) :
    IsRecordOf columns row ((Delimited.fieldsOf columns row).map Text.encode) where
  texts := List.map_map
  cells name cell found := by
    have inRow : name ∈ row.keys := by
      rw [← Keyed.contains_eq_true_iff, Row.contains_eq_isSome_get?, found]
      rfl
    obtain ⟨place, there⟩ := List.getElem?_of_mem (complete name inRow)
    refine ⟨place, there, ?_⟩
    rw [Delimited.fieldsOf, List.map_map, List.getElem?_map, there, Option.map_some,
      Function.comp_apply, Row.get, found, Option.getD_some]

theorem isTableOf_write {delimiter : UInt8} (delimits : Delimited.Delimits delimiter)
    (filled : columns ≠ []) (covers : Dataset.Covers source columns rows) :
    IsTableOf columns rows (Delimited.recordsFrom delimiter Delimited.Scan.fresh
      (Delimited.write columns rows delimiter)) := by
  rw [Delimited.recordsFrom_write delimits filled, List.map_cons]
  refine ⟨rfl, ?_⟩
  rw [List.tail_cons, List.map_map, List.forall₂_map_right_iff, List.forall₂_same]
  intro row member
  exact isRecordOf_fieldsOf (covers.complete row member)

/-- What is written has every row under the columns that cover the rows. -/
theorem exports_derivedContents (filled : columns ≠ [])
    (covers : Dataset.Covers source columns rows) (format : Format) :
    format.Exports columns rows (derivedContents format columns rows) := by
  cases format with
  | tsv => exact isTableOf_write (Delimited.delimits_of_mem_candidates (by decide)) filled covers
  | csv => exact isTableOf_write (Delimited.delimits_of_mem_candidates (by decide)) filled covers
  | json => rfl

end Contents

/-! ## Commands that write derived rows -/

section Applying

variable {disk : Disk} {path : String} {workspace : Workspace} {moment : Moment}

theorem run_openFile {now : Instant} (opened : Workspace.IsOpened disk now path workspace) :
    (openFile path now : ExceptT Failure (StateM Disk) Workspace).run.run disk =
      (.ok workspace, disk) := by
  have present : (liftM (Files.isPresent path : StateM Disk Bool) :
      ExceptT Failure (StateM Disk) Bool).run.run disk = (.ok true, disk) :=
    run_liftM (by rw [Disk.run_isPresent, opened.lookUp_toBool])
  rw [openFile, run_bind_of_ok present]
  exact run_orFail_eq_ok.2 opened.run_ofFile

/-- The derived rows of a data file are written where a file can be written, and then the command
succeeds. -/
theorem exists_run_apply (opened : Workspace.IsOpened disk moment.now path workspace)
    (engine : Engine) (verbose : Bool) (output : Option String) (format : Format) :
    let rows := workspace.dataset.derive workspace.store engine moment.draws
    let target := output.getD (derivedPath path format)
    ∃ outcome after,
      (apply engine moment verbose path output format :
        ExceptT Failure (StateM Disk) Outcome).run.run disk = (.ok outcome, after) ∧
      (outcome.code = 0 ↔ disk.IsWritable target) ∧
      (outcome.code = 0 → after.read target =
        .ok (derivedContents format (workspace.derivedColumns rows) rows)) := by
  intro rows target
  let contents := derivedContents format (workspace.derivedColumns rows) rows
  by_cases writable : disk.IsWritable target
  · obtain ⟨after, wrote, holds⟩ := run_writeFile_of_isWritable writable contents
    have ran : ∃ report, (apply engine moment verbose path output format :
        ExceptT Failure (StateM Disk) Outcome).run.run disk =
          (.ok (.finished report none), after) := by
      rw [apply, run_bind_of_ok (run_openFile opened), run_bind_of_ok (run_liftM wrote)]
      exact ⟨_, rfl⟩
    obtain ⟨report, ran⟩ := ran
    exact ⟨_, after, ran, iff_of_true rfl writable, fun _ => holds⟩
  · obtain ⟨error, failed⟩ := run_writeFile_of_not_isWritable writable contents
    have ran : ∃ report, (apply engine moment verbose path output format :
        ExceptT Failure (StateM Disk) Outcome).run.run disk =
          (.ok (.finished report (some (.notWritten error))), disk) := by
      rw [apply, run_bind_of_ok (run_openFile opened), run_bind_of_ok (run_liftM failed)]
      exact ⟨_, rfl⟩
    obtain ⟨report, ran⟩ := ran
    exact ⟨_, disk, ran, iff_of_false Nat.one_ne_zero writable,
      fun succeeds => absurd succeeds Nat.one_ne_zero⟩

/-- Loading settings leaves the files as they are. -/
theorem run_loadSettings (invocation : Invocation) (disk : Disk) :
    ∃ ended, (invocation.loadSettings : ExceptT Failure (StateM Disk) Settings).run.run disk =
      (ended, disk) := by
  rw [Invocation.loadSettings]
  split
  next => exact ⟨_, rfl⟩
  next path _ =>
    have read : (liftM (Files.read path : StateM Disk (Except DiskError Bytes)) :
        ExceptT Fault (StateM Disk) (Except DiskError Bytes)).run.run disk =
          (.ok (disk.read path), disk) := run_liftM (Disk.run_read rfl)
    have loaded : ∃ ended, (Settings.load path : ExceptT Fault (StateM Disk) Settings).run.run
        disk = (ended, disk) := by
      rw [Settings.load, run_bind_of_ok read]
      split <;> exact ⟨_, rfl⟩
    obtain ⟨ended, loaded⟩ := loaded
    rw [orFail, ExceptT.run_mk, StateT.run_bind, loaded]
    cases ended <;> exact ⟨_, rfl⟩

/-- The process of a command that ends with an outcome. -/
theorem run_eq_of_command {line : List String} {invocation : Invocation} {settings : Settings}
    {workers : Nat} {outcome : Outcome} {after : Disk}
    (reads : Invocation.ofWords? line = some invocation)
    (loads : ((invocation.loadSettings :
      ExceptT Failure (StateM Disk) Settings).run.run disk).1 = .ok settings)
    (ran : (invocation.command.run (settings.engine moment.now.date workers) moment
      invocation.verbose : ExceptT Failure (StateM Disk) Outcome).run.run disk =
        (.ok outcome, after)) :
    (run line moment workers : StateM Disk Outcome).run disk = (outcome, after) := by
  obtain ⟨ended, loaded⟩ := run_loadSettings invocation disk
  obtain rfl : ended = .ok settings := by rwa [loaded] at loads
  have ranInvocation : (invocation.run moment workers :
      ExceptT Failure (StateM Disk) Outcome).run.run disk = (.ok outcome, after) := by
    rw [Invocation.run, run_bind_of_ok loaded, ran]
  rw [run, reads]
  dsimp only
  rw [StateT.run_bind, ranInvocation]
  rfl

end Applying

/-! ## The command and the service -/

theorem part_columns_derivedOf (engine : Engine) (draws : Draws) (workspace : Workspace)
    (limit : Nat) :
    (Service.derivedOf engine draws workspace limit).part "columns" =
      .list ((workspace.derivedColumns
        (workspace.dataset.derive workspace.store engine draws)).map Json.text) := rfl

theorem part_rows_derivedOf (engine : Engine) (draws : Draws) (workspace : Workspace)
    (limit : Nat) :
    (Service.derivedOf engine draws workspace limit).part "rows" =
      .list (((workspace.dataset.derive workspace.store engine draws).take limit).map
        Row.toJson) := rfl

/-- A command that writes the derived rows of a data file and a request for these rows to a
service that has opened the file come to the same rows under the same columns, if their settings
fix the day and no chain can call `GENERATE_ID`. The columns start with those of the dataset, have
different names, and every cell of every row is under one of them. The command succeeds just
where a file can be written. -/
theorem exported_eq_served {disk opened : Disk} {loadedAt : Instant} {paths : List String}
    {path file : String} {workspaces : Service.Workspaces} {workspace : Workspace}
    {line : List String} {invocation : Invocation} {output : Option String} {format : Format}
    {settings : Settings} {day : Date} {request : Service.Request} {limit : Option Nat}
    (opens : (Service.Workspaces.ofFiles loadedAt paths :
      ExceptT Fault (StateM Disk) Service.Workspaces).run.run disk = (.ok workspaces, opened))
    (listed : path ∈ paths)
    (stored : workspaces.find? (Workspace.idOfStem (Path.stemOf path)) = some workspace)
    (reads : Invocation.ofWords? line = some invocation)
    (applies : invocation.command = .apply file output format)
    (same : disk.IsSameFile path file)
    (loads : ((invocation.loadSettings :
      ExceptT Failure (StateM Disk) Settings).run.run disk).1 = .ok settings)
    (pinned : settings.referenceDate = some day)
    (deterministic : ∀ column ∈ workspace.dataset.columnNames,
      workspace.store.IsDeterministicOn workspace.id column)
    (asks : Service.AsksDerived request workspace.id limit)
    (enough : workspace.dataset.rows.length ≤ limit.getD Service.defaultRows)
    (applied asked : Moment) (today : Date) (workers others : Nat) (files : Disk) :
    let target := output.getD (derivedPath file format)
    let engine := settings.engine today others
    let answer := Service.serve engine workspaces asked request files
    let rows := workspace.dataset.derive workspace.store engine asked.draws
    answer.1.1.status = 200 ∧
      answer.1.1.part "rows" = .list (rows.map Row.toJson) ∧
      rows.length = workspace.dataset.rows.length ∧
      ∃ columns outcome after,
        answer.1.1.part "columns" = .list (columns.map Json.text) ∧
        Dataset.Covers workspace.dataset.columnNames columns rows ∧
        (run line applied workers : StateM Disk Outcome).run disk = (outcome, after) ∧
        (outcome.code = 0 ↔ disk.IsWritable target) ∧
        (outcome.code = 0 → ∃ contents, after.read target = .ok contents ∧
          format.Exports columns rows contents) := by
  intro target engine answer rows
  have isOpened := Service.isOpened_of_ofFiles opens listed stored
  have length : rows.length = workspace.dataset.rows.length := Store.length_derive ..
  -- What the service answers.
  have served : answer = ((Service.derivedOf engine asked.draws workspace
      (limit.getD Service.defaultRows), workspaces), files) :=
    Service.serve_derived asks (isOpened.id_eq ▸ stored) files
  have whole : rows.take (limit.getD Service.defaultRows) = rows :=
    List.take_of_length_le (length ▸ enough)
  have covers := Workspace.covers_derivedColumns isOpened.isTable.distinct rows
  -- What the command writes.
  obtain ⟨source, openedBy⟩ := isOpened.of_isSameFile same applied.now
  obtain ⟨outcome, after, ran, succeeds, writes⟩ := exists_run_apply openedBy
    (settings.engine applied.now.date workers) invocation.verbose output format
  have ends : (run line applied workers : StateM Disk Outcome).run disk = (outcome, after) :=
    run_eq_of_command reads loads (by rwa [applies])
  have sameRows : rows = workspace.dataset.derive workspace.store
      (settings.engine applied.now.date workers) applied.draws :=
    Store.derive_of_pinned pinned deterministic _ _ _ _ _ _
  have filled : workspace.derivedColumns rows ≠ [] := fun empty =>
    isOpened.columnNames_ne_nil (List.prefix_nil.1 (empty ▸ covers.begins))
  have exports := exports_derivedContents filled covers format
  rw [served]
  refine ⟨rfl, ?_, length, workspace.derivedColumns rows, outcome, after,
    part_columns_derivedOf .., covers, ends, succeeds,
    fun succeeded => ⟨_, writes succeeded, ?_⟩⟩
  · rw [part_rows_derivedOf, whole]
  · rw [sameRows] at exports ⊢
    exact exports

/-- A step that makes a new column. -/
def initialRecord : Transformation :=
  { Store.sampleRecord "a" "LEFT(first, 1)" .active 1 with
    column := "first", output := .column "initial" }

/-- A step that makes a new column, which stays empty where there is no last name. -/
def loudRecord : Transformation :=
  { Store.sampleRecord "b" "UPPERCASE(last)" .active 1 with
    column := "last", output := .column "loud" }

/-- The store of these steps. -/
def namingStore : Store :=
  ⟨[initialRecord, loudRecord], by decide⟩

/-- A data file of two people. -/
def namingBytes : Bytes :=
  Text.encode "first,last\nada,\nmax,king\n"

/-- A disk with the data file, its ledger, and settings that fix the day. -/
def namingDisk : Disk where
  nodes := ⟨[
    (["people.csv"], .file namingBytes),
    (["people.transforms.json"], .file (Ledger.ofStore namingStore default).encode),
    (["settings.json"], .file (Text.encode "\x7b\"reference_date\":\"2024-02-29\"\x7d"))],
    by decide⟩
  here := []

/-- The settings of the disk. -/
def namingSettings : Settings where
  referenceDate := some ⟨2024, 2, 29, by decide⟩

/-- The workspace of the data file. -/
def namingWorkspace : Workspace where
  dataset := (Delimited.ofFile {} "people.csv" namingBytes default).toOption.getD
    (.ofRows "people" [])
  store := namingStore
  ledger := Ledger.pathFor "people.csv"

theorem id_namingWorkspace : namingWorkspace.id = "people" := by
  decide +kernel

theorem columnNames_namingWorkspace :
    namingWorkspace.dataset.columnNames = ["first", "last"] := by
  decide +kernel

/-- The row without a last name has no cell in the column that is made of it. -/
theorem keys_derive_naming :
    (namingWorkspace.dataset.derive namingWorkspace.store (namingSettings.engine default 4)
      Service.sampleMoment.draws).map Keyed.keys =
        [["first", "last", "initial"], ["first", "last", "initial", "loud"]] := by
  have first : namingWorkspace.store.pipeline "people" "first" =
      ⟨"first", [initialRecord.step]⟩ := Store.pipeline_of_single rfl
  have last : namingWorkspace.store.pipeline "people" "last" =
      ⟨"last", [loudRecord.step]⟩ := Store.pipeline_of_single rfl
  have isPeople : namingWorkspace.dataset.id = "people" := id_namingWorkspace
  simp only [Dataset.derive, columnNames_namingWorkspace, isPeople, Store.applyColumns,
    Store.apply, first, last]
  decide +kernel

theorem isOpened_namingWorkspace :
    namingWorkspace.IsOpened namingDisk default "people.csv" where
  dataset := by
    refine ⟨namingBytes, by decide +kernel, ?_⟩
    have loads : (Delimited.ofFile {} "people.csv" namingBytes default).toBool = true := by
      decide +kernel
    simp only [namingWorkspace]
    cases loaded : Delimited.ofFile {} "people.csv" namingBytes default with
    | error fault => simp [loaded, Except.toBool] at loads
    | ok dataset => rfl
  ledger := rfl
  store := by
    have located : namingDisk.locate (Ledger.pathFor "people.csv") =
        .ok ["people.transforms.json"] := by
      decide +kernel
    have file : namingDisk.at? ["people.transforms.json"] =
        some (.file (Ledger.ofStore namingStore default).encode) := rfl
    have timed : namingStore.IsTimed := by
      simp only [Store.IsTimed, namingStore, List.forall_mem_cons]
      exact ⟨⟨by decide, by decide⟩, ⟨by decide, by decide⟩, List.forall_mem_nil _⟩
    rw [(Disk.lookUp_eq_ok located).2 file, Ledger.found,
      Ledger.decode?_encode (Ledger.isTimed_ofStore timed (by decide))]
    exact congrArg Except.ok (Ledger.store_ofStore _ _)

/-- The workspaces of the data file alone. -/
def namingWorkspaces : Service.Workspaces :=
  ⟨[namingWorkspace], List.nodup_singleton _⟩

theorem opens_namingWorkspaces :
    (Service.Workspaces.ofFiles default ["people.csv"] :
      ExceptT Fault (StateM Disk) Service.Workspaces).run.run namingDisk =
        (.ok namingWorkspaces, namingDisk) := by
  have opens : (["people.csv"].mapM (Workspace.ofFile default) :
      ExceptT Fault (StateM Disk) (List Workspace)).run.run namingDisk =
        (.ok [namingWorkspace], namingDisk) := by
    rw [List.mapM_cons, run_bind_of_ok isOpened_namingWorkspace.run_ofFile]
    rfl
  rw [Service.Workspaces.ofFiles, run_bind_of_ok opens]
  have sorted : [namingWorkspace].mergeSort (fun left right => left.id ≤ right.id) =
      [namingWorkspace] := List.mergeSort_singleton _
  simp only [Service.Workspaces.ofList, sorted]
  rfl

/-- A command line that writes the derived rows. -/
def namingLine : List String :=
  ["apply", "./people.csv", "--format", "csv", "--config", "settings.json"]

/-- The row without a last name has no cell under the fourth column. -/
theorem exported_eq_served_naming :
    let engine := namingSettings.engine default 4
    let answer := Service.serve engine namingWorkspaces Service.sampleMoment
      Service.sampleDerived namingDisk
    let rows := namingWorkspace.dataset.derive namingWorkspace.store engine
      Service.sampleMoment.draws
    rows.map Keyed.keys = [["first", "last", "initial"], ["first", "last", "initial", "loud"]] ∧
      answer.1.1.part "rows" = .list (rows.map Row.toJson) ∧
      ∃ columns outcome after contents,
        answer.1.1.part "columns" = .list (columns.map Json.text) ∧
        Dataset.Covers ["first", "last"] columns rows ∧
        (run namingLine Service.sampleMoment 1 : StateM Disk Outcome).run namingDisk =
          (outcome, after) ∧
        outcome.code = 0 ∧ after.read "./people.derived.csv" = .ok contents ∧
        Format.csv.Exports columns rows contents := by
  have reads : Invocation.ofWords? namingLine =
      some ⟨false, some "settings.json", .apply "./people.csv" none .csv⟩ := by decide +kernel
  have same : namingDisk.IsSameFile "people.csv" "./people.csv" :=
    Or.inr ⟨by decide +kernel, by decide +kernel, by decide +kernel⟩
  have loads : (((⟨false, some "settings.json", .apply "./people.csv" none .csv⟩ :
      Invocation).loadSettings : ExceptT Failure (StateM Disk) Settings).run.run namingDisk).1 =
        .ok namingSettings := by decide +kernel
  have deterministic : ∀ column ∈ namingWorkspace.dataset.columnNames,
      namingWorkspace.store.IsDeterministicOn namingWorkspace.id column := by
    intro column _ t member
    have all : ∀ t ∈ namingStore.entries, t.step.isDeterministic = true := by decide +kernel
    exact all t (Store.mem_chain.1 member).1
  have stored : namingWorkspaces.find? (Workspace.idOfStem (Path.stemOf "people.csv")) =
      some namingWorkspace :=
    Keyed.find?_eq_some_iff.2 ⟨List.mem_singleton_self _, isOpened_namingWorkspace.id_eq⟩
  have asks : Service.AsksDerived Service.sampleDerived namingWorkspace.id none := by
    rw [id_namingWorkspace]
    exact Service.asksDerived_sample
  have published := exported_eq_served opens_namingWorkspaces List.mem_cons_self stored reads rfl
    same loads rfl deterministic asks (by decide +kernel) Service.sampleMoment
    Service.sampleMoment default 1 4 namingDisk
  have target : derivedPath "./people.csv" .csv = "./people.derived.csv" := by decide +kernel
  have writable : namingDisk.IsWritable "./people.derived.csv" :=
    ⟨["people.derived.csv"], by decide +kernel, by decide +kernel⟩
  rw [Option.getD_none, target, columnNames_namingWorkspace] at published
  obtain ⟨-, shownRows, -, columns, outcome, after, shownColumns, covers, ran, succeeds,
    exports⟩ := published
  have succeeded := succeeds.2 writable
  obtain ⟨contents, holds, shows⟩ := exports succeeded
  exact ⟨keys_derive_naming, shownRows, columns, outcome, after, contents, shownColumns, covers,
    ran, succeeded, holds, shows⟩

end CommandLine
end ColumnChain
