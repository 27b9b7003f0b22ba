import ColumnChain.Proofs.Codec
import ColumnChain.Proofs.Filing
import ColumnChain.Proofs.Watching
import ColumnChain.Workspace

/-!
# Saving ledgers

A ledger that is saved without a failed operation is at its place afterwards. On the way
there the files beside it that are made for this are written, and those of its history;
what is anywhere else stays as it is, above all the ledgers of other data files.
-/

namespace ColumnChain

/-! ## Names of files -/

/-- The stem of a file name. -/
structure Path.IsStem (stem : String) : Prop where
  single : '/' ∉ stem.toList
  clean : '\x00' ∉ stem.toList

theorem Instant.mem_fileStamp {i : Instant} {c : Char} (member : c ∈ i.fileStamp.toList) :
    c.isDigit = true ∨ c ∈ ['-', '+', 'T', '.'] := by
  have padded {width n : Nat} (member : c ∈ Date.padded width n) : c.isDigit = true :=
    (Date.areDigits_padded width n).all c member
  have year (member : c ∈ Date.yearText i.date.year) :
      c.isDigit = true ∨ c ∈ ['-', '+', 'T', '.'] := by
    simp only [Date.yearText] at member
    split at member
    next => exact Or.inl (padded member)
    next =>
      rcases List.mem_cons.1 member with rfl | digit
      · right
        split <;> simp
      · exact Or.inl (padded digit)
  simp only [fileStamp, Date.iso, Date.monthText, Date.dayText, clockText,
    String.toList_ofList, List.mem_append, List.mem_cons] at member
  simp only [List.mem_cons, List.not_mem_nil, or_false] at year ⊢
  grind

namespace Ledger

/-- The name of the ledger of data files with a stem. -/
def fileName (stem : String) : String :=
  stem ++ ".transforms.json"

/-- The name under which a file is written before it is moved to its place. -/
def stagingName (name : String) : String :=
  "." ++ name ++ ".tmp"

/-- The name of the directory of earlier ledgers. -/
def historyName (stem : String) : String :=
  stem ++ ".transforms" ++ ".history"

/-- The name of a ledger among the earlier ones. -/
def pastName (updated : Instant) : String :=
  updated.fileStamp ++ ".json"

section Names

variable {stem name directory : String}

theorem isName_fileName (isStem : Path.IsStem stem) : Path.IsName (fileName stem) :=
  Path.isName_of_length (by simp [fileName]) (by simp [fileName, isStem.single])
    (by simp [fileName, isStem.clean])

theorem isName_historyName (isStem : Path.IsStem stem) : Path.IsName (historyName stem) :=
  Path.isName_of_length (by simp [historyName]) (by simp [historyName, isStem.single])
    (by simp [historyName, isStem.clean])

theorem isName_stagingName (isName : Path.IsName name) : Path.IsName (stagingName name) :=
  Path.isName_of_length (by simp [stagingName]) (by simp [stagingName, isName.single])
    (by simp [stagingName, isName.clean])

theorem isName_pastName (updated : Instant) : Path.IsName (pastName updated) := by
  have apart {c : Char} (noDigit : c.isDigit = false) (other : c ∉ ['-', '+', 'T', '.']) :
      c ∉ updated.fileStamp.toList := fun member =>
    (Instant.mem_fileStamp member).elim (fun digit => by simp [noDigit] at digit) other
  exact Path.isName_of_length (by simp [pastName])
    (by simp [pastName, apart (c := '/') rfl (by decide)])
    (by simp [pastName, apart (c := '\x00') rfl (by decide)])

/-! ## Paths of files -/

theorem stagingPath_eq {path : String} (parent : Path.parent? path = some directory)
    (named : Path.fileName? path = some name) :
    stagingPath path = Path.join directory (stagingName name) := by
  simp only [stagingPath, Path.withFileName, named, parent, Option.getD_some, stagingName]

variable (isTrimmed : Path.IsTrimmed directory)

include isTrimmed

theorem historyPath_join (isStem : Path.IsStem stem) :
    historyPath (Path.join directory (fileName stem)) =
      Path.join directory (historyName stem) := by
  have isName := isName_fileName isStem
  have cut : Path.splitExtension (fileName stem).toList =
      ((stem ++ ".transforms").toList, some "json".toList) := by
    have whole : (fileName stem).toList =
        (stem ++ ".transforms").toList ++ '.' :: "json".toList := by simp [fileName]
    rw [whole]
    exact Path.splitExtension_append (by simp) (by decide)
  simp only [historyPath, Path.stem?, Path.parent?_join isName isTrimmed,
    Path.fileName?_join isName, Option.map_some, cut, Option.getD_some, String.ofList_toList,
    historyName]

theorem pastPath_join (isStem : Path.IsStem stem) (ledger : Ledger) :
    pastPath (Path.join directory (fileName stem)) ledger =
      Path.join (Path.join directory (historyName stem)) (pastName ledger.updated) := by
  rw [pastPath, historyPath_join isTrimmed isStem, pastName]

end Names

/-! ## Saving a ledger -/

section Save

variable {disk : Disk} {place : Place} {path directory name stem : String}

/-- The directory of a path is made where it is missing. -/
theorem succeeds_makeParent (path : String) (disk : Disk) :
    Watched.Succeeds (makeParent path) disk fun _ made => made = disk ∨
      ∃ directory, Path.parent? path = some directory ∧
        disk.makeDirectories directory = .ok made := by
  simp only [makeParent]
  split
  next => exact Watched.succeeds_pure (Or.inl rfl)
  next directory parent =>
    split
    next => exact Watched.succeeds_pure (Or.inl rfl)
    next =>
      refine Watched.Succeeds.bind
        (Watched.succeeds_quietly (fun _ after => after = disk) rfl) ?_
      rintro present _ rfl
      split
      next => exact Watched.succeeds_pure (Or.inl rfl)
      next =>
        exact Watched.succeeds_attempt _ fun _ made done =>
          Or.inr ⟨directory, parent, Disk.makeDirectories_eq_ok done⟩

/-- The directory of a path is not made when it is there. -/
theorem succeeds_makeParent_of_leads (parent : Path.parent? path = some directory)
    (leads : disk.Leads directory place) :
    Watched.Succeeds (makeParent path) disk fun _ after => after = disk := by
  refine (succeeds_makeParent path disk).mono ?_
  rintro _ made (same | ⟨other, otherParent, makes⟩)
  · exact same
  · rw [parent] at otherParent
    cases otherParent
    exact Except.ok.inj (makes.symm.trans leads.makeDirectories_eq)

/-- Of the directories on a path only the last one has to be made. -/
theorem succeeds_makeParent_below {below : String} (isName : Path.IsName name)
    (isBelow : Path.IsName below) (leads : disk.Leads directory place) :
    Watched.Succeeds (makeParent (Path.join (Path.join directory below) name)) disk
      fun _ after => Disk.Changes {place ++ [below]} disk after := by
  refine (succeeds_makeParent _ disk).mono ?_
  rintro _ made (rfl | ⟨other, parent, makes⟩)
  · exact .refl _ made
  · rw [Path.parent?_join isName (Path.isTrimmed_join isBelow)] at parent
    cases parent
    exact Disk.makeDirectories_join isBelow leads makes

/-- A ledger has been saved: it is where its path leads, what was put beside it is gone, and
nothing else has changed since its directory was made. -/
structure IsSaved (ledger : Ledger) (path : String) (opened after : Disk)
    (directory name : String) (place : Place) : Prop where
  leads : opened.Leads directory place
  seats : after.Seats path directory name place
  file : after.at? (place ++ [name]) = some (.file ledger.encode)
  cleared : after.at? (place ++ [stagingName name]) = none
  changes : Disk.Changes {place ++ [name], place ++ [stagingName name]} opened after

theorem stagingName_ne (name : String) : stagingName name ≠ name := by
  intro same
  have length := congrArg (fun text => text.toList.length) same
  simp [stagingName] at length
  omega

/-- The staging file is beside a file that can be replaced by it: where the path has no name,
it leads to the directory in which the staging file is. -/
theorem exists_seats {opened written : Disk} {staged found : Place} {places : Set Place}
    (located : opened.locate (stagingPath path) = .ok staged)
    (changes : Disk.Changes places opened written)
    (locatedFound : written.locate path = .ok found)
    (noDirectory : written.at? found ≠ some .directory) :
    ∃ directory name place, opened.Leads directory place ∧
      written.Seats path directory name place ∧ found = place ++ [name] ∧
      staged = place ++ [stagingName name] := by
  obtain ⟨directory, place, holds, isTrimmed⟩ :=
    Disk.exists_holds_of_locate locatedFound noDirectory
  obtain ⟨filled, clean, -⟩ := Disk.reach_of_locate locatedFound
  rcases holds.named with ⟨name, named, isName, rfl⟩ | ⟨unnamed, -⟩
  · rw [stagingPath_eq holds.parent named] at located
    obtain ⟨other, leads, -, rfl⟩ := Disk.leads_of_locate_join (isName_stagingName isName)
      holds.leads.clean holds.leads.isTrimmed located
    obtain rfl := (changes.leads leads).unique holds.leads
    exact ⟨directory, name, other, leads,
      ⟨holds.parent, named, isName, holds.leads, holds.located⟩, rfl, rfl⟩
  · have staging : stagingPath path = Path.join path "..tmp" := by
      simp only [stagingPath, Path.withFileName, unnamed, Option.getD_none]
      rfl
    rw [staging] at located
    obtain ⟨other, leads, -, -⟩ := Disk.leads_of_locate_join
      (Path.isName_of_length (by decide) (by decide) (by decide)) clean isTrimmed located
    have leads := changes.leads leads
    obtain rfl : other = found := Except.ok.inj ((leads.locate filled).symm.trans locatedFound)
    exact absurd leads.isDirectory noDirectory

/-- A ledger is at its place when it is saved, and what was put beside it is gone. -/
theorem succeeds_saveAt (ledger : Ledger) {result : Disk → Prop}
    (made : Watched.Succeeds (makeParent path) disk fun _ after => result after) :
    Watched.Succeeds (ledger.save path) disk fun _ after => ∃ opened directory name place,
      result opened ∧ ledger.IsSaved path opened after directory name place := by
  refine made.bind fun _ opened holds => ?_
  refine Watched.Succeeds.bind (Watched.succeeds_attempt (fun _ after => ∃ staged,
    opened.locate (stagingPath path) = .ok staged ∧ Disk.Changes {staged} opened after)
    fun _ after done => ?_) ?_
  · obtain ⟨staged, located, -, creating⟩ := Disk.exists_of_write (Disk.create_eq_ok done)
    exact ⟨staged, located, creating⟩
  rintro _ created ⟨staged, located, creating⟩
  have locatedCreated := creating.locate_eq_ok located
  refine Watched.Succeeds.bind (Watched.succeeds_attempt (fun _ after =>
    after.at? staged = some (.file ledger.encode) ∧ Disk.Changes {staged} created after)
    fun _ after done => ?_) ?_
  · obtain ⟨other, locatedOther, file, writing⟩ :=
      Disk.exists_of_write (Disk.write_eq_ok done)
    obtain rfl : staged = other := Except.ok.inj (locatedCreated.symm.trans locatedOther)
    exact ⟨file, writing⟩
  rintro _ written ⟨file, writing⟩
  refine Watched.succeeds_attempt _ fun _ after done => ?_
  obtain ⟨origin, found, contents, locatedOrigin, fileOrigin, locatedFound, noDirectory, moved,
    cleared, moving⟩ := Disk.exists_of_rename (Disk.rename_eq_ok done)
  obtain rfl : staged = origin :=
    Except.ok.inj ((writing.locate_eq_ok locatedCreated).symm.trans locatedOrigin)
  have staging := creating.trans writing
  obtain ⟨directory, name, place, leads, seats, rfl, rfl⟩ :=
    exists_seats located staging locatedFound noDirectory
  rw [file] at fileOrigin
  cases fileOrigin
  refine ⟨opened, directory, name, place, holds, leads, seats.of_changes moving, moved,
    cleared ?_, ?_⟩
  · simpa using stagingName_ne name
  · rw [Set.pair_comm]
    exact (staging.mono (by simp)).trans moving

theorem IsSaved.eq_of_join {ledger : Ledger} {opened after : Disk} {way other : String}
    (saved : ledger.IsSaved (Path.join directory name) opened after way other place)
    (isName : Path.IsName name) (isTrimmed : Path.IsTrimmed directory) :
    way = directory ∧ other = name :=
  ⟨Option.some.inj (saved.seats.parent.symm.trans (Path.parent?_join isName isTrimmed)),
    Option.some.inj (saved.seats.named.symm.trans (Path.fileName?_join isName))⟩

theorem succeeds_save (ledger : Ledger) {places : Set Place} (isName : Path.IsName name)
    (isTrimmed : Path.IsTrimmed directory)
    (made : Watched.Succeeds (makeParent (Path.join directory name)) disk fun _ after =>
      Disk.Changes places disk after) :
    Watched.Succeeds (ledger.save (Path.join directory name)) disk fun _ after =>
      ∃ place, after.Leads directory place ∧ name.utf8ByteSize ≤ Disk.longestName ∧
        after.at? (place ++ [name]) = some (.file ledger.encode) ∧
        Disk.Changes (places ∪ {place ++ [name], place ++ [stagingName name]}) disk after := by
  refine (ledger.succeeds_saveAt made).mono ?_
  rintro _ after ⟨opened, way, other, place, opening, saved⟩
  obtain ⟨rfl, rfl⟩ := saved.eq_of_join isName isTrimmed
  have looked := (Disk.lookUp_eq_ok saved.seats.located).2 saved.file
  obtain ⟨fits, -⟩ := (Disk.lookUp_join_eq_ok isName saved.seats.leads).1 looked
  exact ⟨place, saved.seats.leads, fits, saved.file, (opening.mono Set.subset_union_left).trans
    (saved.changes.mono Set.subset_union_right)⟩

end Save

/-! ## Loading a ledger -/

/-- The store in what is found at a path. -/
def found (path : String) : Except DiskError Node → Except Fault Store
  | .ok (.file bytes) =>
      match decode? bytes with
      | some ledger => .ok ledger.store
      | none => .error (.ledgerMalformed path)
  | .ok .directory => .error (.ledgerMalformed path)
  | .error _ => .ok Keyed.empty

section Load

variable {path : String} {disk : Disk}

theorem run_load_file {bytes : Bytes} (looked : disk.lookUp path = .ok (.file bytes)) :
    (load path : ExceptT Fault (StateM Disk) Ledger).run.run disk =
      (match decode? bytes with
        | some ledger => .ok ledger
        | none => .error (.ledgerMalformed path), disk) := by
  have read : disk.read path = .ok bytes := by
    rw [Disk.read, looked]
    rfl
  rw [load, run_bind_of_ok (run_attempt_ok (Disk.run_read read) _)]
  cases decode? bytes <;> rfl

theorem run_load_directory (looked : disk.lookUp path = .ok .directory) :
    (load path : ExceptT Fault (StateM Disk) Ledger).run.run disk =
      (.error (.ledgerMalformed path), disk) := by
  have read : disk.read path = .error .isDirectory := by
    rw [Disk.read, looked]
    rfl
  exact run_bind_of_error (run_attempt_error (Disk.run_read read) _)

/-- What is read is a file. -/
theorem succeeds_read (path : String) (disk : Disk) (fault : DiskError → Fault) :
    Watched.Succeeds (attempt (Files.read path) fault) disk fun bytes after =>
      disk.lookUp path = .ok (.file bytes) ∧ after = disk := by
  refine Watched.succeeds_attempt _ fun bytes after done => ?_
  obtain ⟨read, rfl⟩ : disk.read path = .ok bytes ∧ disk = after := Prod.mk.inj done
  obtain ⟨found, located, file⟩ := Disk.read_eq_ok.1 read
  exact ⟨(Disk.lookUp_eq_ok located).2 file, rfl⟩

/-- A ledger that is at its path is loaded. -/
theorem succeeds_load {ledger : Ledger} (looked : disk.lookUp path = .ok (.file ledger.encode))
    (timed : ledger.IsTimed) :
    Watched.Succeeds (load path) disk fun found after => found = ledger ∧ after = disk := by
  refine (succeeds_read path disk _).bind ?_
  rintro bytes _ ⟨same, rfl⟩
  rw [looked] at same
  cases same
  rw [decode?_encode timed]
  exact Watched.succeeds_pure ⟨rfl, rfl⟩

/-- Loading depends only on what is found at the path. -/
theorem run_loadOrEmpty (path : String) (disk : Disk) :
    (Store.loadOrEmpty path : ExceptT Fault (StateM Disk) Store).run.run disk =
      (found path (disk.lookUp path), disk) := by
  have present : (liftM (Files.isPresent path : StateM Disk Bool) :
      ExceptT Fault (StateM Disk) Bool).run.run disk =
        (.ok (disk.lookUp path).toBool, disk) := rfl
  rw [Store.loadOrEmpty, run_bind_of_ok present]
  cases looked : disk.lookUp path with
  | error error => rfl
  | ok node =>
      change (Store.load path : ExceptT Fault (StateM Disk) Store).run.run disk = _
      cases node with
      | directory => exact run_bind_of_error (run_load_directory looked)
      | file bytes =>
          have loaded := run_load_file looked
          simp only [found]
          cases decoded : decode? bytes with
          | none =>
              rw [decoded] at loaded
              exact run_bind_of_error loaded
          | some ledger =>
              rw [decoded] at loaded
              exact run_bind_of_ok loaded

end Load
end Ledger

namespace Store

variable {disk : Disk} {place : Place} {directory stem : String}

/-- A ledger is loaded where it can be. -/
theorem succeeds_load {path : String} {kept : Store}
    (readable : Ledger.found path (disk.lookUp path) = .ok kept)
    (present : (disk.lookUp path).toBool = true) :
    Watched.Succeeds (Ledger.load path) disk fun ledger after =>
      ledger.store = kept ∧ after = disk := by
  refine (Ledger.succeeds_read path disk _).bind ?_
  rintro bytes _ ⟨looked, rfl⟩
  rw [looked] at readable
  simp only [Ledger.found] at readable
  cases decoded : Ledger.decode? bytes with
  | none =>
      rw [decoded] at readable
      cases readable
  | some ledger =>
      rw [decoded] at readable
      cases readable
      exact Watched.succeeds_pure ⟨rfl, rfl⟩

theorem succeeds_loadOrEmpty {path : String} {kept : Store}
    (readable : Ledger.found path (disk.lookUp path) = .ok kept) :
    Watched.Succeeds (Store.loadOrEmpty path) disk fun store after =>
      store = kept ∧ after = disk := by
  refine Watched.Succeeds.bind
    (Watched.succeeds_quietly (fun present after =>
      present = (disk.lookUp path).toBool ∧ after = disk) ⟨rfl, rfl⟩) ?_
  rintro present after ⟨isPresent, same⟩
  subst same
  split
  next there =>
    refine (succeeds_load readable (isPresent.symm.trans there)).bind ?_
    rintro ledger _ ⟨same, rfl⟩
    exact Watched.succeeds_pure ⟨same, rfl⟩
  next absent =>
    refine Watched.succeeds_pure ⟨?_, rfl⟩
    cases looked : after.lookUp path with
    | ok node => simp [isPresent, looked, Except.toBool] at absent
    | error error =>
        rw [looked] at readable
        exact Except.ok.inj readable

/-- The places at which something changes when a store is saved. -/
def touched (place : Place) (stem : String) : Set Place :=
  {place ++ [Ledger.fileName stem], place ++ [Ledger.stagingName (Ledger.fileName stem)],
    place ++ [Ledger.historyName stem]} ∪
  {other | ∃ updated, other = place ++ [Ledger.historyName stem] ++ [Ledger.pastName updated] ∨
    other = place ++ [Ledger.historyName stem] ++
      [Ledger.stagingName (Ledger.pastName updated)]}

/-- A store that is saved is in its ledger afterwards. -/
theorem succeeds_save (isStem : Path.IsStem stem) (leads : disk.Leads directory place)
    (store : Store) (now : Instant) :
    Watched.Succeeds (store.save (Path.join directory (Ledger.fileName stem)) now) disk
      fun _ after => (Ledger.fileName stem).utf8ByteSize ≤ Disk.longestName ∧
        after.at? (place ++ [Ledger.fileName stem]) =
          some (.file (Ledger.ofStore store now).encode) ∧
        Disk.Changes (touched place stem) disk after := by
  have isName := Ledger.isName_fileName isStem
  have made : Watched.Succeeds
      (Ledger.makeParent (Path.join directory (Ledger.fileName stem))) disk
      fun _ after => Disk.Changes ∅ disk after :=
    (Ledger.succeeds_makeParent_of_leads (Path.parent?_join isName leads.isTrimmed) leads).mono
      fun _ _ same => same ▸ .refl _ _
  refine ((Ledger.ofStore store now).succeeds_save isName leads.isTrimmed made).mono ?_
  rintro _ after ⟨other, others, fits, file, saving⟩
  obtain rfl := (saving.leads leads).unique others
  refine ⟨fits, file, saving.mono ?_⟩
  rw [Set.empty_union, Set.insert_subset_iff, Set.singleton_subset_iff]
  exact ⟨Or.inl (by simp), Or.inl (by simp)⟩

/-- A ledger is put into the history of its stem. -/
theorem succeeds_savePast (isStem : Path.IsStem stem) (leads : disk.Leads directory place)
    (previous : Ledger) :
    Watched.Succeeds
      (previous.save (previous.pastPath (Path.join directory (Ledger.fileName stem)))) disk
      fun _ after => Disk.Changes (touched place stem) disk after := by
  have isHistory := Ledger.isName_historyName isStem
  have isPast := Ledger.isName_pastName previous.updated
  rw [Ledger.pastPath_join leads.isTrimmed isStem]
  refine (previous.succeeds_save isPast (Path.isTrimmed_join isHistory)
    (Ledger.succeeds_makeParent_below isPast isHistory leads)).mono ?_
  rintro _ after ⟨below, leadsBelow, -, -, saving⟩
  obtain rfl := (saving.leads leads).eq_append isHistory leadsBelow
  refine saving.mono ?_
  rw [Set.singleton_union, Set.insert_subset_iff, Set.insert_subset_iff,
    Set.singleton_subset_iff]
  exact ⟨Or.inl (by simp), Or.inr ⟨previous.updated, Or.inl rfl⟩,
    Or.inr ⟨previous.updated, Or.inr rfl⟩⟩

/-- The ledger that is there goes to the history, and the store is in its ledger. -/
theorem succeeds_saveWithHistory {kept : Store} (isStem : Path.IsStem stem)
    (leads : disk.Leads directory place) (store : Store) (now : Instant)
    (readable : Ledger.found (Path.join directory (Ledger.fileName stem))
      (disk.lookUp (Path.join directory (Ledger.fileName stem))) = .ok kept) :
    Watched.Succeeds
      (store.saveWithHistory (Path.join directory (Ledger.fileName stem)) now) disk
      fun _ after => (Ledger.fileName stem).utf8ByteSize ≤ Disk.longestName ∧
        after.at? (place ++ [Ledger.fileName stem]) =
          some (.file (Ledger.ofStore store now).encode) ∧
        Disk.Changes (touched place stem) disk after := by
  refine Watched.Succeeds.bind
    (Watched.succeeds_quietly (fun present after =>
      present = (disk.lookUp (Path.join directory (Ledger.fileName stem))).toBool ∧ after = disk)
      ⟨rfl, rfl⟩) ?_
  rintro present _ ⟨isPresent, rfl⟩
  dsimp only
  split
  next there =>
    refine (succeeds_load readable (isPresent.symm.trans there)).bind ?_
    rintro previous _ ⟨-, rfl⟩
    refine (succeeds_savePast isStem leads previous).bind fun _ between putAway => ?_
    refine (succeeds_save isStem (putAway.leads leads) store now).mono ?_
    rintro _ after ⟨fits, file, saving⟩
    exact ⟨fits, file, putAway.trans saving⟩
  next => exact succeeds_save isStem leads store now

/-- What is changed for one stem is the ledger of no other one. -/
theorem eq_of_mem_touched {other : Place} {otherStem : String}
    (member : other ++ [Ledger.fileName otherStem] ∈ touched place stem) : otherStem = stem := by
  have last {place : Place} {name : String}
      (same : other ++ [Ledger.fileName otherStem] = place ++ [name]) :
      otherStem.toList ++ ".transforms.json".toList = name.toList := by
    rw [← List.singleton_inj.1 (List.append_inj' same rfl).2, Ledger.fileName,
      String.toList_append]
  -- The names differ in their last letters, or, among the earlier ledgers, in one before.
  rcases member with (same | same | same) | ⟨updated, same | same⟩
  · have names := last same
    rw [Ledger.fileName, String.toList_append] at names
    exact String.toList_inj.1 (List.append_cancel_right names)
  · have letters := congrArg List.getLast? (last same)
    simp [Ledger.stagingName, List.getLast?_cons] at letters
  · have letters := congrArg List.getLast? (last same)
    simp [Ledger.historyName] at letters
  · have names := last same
    have cut : ".transforms.json".toList = ".transforms".toList ++ ".json".toList := rfl
    rw [Ledger.pastName, String.toList_append, cut, ← List.append_assoc] at names
    have member : 's' ∈ updated.fileStamp.toList := by
      rw [← List.append_cancel_right names]
      simp
    rcases Instant.mem_fileStamp member with digit | sign
    · contradiction
    · simp at sign
  · have letters := congrArg List.getLast? (last same)
    simp [Ledger.stagingName, List.getLast?_cons] at letters

end Store

/-! ## Where a ledger is -/

/-- A path is that of the ledger of a stem in the directory at a place. -/
structure Ledger.IsSeated (disk : Disk) (path : String) (place : Place) (stem : String) :
    Prop where
  isStem : Path.IsStem stem
  path_eq : ∃ directory, disk.Leads directory place ∧
    path = Path.join directory (Ledger.fileName stem)

namespace Ledger.IsSeated

variable {disk after : Disk} {path : String} {place : Place} {stem : String}

theorem of_changes {places : Set Place} (seated : IsSeated disk path place stem)
    (changes : Disk.Changes places disk after) : IsSeated after path place stem := by
  obtain ⟨directory, leads, rfl⟩ := seated.path_eq
  exact ⟨seated.isStem, directory, changes.leads leads, rfl⟩

/-- Another ledger is found as it was. -/
theorem lookUp_eq {other : Place} {otherStem : String} (seated : IsSeated disk path place stem)
    (different : stem ≠ otherStem)
    (changes : Disk.Changes (Store.touched other otherStem) disk after) :
    after.lookUp path = disk.lookUp path := by
  obtain ⟨directory, leads, rfl⟩ := seated.path_eq
  exact Disk.lookUp_join_congr (isName_fileName seated.isStem) leads (changes.leads leads)
    (changes.elsewhere _ fun member => different (Store.eq_of_mem_touched member))

/-- A store that is saved is loaded again. -/
theorem succeeds_save {store kept : Store} {now : Instant} (seated : IsSeated disk path place stem)
    (timed : store.IsTimed) (isTime : now.IsTime)
    (readable : found path (disk.lookUp path) = .ok kept) :
    Watched.Succeeds (store.saveWithHistory path now) disk fun _ after =>
      found path (after.lookUp path) = .ok store ∧
        Disk.Changes (Store.touched place stem) disk after := by
  obtain ⟨directory, leads, rfl⟩ := seated.path_eq
  refine (Store.succeeds_saveWithHistory seated.isStem leads store now readable).mono ?_
  rintro _ after ⟨fits, file, changes⟩
  refine ⟨?_, changes⟩
  have looked := (Disk.lookUp_join_eq_ok (isName_fileName seated.isStem)
    (changes.leads leads)).2 ⟨fits, file⟩
  have read := decode?_encode (isTimed_ofStore timed isTime)
  simp only [found, looked, read, store_ofStore]

/-- The same ledger is found by any path to it. -/
theorem found_eq_ok {other : String} {store : Store} (seated : IsSeated disk path place stem)
    (otherSeated : IsSeated after other place stem)
    (same : after.at? (place ++ [fileName stem]) = disk.at? (place ++ [fileName stem]))
    (readable : found path (disk.lookUp path) = .ok store) :
    found other (after.lookUp other) = .ok store := by
  obtain ⟨directory, leads, rfl⟩ := seated.path_eq
  obtain ⟨way, leadsThere, rfl⟩ := otherSeated.path_eq
  rw [Disk.lookUp_join_congr (isName_fileName seated.isStem) leads leadsThere same]
  revert readable
  simp only [found]
  split
  next =>
    split
    next => exact id
    next =>
      intro impossible
      cases impossible
  next =>
    intro impossible
    cases impossible
  next => exact id

end Ledger.IsSeated
end ColumnChain
