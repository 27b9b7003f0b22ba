import ColumnChain.Proofs.Saving

/-!
# Saved stores

A store that is saved is loaded again as it was: with the same records, in the same order.
Saving either ends in a failed file operation, or leaves the whole ledger where its path
leads; and it does not fail where there is room for the ledger, and for the file that is put
beside it on the way.
-/

namespace ColumnChain

namespace Ledger

/-- An operation on a watched disk that works. -/
theorem run_attempt_watched (operation : Disk → Except DiskError Disk) {disk after : Disk}
    (works : operation disk = .ok after) (fault : DiskError → Fault) :
    (attempt (Watched.noting (Disk.attempt operation)) fault).run.run ⟨disk, false⟩ =
      (.ok (), ⟨after, false⟩) :=
  run_attempt_ok (Watched.run_noting (Disk.run_attempt_of_ok operation works)) fault

/-- There is room for a ledger: the directory of its path is there, and no directory has the
name of the ledger, or that of the file that is put beside it. -/
structure HasRoom (disk : Disk) (path directory name : String) (place : Place) : Prop where
  seats : disk.Seats path directory name place
  free : disk.at? (place ++ [name]) ≠ some .directory
  fits : (stagingName name).utf8ByteSize ≤ Disk.longestName
  freeBeside : disk.at? (place ++ [stagingName name]) ≠ some .directory

variable {disk : Disk} {path directory name : String} {place : Place}

theorem run_isPresent_watched (disk : Disk) (path : String) :
    (liftM (Files.isPresent path : StateM (Watched Disk) Bool) :
      ExceptT Fault (StateM (Watched Disk)) Bool).run.run ⟨disk, false⟩ =
        (.ok (disk.lookUp path).toBool, ⟨disk, false⟩) :=
  rfl

theorem run_makeParent (seats : disk.Seats path directory name place) :
    (makeParent path : ExceptT Fault (StateM (Watched Disk)) Unit).run.run ⟨disk, false⟩ =
      (.ok (), ⟨disk, false⟩) := by
  simp only [makeParent, seats.parent]
  split
  next => rfl
  next filled =>
    rw [run_bind_of_ok (run_isPresent_watched disk directory), seats.leads.lookUp filled]
    rfl

/-- A ledger is saved where there is room for it once its directory has been made. -/
theorem exists_run_save (ledger : Ledger) {opened : Disk}
    (made : (makeParent path : ExceptT Fault (StateM (Watched Disk)) Unit).run.run
      ⟨disk, false⟩ = (.ok (), ⟨opened, false⟩))
    (room : HasRoom opened path directory name place) :
    ∃ after, (ledger.save path : ExceptT Fault (StateM (Watched Disk)) Unit).run.run
      ⟨disk, false⟩ = (.ok (), ⟨after, false⟩) := by
  have staging := stagingPath_eq room.seats.parent room.seats.named
  have beside := Disk.Seats.of_join (isName_stagingName room.seats.isName) room.seats.leads
    room.fits
  rw [← staging] at beside
  obtain ⟨created, creates⟩ : ∃ created, opened.write (stagingPath path) [] = .ok created :=
    ⟨_, Disk.write_ok_iff.2 ⟨_, beside.located, room.freeBeside, rfl⟩⟩
  obtain ⟨staged, located, empty, creating⟩ := Disk.exists_of_write creates
  obtain rfl : _ = staged := Except.ok.inj (beside.located.symm.trans located)
  have besideCreated := beside.of_changes creating
  obtain ⟨written, writes⟩ : ∃ written,
      created.write (stagingPath path) ledger.encode = .ok written :=
    ⟨_, Disk.write_ok_iff.2 ⟨_, besideCreated.located, by simp [empty], rfl⟩⟩
  obtain ⟨staged, located, file, writing⟩ := Disk.exists_of_write writes
  obtain rfl : _ = staged := Except.ok.inj (besideCreated.located.symm.trans located)
  have changes := creating.trans writing
  have free : written.at? (place ++ [name]) ≠ some .directory := by
    rw [changes.elsewhere]
    · exact room.free
    · simpa using (stagingName_ne name).symm
  obtain ⟨after, renames⟩ : ∃ after, written.rename (stagingPath path) path = .ok after :=
    ⟨_, Disk.rename_ok_iff.2 ⟨_, _, _, (besideCreated.of_changes writing).located, file,
      (room.seats.of_changes changes).located, free, rfl⟩⟩
  refine ⟨after, ?_⟩
  rw [save, run_bind_of_ok made]
  refine (run_bind_of_ok (run_attempt_watched (·.write _ []) creates _)).trans ?_
  refine (run_bind_of_ok (run_attempt_watched (·.write _ _) writes _)).trans ?_
  exact run_attempt_watched (·.rename _ path) renames _

/-- A ledger that has been saved is loaded as it was. -/
theorem IsSaved.run_load {ledger : Ledger} {opened after : Disk}
    (saved : ledger.IsSaved path opened after directory name place) (timed : ledger.IsTimed) :
    (load path : ExceptT Fault (StateM Disk) Ledger).run.run after = (.ok ledger, after) := by
  rw [run_load_file ((Disk.lookUp_eq_ok saved.seats.located).2 saved.file), decode?_encode timed]

end Ledger

namespace Store

variable {store : Store} {now : Instant}

theorem run_load {path : String} {ledger : Ledger} {disk : Disk}
    (loads : (Ledger.load path : ExceptT Fault (StateM Disk) Ledger).run.run disk =
      (.ok ledger, disk)) :
    (load path : ExceptT Fault (StateM Disk) Store).run.run disk = (.ok ledger.store, disk) :=
  run_bind_of_ok loads

/-- A store that is saved, and of whose file operations none fails, is the store that is
loaded, with the same records in the same order. Where there is room for the ledger, none
fails. -/
theorem load_of_save (timed : store.IsTimed) (isTime : now.IsTime) (disk : Disk)
    (path : String) :
    (Watched.Succeeds (store.save path now) disk fun _ after =>
      (load path : ExceptT Fault (StateM Disk) Store).run.run after = (.ok store, after)) ∧
    ∀ directory name place, Ledger.HasRoom disk path directory name place →
      ∃ after, (store.save path now : ExceptT Fault (StateM (Watched Disk)) Unit).run.run
          ⟨disk, false⟩ = (.ok (), ⟨after, false⟩) ∧
        (load path : ExceptT Fault (StateM Disk) Store).run.run after = (.ok store, after) := by
  have succeeds : Watched.Succeeds (store.save path now) disk fun _ after =>
      (load path : ExceptT Fault (StateM Disk) Store).run.run after = (.ok store, after) := by
    refine ((Ledger.ofStore store now).succeeds_saveAt
      (Ledger.succeeds_makeParent path disk)).mono ?_
    rintro _ after ⟨opened, directory, name, place, -, saved⟩
    have loads := run_load (saved.run_load (Ledger.isTimed_ofStore timed isTime))
    rwa [Ledger.store_ofStore] at loads
  refine ⟨succeeds, fun directory name place room => ?_⟩
  obtain ⟨after, saves⟩ := (Ledger.ofStore store now).exists_run_save
    (Ledger.run_makeParent room.seats) room
  obtain ⟨-, -, loads⟩ := succeeds.of_run saves rfl
  exact ⟨after, saves, loads⟩

/-- A record with texts and times that are hard to write. -/
def oddRecord : Transformation where
  id := "\"id\"\\\x00\n"
  dataset := "données"
  column := "名前 \x7f"
  expression := "CONCAT('\t', '😀')"
  category := .text
  status := .deleted
  sequence := 4294967295
  created := ⟨⟨0, 2, 29, by decide⟩, 86399, 1999999999⟩
  output := .column ""
  updated := some ⟨⟨9999, 12, 31, by decide⟩, 0, 1⟩

/-- A store of that record and of one that is kept after it and comes before it by its id. -/
def oddStore : Store where
  entries := [oddRecord, { oddRecord with id := "", output := .overwrite, updated := none }]
  distinct := by decide

theorem isTimed_oddStore : oddStore.IsTimed := by
  simp only [Store.IsTimed, oddStore, List.forall_mem_cons]
  exact ⟨⟨by decide, by decide⟩, ⟨by decide, by decide⟩, List.forall_mem_nil _⟩

/-- A disk with nothing but the root. -/
def bareDisk : Disk :=
  ⟨Keyed.empty, []⟩

theorem hasRoom_bareDisk :
    Ledger.HasRoom bareDisk "people.json" "" "people.json" [] where
  seats := {
    parent := by decide +kernel
    named := by decide +kernel
    isName := Path.isName_of_length (by decide) (by decide) (by decide)
    leads := ⟨by decide, rfl, rfl, rfl⟩
    located := by decide +kernel }
  free := by decide +kernel
  fits := by decide +kernel
  freeBeside := by decide +kernel

theorem load_of_save_oddStore :
    ∃ after, (oddStore.save "people.json" default :
        ExceptT Fault (StateM (Watched Disk)) Unit).run.run ⟨bareDisk, false⟩ =
          (.ok (), ⟨after, false⟩) ∧
      (load "people.json" : ExceptT Fault (StateM Disk) Store).run.run after =
        (.ok oddStore, after) :=
  (load_of_save isTimed_oddStore (by decide) bareDisk "people.json").2 _ _ _ hasRoom_bareDisk

end Store
end ColumnChain
