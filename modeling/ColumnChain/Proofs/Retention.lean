import ColumnChain.Proofs.History

/-!
# Runs of saves

A store that is saved again and again to a path at which there was no ledger and no history
loses no version. Where there is room for the ledger and for its history, no file operation
fails in such a run.
-/

namespace ColumnChain

theorem utf8ByteSize_le (text : String) : text.utf8ByteSize ≤ 4 * text.toList.length := by
  have each (letters : List Char) :
      (String.ofList letters).utf8ByteSize ≤ 4 * letters.length := by
    induction letters with
    | nil => exact Nat.le_refl _
    | cons c letters ih =>
        have size := c.utf8Size_le_four
        rw [String.ofList_cons, String.utf8ByteSize_append, String.utf8ByteSize_singleton,
          List.length_cons]
        omega
  simpa using each text.toList

namespace Ledger

/-! ## Room for a history -/

/-- The names of the files in a history are not too long, also while they are written. -/
theorem fits_past {updated : Instant} (isTime : updated.IsTime) (plain : updated.HasPlainYear) :
    (pastName updated).utf8ByteSize ≤ Disk.longestName ∧
      (stagingName (pastName updated)).utf8ByteSize ≤ Disk.longestName := by
  have length := Instant.length_fileStamp isTime plain
  constructor <;>
  · refine (utf8ByteSize_le _).trans ?_
    simp [stagingName, pastName, length, Disk.longestName]

theorem stagingName_ne_pastDirectoryName (name other : String) :
    stagingName name ≠ pastDirectoryName other := by
  intro same
  have letters := congrArg (fun text => text.toList.getLast?) same
  simp [stagingName, pastDirectoryName, List.getLast?_cons] at letters

/-- There is room for a ledger, and for the directory of its history beside it. -/
structure HasHistoryRoom (disk : Disk) (path directory name : String) (place : Place) : Prop
    extends HasRoom disk path directory name place where
  fitsPast : (pastDirectoryName name).utf8ByteSize ≤ Disk.longestName
  freePast : ∀ bytes, disk.at? (place ++ [pastDirectoryName name]) ≠ some (.file bytes)
  apart : pastDirectoryName name ≠ name

variable {disk after : Disk} {path directory name : String} {place : Place}
  {earlier : List Version} {last : Version}

/-- The directory of the history is made where it is missing. -/
theorem HasHistoryRoom.exists_run_makeParent
    (room : HasHistoryRoom disk path directory name place) (previous : Ledger) :
    ∃ opened, (makeParent (previous.pastPath path) :
        ExceptT Fault (StateM (Watched Disk)) Unit).run.run ⟨disk, false⟩ =
          (.ok (), ⟨opened, false⟩) ∧
      opened.Leads (historyPath path) (place ++ [pastDirectoryName name]) ∧
      Disk.Changes {place ++ [pastDirectoryName name]} disk opened := by
  have isPast := isName_pastName previous.updated
  have isBelow := isName_pastDirectoryName room.seats.isName
  have filled : ¬ (Path.join directory (pastDirectoryName name)).isEmpty = true := by
    rw [String.isEmpty_iff, ← String.toList_eq_nil_iff]
    exact Path.toList_join_ne_nil isBelow
  rw [pastPath_eq, historyPath_eq room.seats.parent room.seats.named]
  simp only [makeParent, Path.parent?_join isPast (Path.isTrimmed_join isBelow)]
  rw [if_neg filled, run_bind_of_ok (run_isPresent_watched _ _)]
  cases there : disk.at? (place ++ [pastDirectoryName name]) with
  | none =>
      have makes := Disk.makeDirectories_join_of_none isBelow room.seats.leads room.fitsPast there
      have making := Disk.makeDirectories_join isBelow room.seats.leads makes
      have missing : (disk.lookUp (Path.join directory (pastDirectoryName name))).toBool =
          false := by
        cases looked : disk.lookUp (Path.join directory (pastDirectoryName name)) with
        | error error => rfl
        | ok node =>
            have found := ((Disk.lookUp_join_eq_ok isBelow room.seats.leads).1 looked).2
            rw [there] at found
            cases found
      refine ⟨_, ?_, (making.leads room.seats.leads).below isBelow room.fitsPast ?_, making⟩
      · rw [missing]
        exact run_attempt_watched (·.makeDirectories _) makes _
      · rw [Disk.at?_put (by simp), if_pos rfl]
  | some node =>
      cases node with
      | file bytes => exact absurd there (room.freePast bytes)
      | directory =>
          refine ⟨disk, ?_, room.seats.leads.below isBelow room.fitsPast there, .refl _ disk⟩
          rw [(Disk.lookUp_join_eq_ok isBelow room.seats.leads).2 ⟨room.fitsPast, there⟩]
          rfl

/-- A ledger that is kept is put into the history. -/
theorem IsKept.exists_run_archive (kept : IsKept disk path directory name place earlier last)
    (room : HasHistoryRoom disk path directory name place) (timed : last.IsTimed) :
    ∃ after, (last.ledger.save (last.ledger.pastPath path) :
      ExceptT Fault (StateM (Watched Disk)) Unit).run.run ⟨disk, false⟩ =
        (.ok (), ⟨after, false⟩) := by
  obtain ⟨opened, made, leads, opening⟩ := room.exists_run_makeParent last.ledger
  obtain ⟨fits, fitsStaging⟩ := fits_past timed.saved timed.plain
  have located := (locate_historyPath kept.seats).2 ⟨room.fitsPast, rfl⟩
  -- There are only files in the directory of the history.
  have free (entry : String) : opened.at? (place ++ [pastDirectoryName name] ++ [entry]) ≠
      some .directory := by
    rw [opening.elsewhere _ (by simp), ne_eq, kept.past _ located]
    rintro ⟨version, -, -, impossible⟩
    cases impossible
  exact last.ledger.exists_run_save made
    ⟨.of_join (isName_pastName _) leads fits, free _, fitsStaging, free _⟩

/-- After a save there is room for the next one. -/
theorem IsKept.hasHistoryRoom (kept : IsKept disk path directory name place earlier last)
    (fits : (stagingName name).utf8ByteSize ≤ Disk.longestName)
    (fitsPast : (pastDirectoryName name).utf8ByteSize ≤ Disk.longestName)
    (freePast : ∀ bytes, disk.at? (place ++ [pastDirectoryName name]) ≠ some (.file bytes))
    (apart : pastDirectoryName name ≠ name) : HasHistoryRoom disk path directory name place where
  seats := kept.seats
  free := by simp [kept.file]
  fits := fits
  freeBeside := by simp [kept.cleared]
  fitsPast := fitsPast
  freePast := freePast
  apart := apart

theorem run_load_watched {ledger : Ledger} (looked : disk.lookUp path = .ok (.file ledger.encode))
    (timed : ledger.IsTimed) :
    (load path : ExceptT Fault (StateM (Watched Disk)) Ledger).run.run ⟨disk, false⟩ =
      (.ok ledger, ⟨disk, false⟩) := by
  have read : disk.read path = .ok ledger.encode := by
    rw [Disk.read, looked]
    rfl
  refine (run_bind_of_ok
    (run_attempt_ok (Watched.run_noting (Disk.run_read read)) _)).trans ?_
  rw [decode?_encode timed]
  rfl

section Step

variable (kept : IsKept disk path directory name place earlier last)
  (room : HasHistoryRoom disk path directory name place)

include kept room

/-- The next version is saved, and there is room for one more. -/
theorem IsKept.exists_run_saveWithHistory (timed : last.IsTimed)
    (fresh : ∀ version ∈ earlier, pastName version.saved ≠ pastName last.saved)
    (next : Version) :
    ∃ after, (next.store.saveWithHistory path next.saved :
        ExceptT Fault (StateM (Watched Disk)) Unit).run.run ⟨disk, false⟩ =
          (.ok (), ⟨after, false⟩) ∧
      HasHistoryRoom after path directory name place := by
  obtain ⟨between, archives⟩ := kept.exists_run_archive room timed
  obtain ⟨_, -, below, past, -, -, archiving⟩ :=
    (succeeds_archive kept.seats last.ledger).of_run archives rfl
  have seats := kept.seats.of_changes archiving
  obtain ⟨-, rfl⟩ := (locate_historyPath seats).1
    (past.leads.locate (toList_historyPath_ne_nil seats))
  have roomBetween : HasRoom between path directory name place := by
    refine ⟨seats, ?_, room.fits, ?_⟩
    · rw [archiving.elsewhere]
      · exact room.free
      · simpa using room.apart.symm
    · rw [archiving.elsewhere]
      · exact room.freeBeside
      · simpa using stagingName_ne_pastDirectoryName name name
  obtain ⟨after, saves⟩ := next.ledger.exists_run_save (run_makeParent seats) roomBetween
  have run : (next.store.saveWithHistory path next.saved :
      ExceptT Fault (StateM (Watched Disk)) Unit).run.run ⟨disk, false⟩ =
        (.ok (), ⟨after, false⟩) := by
    refine (run_bind_of_ok (run_isPresent_watched disk path)).trans ?_
    rw [kept.lookUp]
    refine (run_bind_of_ok (run_load_watched kept.lookUp timed.ledger)).trans ?_
    exact (run_bind_of_ok archives).trans saves
  refine ⟨after, run, ?_⟩
  obtain ⟨_, -, keptAfter⟩ :=
    (kept.succeeds_saveWithHistory timed.ledger fresh next).of_run run rfl
  refine keptAfter.hasHistoryRoom room.fits room.fitsPast (fun bytes file => ?_) room.apart
  have listed := keptAfter.listed.2 (by simp)
  rw [historyPath_eq keptAfter.seats.parent keptAfter.seats.named, Disk.lookUp_join_eq_ok
    (isName_pastDirectoryName keptAfter.seats.isName) keptAfter.seats.leads, file] at listed
  cases listed.2

/-- The history is listed. -/
theorem IsKept.exists_run_history : ∃ listing, (history path :
    ExceptT Fault (StateM (Watched Disk)) (List String)).run.run ⟨disk, false⟩ =
      (.ok listing, ⟨disk, false⟩) := by
  simp only [history]
  rw [run_bind_of_ok (run_isPresent_watched disk (historyPath path))]
  cases looked : disk.lookUp (historyPath path) with
  | error error => exact ⟨[], rfl⟩
  | ok node =>
      obtain ⟨below, located, -⟩ := Store.bind_eq_ok.1 looked
      have there := (Disk.lookUp_eq_ok located).1 looked
      cases node with
      | file bytes =>
          obtain ⟨-, rfl⟩ := (locate_historyPath kept.seats).1 located
          exact absurd there (room.freePast bytes)
      | directory =>
          have listed : disk.names (historyPath path) = .ok (disk.children below) :=
            Store.bind_eq_ok.2 ⟨below, located,
              Store.bind_eq_ok.2 ⟨(), Disk.enter_eq_ok.2 there, rfl⟩⟩
          have names : (Files.names (historyPath path) : StateM Disk _).run disk =
              (.ok (disk.children below), disk) := congrArg (·, disk) listed
          simp only [Except.toBool, if_true]
          exact ⟨_, (run_bind_of_ok (run_attempt_ok (Watched.run_noting names) _)).trans rfl⟩

end Step

/-- All versions are saved. -/
theorem IsKept.exists_run_saveEach {rest : List Version}
    (kept : IsKept disk path directory name place earlier last)
    (room : HasHistoryRoom disk path directory name place)
    (timed : ∀ version ∈ last :: rest, version.IsTimed)
    (ordered : (earlier ++ last :: rest).Pairwise fun version later =>
      pastName version.saved < pastName later.saved) :
    ∃ after, (saveEach path rest : ExceptT Fault (StateM (Watched Disk)) Unit).run.run
        ⟨disk, false⟩ = (.ok (), ⟨after, false⟩) ∧
      HasHistoryRoom after path directory name place := by
  induction rest generalizing disk earlier last with
  | nil => exact ⟨disk, rfl, room⟩
  | cons next rest ih =>
      rw [List.forall_mem_cons] at timed
      have fresh := fresh_of_ordered ordered
      obtain ⟨between, saves, roomBetween⟩ :=
        kept.exists_run_saveWithHistory room timed.1 fresh next
      obtain ⟨_, -, keptBetween⟩ :=
        (kept.succeeds_saveWithHistory timed.1.ledger fresh next).of_run saves rfl
      rw [List.append_cons] at ordered
      obtain ⟨after, others, roomAfter⟩ := ih keptBetween roomBetween timed.2 ordered
      exact ⟨after, (run_bind_of_ok saves).trans others, roomAfter⟩

/-- The first version is saved, and there is room for the next one. -/
theorem IsNew.exists_run_saveWithHistory (new : IsNew disk path) (tree : disk.IsTree)
    (room : HasHistoryRoom disk path directory name place) (first : Version) :
    ∃ after, (first.store.saveWithHistory path first.saved :
        ExceptT Fault (StateM (Watched Disk)) Unit).run.run ⟨disk, false⟩ =
          (.ok (), ⟨after, false⟩) ∧
      IsKept after path directory name place [] first ∧
      HasHistoryRoom after path directory name place := by
  have absent : (disk.lookUp path).toBool = false := by
    cases looked : disk.lookUp path with
    | error error => rfl
    | ok node =>
        have there := (Disk.lookUp_eq_ok room.seats.located).1 looked
        cases node with
        | file bytes => exact absurd looked (new.noLedger bytes)
        | directory => exact absurd there room.free
  obtain ⟨after, saves⟩ :=
    first.ledger.exists_run_save (run_makeParent room.seats) room.toHasRoom
  have run : (first.store.saveWithHistory path first.saved :
      ExceptT Fault (StateM (Watched Disk)) Unit).run.run ⟨disk, false⟩ =
        (.ok (), ⟨after, false⟩) := by
    refine (run_bind_of_ok (run_isPresent_watched disk path)).trans ?_
    rw [absent]
    exact saves
  have parent := succeeds_makeParent_of_leads room.seats.parent room.seats.leads
  obtain ⟨_, -, _, way, other, elsewhere, rfl, saved⟩ :=
    (first.ledger.succeeds_saveAt parent).of_run saves rfl
  have seats := room.seats.of_changes saved.changes
  obtain ⟨rfl, rfl, rfl⟩ := seats.unique saved.seats
  obtain ⟨_, -, way, other, elsewhere, kept⟩ :=
    (new.succeeds_saveWithHistory tree first).of_run run rfl
  obtain ⟨rfl, rfl, rfl⟩ := seats.unique kept.seats
  refine ⟨after, run, kept,
    kept.hasHistoryRoom room.fits room.fitsPast (fun bytes => ?_) room.apart⟩
  rw [saved.changes.elsewhere]
  · exact room.freePast bytes
  · simpa using ⟨room.apart, (stagingName_ne_pastDirectoryName _ _).symm⟩

/-! ## Runs of saves -/

/-- Each version in turn is saved to a path, and then the history is listed. -/
def saveAll {m : Type → Type} [Monad m] [Files m] (path : String) (versions : List Version) :
    ExceptT Fault m (List String) := do
  saveEach path versions
  history path

section Runs

variable (tree : disk.IsTree) (new : IsNew disk path)
  (timed : ∀ version ∈ earlier ++ [last], version.IsTimed)

include timed

theorem pairwise_pastName
    (increasing : (earlier ++ [last]).Pairwise fun version later =>
      version.saved.toMillisecond.compare later.saved.toMillisecond = .lt) :
    (earlier ++ [last]).Pairwise fun version later =>
      pastName version.saved < pastName later.saved :=
  increasing.imp_of_mem fun member laterMember before =>
    (timed _ member).pastName_lt (timed _ laterMember) before

include tree new

theorem exists_run_saveAll (room : HasHistoryRoom disk path directory name place)
    (ordered : (earlier ++ [last]).Pairwise fun version later =>
      pastName version.saved < pastName later.saved) :
    ∃ listing after, (saveAll path (earlier ++ [last]) :
      ExceptT Fault (StateM (Watched Disk)) (List String)).run.run ⟨disk, false⟩ =
        (.ok listing, ⟨after, false⟩) := by
  obtain ⟨first, rest, whole⟩ : ∃ first rest, earlier ++ [last] = first :: rest :=
    List.exists_cons_of_ne_nil (by simp)
  rw [whole] at timed ordered ⊢
  obtain ⟨between, saves, kept, roomBetween⟩ := new.exists_run_saveWithHistory tree room first
  obtain ⟨after, others, roomAfter⟩ := kept.exists_run_saveEach roomBetween timed ordered
  obtain ⟨_, -, front, final, -, keptAfter⟩ :=
    (kept.succeeds_saveEach (fun version member => (timed version member).ledger)
      ordered).of_run others rfl
  obtain ⟨listing, lists⟩ := keptAfter.exists_run_history roomAfter
  exact ⟨listing, after, (run_bind_of_ok ((run_bind_of_ok saves).trans others)).trans lists⟩

/-- No version that is saved is lost, where there was no ledger and no history, and versions
are saved in later and later milliseconds: a file operation fails, or afterwards all versions
but the last one are listed and loaded from the history, and the last one from the ledger.
Where there is room for both, no file operation fails. -/
theorem isComplete_after_saves
    (increasing : (earlier ++ [last]).Pairwise fun version later =>
      version.saved.toMillisecond.compare later.saved.toMillisecond = .lt) :
    Watched.Succeeds (saveAll path (earlier ++ [last])) disk (IsComplete path earlier last) ∧
    ∀ directory name place, HasHistoryRoom disk path directory name place →
      ∃ listing after, (saveAll path (earlier ++ [last]) :
          ExceptT Fault (StateM (Watched Disk)) (List String)).run.run ⟨disk, false⟩ =
            (.ok listing, ⟨after, false⟩) ∧
        IsComplete path earlier last listing after := by
  have ordered := pairwise_pastName timed increasing
  have succeeds : Watched.Succeeds (saveAll path (earlier ++ [last])) disk
      (IsComplete path earlier last) := by
    refine (new.succeeds_saveEach tree (fun version member => (timed version member).ledger)
      ordered).bind ?_
    rintro _ after ⟨directory, name, place, kept⟩
    refine (kept.succeeds_history (List.pairwise_append.1 ordered).1).mono ?_
    rintro _ _ ⟨rfl, rfl⟩
    exact kept.isComplete timed
  refine ⟨succeeds, fun directory name place room => ?_⟩
  obtain ⟨listing, after, run⟩ := exists_run_saveAll tree new timed room ordered
  obtain ⟨_, same, complete⟩ := succeeds.of_run run rfl
  cases same
  exact ⟨listing, after, run, complete⟩

end Runs

/-- Two versions, one of which is saved in a leap second. -/
def oddVersions : List Version :=
  [⟨Keyed.empty, ⟨⟨1999, 12, 31, by decide⟩, 86399, 1999000000⟩⟩,
    ⟨Store.oddStore, ⟨⟨2000, 1, 1, by decide⟩, 0, 999999⟩⟩]

/-- A version that is saved a nanosecond after the last of them, in the next millisecond. -/
def oddLast : Version :=
  ⟨Keyed.empty, ⟨⟨2000, 1, 1, by decide⟩, 0, 1000000⟩⟩

theorem isNew_bareDisk : IsNew Store.bareDisk "people.json" :=
  isNew_of_leads Store.hasRoom_bareDisk.seats.parent Store.hasRoom_bareDisk.seats.leads
    (fun bytes => by
      have nothing : Store.bareDisk.lookUp "people.json" = .error .missing := by decide +kernel
      simp [nothing])
    (by decide +kernel)

theorem hasHistoryRoom_bareDisk :
    HasHistoryRoom Store.bareDisk "people.json" "" "people.json" [] where
  toHasRoom := Store.hasRoom_bareDisk
  fitsPast := by decide +kernel
  freePast bytes := by
    have nothing : Store.bareDisk.at? [pastDirectoryName "people.json"] = none := by
      decide +kernel
    simp [nothing]
  apart := by decide +kernel

theorem isTimed_of_mem_oddVersions : ∀ version ∈ oddVersions ++ [oddLast], version.IsTimed := by
  have empty : Store.IsTimed Keyed.empty := fun t member => absurd member List.not_mem_nil
  simp only [oddVersions, oddLast, List.cons_append, List.nil_append, List.forall_mem_cons]
  exact ⟨⟨empty, by decide, by decide⟩, ⟨Store.isTimed_oddStore, by decide, by decide⟩,
    ⟨empty, by decide, by decide⟩, List.forall_mem_nil _⟩

theorem isComplete_after_odd_saves :
    ∃ listing after, (saveAll "people.json" (oddVersions ++ [oddLast]) :
        ExceptT Fault (StateM (Watched Disk)) (List String)).run.run ⟨Store.bareDisk, false⟩ =
          (.ok listing, ⟨after, false⟩) ∧
      IsComplete "people.json" oddVersions oddLast listing after :=
  (isComplete_after_saves (by decide +kernel) isNew_bareDisk isTimed_of_mem_oddVersions
    (by decide +kernel)).2 _ _ _ hasHistoryRoom_bareDisk

end Ledger
end ColumnChain
