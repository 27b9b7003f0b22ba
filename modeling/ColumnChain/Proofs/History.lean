import ColumnChain.Proofs.Chronology
import ColumnChain.Proofs.Directories
import ColumnChain.Proofs.Persistence

/-!
# The history of a ledger

Every save but the first puts the ledger that is there into the history before it is
replaced, under a name made of the time at which it was written. As long as saves come in
different milliseconds, no two versions have one name, so that the history has every version
but the last one, and lists them from the latest to the earliest.
-/

namespace ColumnChain

namespace Ledger

/-! ## Names in the history -/

/-- The name of the directory of the earlier versions of a ledger with a name. -/
def pastDirectoryName (name : String) : String :=
  String.ofList (Path.splitExtension name.toList).1 ++ ".history"

section Names

variable {path directory name : String}

theorem isName_pastDirectoryName (isName : Path.IsName name) :
    Path.IsName (pastDirectoryName name) := by
  have within {c : Char} (outside : c ∉ name.toList) :
      c ∉ (Path.splitExtension name.toList).1 := fun member =>
    outside ((Path.splitExtension_isPrefix name.toList).subset member)
  exact Path.isName_of_length (by simp [pastDirectoryName])
    (by simp [pastDirectoryName, within isName.single])
    (by simp [pastDirectoryName, within isName.clean])

theorem historyPath_eq (parent : Path.parent? path = some directory)
    (named : Path.fileName? path = some name) :
    historyPath path = Path.join directory (pastDirectoryName name) := by
  simp only [historyPath, Path.stem?, parent, named, Option.map_some, Option.getD_some,
    pastDirectoryName]

theorem pastPath_eq (path : String) (ledger : Ledger) :
    ledger.pastPath path = Path.join (historyPath path) (pastName ledger.updated) :=
  rfl

theorem extension?_pastName (updated : Instant) :
    Path.extension? (pastName updated) = some "json" := by
  have whole : (pastName updated).toList = updated.fileStamp.toList ++ '.' :: "json".toList := by
    simp [pastName]
  have filled : updated.fileStamp.toList ≠ [] := by simp [Instant.fileStamp]
  have cut : Path.splitExtension (pastName updated).toList =
      (updated.fileStamp.toList, some "json".toList) := by
    rw [whole]
    exact Path.splitExtension_append filled (by decide)
  simp only [Path.extension?, Path.fileName?_eq_self (isName_pastName updated),
    Option.bind_some, cut, Option.map_some, String.ofList_toList]

theorem stagingName_ne_pastName (name : String) (updated : Instant) :
    stagingName name ≠ pastName updated := by
  intro same
  have letters := congrArg (fun text => text.toList.getLast?) same
  simp [stagingName, pastName, List.getLast?_cons] at letters

end Names

/-! ## Versions -/

/-- A store, and when it is saved. -/
structure Version where
  store : Store
  saved : Instant

/-- The ledger as which a version is saved. -/
def Version.ledger (version : Version) : Ledger :=
  ofStore version.store version.saved

/-- Each version in turn is saved to a path. -/
def saveEach {m : Type → Type} [Monad m] [Files m] (path : String) :
    List Version → ExceptT Fault m Unit
  | [] => return
  | version :: rest => do
      version.store.saveWithHistory path version.saved
      saveEach path rest

/-- After some versions have been saved, the last one is in its ledger, the earlier ones are
in the history, each under its name, and nothing else is. -/
structure IsKept (disk : Disk) (path directory name : String) (place : Place)
    (earlier : List Version) (last : Version) : Prop where
  seats : disk.Seats path directory name place
  file : disk.at? (place ++ [name]) = some (.file last.ledger.encode)
  cleared : disk.at? (place ++ [stagingName name]) = none
  listed : disk.lookUp (historyPath path) = .ok .directory ↔ earlier ≠ []
  seated : ∀ version ∈ earlier, ∃ below, disk.Seats (version.ledger.pastPath path)
    (historyPath path) (pastName version.saved) below
  past : ∀ below, disk.locate (historyPath path) = .ok below → ∀ entry node,
    disk.at? (below ++ [entry]) = some node ↔
      ∃ version ∈ earlier, pastName version.saved = entry ∧ node = .file version.ledger.encode

section Keeping

variable {disk : Disk} {path directory name : String} {place below : Place}

theorem locate_historyPath (seats : disk.Seats path directory name place) :
    disk.locate (historyPath path) = .ok below ↔
      (pastDirectoryName name).utf8ByteSize ≤ Disk.longestName ∧
        below = place ++ [pastDirectoryName name] := by
  rw [historyPath_eq seats.parent seats.named,
    Disk.locate_join (isName_pastDirectoryName seats.isName) seats.leads]
  split
  next long => simp [Nat.not_le.2 long]
  next fits => simp [Nat.le_of_not_lt fits, eq_comm]

theorem toList_historyPath_ne_nil (seats : disk.Seats path directory name place) :
    (historyPath path).toList ≠ [] := by
  rw [historyPath_eq seats.parent seats.named]
  exact Path.toList_join_ne_nil (isName_pastDirectoryName seats.isName)

/-- A ledger is put into the history. -/
theorem succeeds_archive (seats : disk.Seats path directory name place) (previous : Ledger) :
    Watched.Succeeds (previous.save (previous.pastPath path)) disk fun _ after => ∃ below,
      after.Seats (previous.pastPath path) (historyPath path) (pastName previous.updated) below ∧
      after.at? (below ++ [pastName previous.updated]) = some (.file previous.encode) ∧
      after.at? (below ++ [stagingName (pastName previous.updated)]) = none ∧
      Disk.Changes {below, below ++ [pastName previous.updated],
        below ++ [stagingName (pastName previous.updated)]} disk after := by
  have isPast := isName_pastName previous.updated
  have isBelow := isName_pastDirectoryName seats.isName
  rw [pastPath_eq, historyPath_eq seats.parent seats.named]
  refine (previous.succeeds_saveAt
    (succeeds_makeParent_below isPast isBelow seats.leads)).mono ?_
  rintro _ after ⟨opened, way, other, below, opening, saved⟩
  obtain ⟨rfl, rfl⟩ := saved.eq_of_join isPast (Path.isTrimmed_join isBelow)
  obtain rfl := (opening.leads seats.leads).eq_append isBelow saved.leads
  refine ⟨_, saved.seats, saved.file, saved.cleared, ?_⟩
  exact (opening.mono (by simp)).trans (saved.changes.mono (Set.subset_insert _ _))

variable {earlier : List Version} {last : Version}

/-- What is in the directory of the history when the last version has been put there. -/
theorem IsKept.past_archive {after : Disk}
    (kept : IsKept disk path directory name place earlier last)
    (fresh : ∀ version ∈ earlier, pastName version.saved ≠ pastName last.saved)
    (located : after.locate (historyPath path) = .ok below)
    (file : after.at? (below ++ [pastName last.saved]) = some (.file last.ledger.encode))
    (cleared : after.at? (below ++ [stagingName (pastName last.saved)]) = none)
    (changes : Disk.Changes {below, below ++ [pastName last.saved],
      below ++ [stagingName (pastName last.saved)]} disk after) (entry : String) (node : Node) :
    after.at? (below ++ [entry]) = some node ↔
      ∃ version ∈ earlier ++ [last],
        pastName version.saved = entry ∧ node = .file version.ledger.encode := by
  simp only [List.mem_append, List.mem_singleton]
  by_cases isLast : entry = pastName last.saved
  · subst isLast
    rw [file]
    constructor
    · rintro ⟨⟩
      exact ⟨last, Or.inr rfl, rfl, rfl⟩
    · rintro ⟨version, member | rfl, same, rfl⟩
      · exact absurd same (fresh version member)
      · rfl
  by_cases isStaging : entry = stagingName (pastName last.saved)
  · subst isStaging
    rw [cleared]
    constructor
    · rintro ⟨⟩
    · rintro ⟨version, -, same, -⟩
      exact absurd same.symm (stagingName_ne_pastName _ _)
  · have locatedBefore : disk.locate (historyPath path) = .ok below :=
      (locate_historyPath kept.seats).2
        ((locate_historyPath (kept.seats.of_changes changes)).1 located)
    rw [changes.elsewhere (below ++ [entry]) (by simp [isLast, isStaging]),
      kept.past below locatedBefore]
    constructor
    · rintro ⟨version, member, named⟩
      exact ⟨version, Or.inl member, named⟩
    · rintro ⟨version, member | rfl, same, named⟩
      · exact ⟨version, member, same, named⟩
      · exact absurd same.symm isLast

/-- The version that was saved last goes to the history when the next one is saved. -/
theorem IsKept.succeeds_saveWithHistory
    (kept : IsKept disk path directory name place earlier last) (timed : last.ledger.IsTimed)
    (fresh : ∀ version ∈ earlier, pastName version.saved ≠ pastName last.saved)
    (next : Version) :
    Watched.Succeeds (next.store.saveWithHistory path next.saved) disk fun _ after =>
      IsKept after path directory name place (earlier ++ [last]) next := by
  have looked := (Disk.lookUp_eq_ok kept.seats.located).2 kept.file
  refine Watched.Succeeds.bind (Watched.succeeds_quietly
    (fun present after => present = true ∧ after = disk) ⟨?_, rfl⟩) ?_
  · change (disk.lookUp path).toBool = true
    rw [looked]
    rfl
  rintro _ _ ⟨rfl, rfl⟩
  refine (succeeds_load looked timed).bind ?_
  rintro _ _ ⟨rfl, rfl⟩
  refine (succeeds_archive kept.seats last.ledger).bind ?_
  rintro _ between ⟨below, past, file, cleared, archiving⟩
  have seats := kept.seats.of_changes archiving
  have located := past.leads.locate (toList_historyPath_ne_nil seats)
  refine (next.ledger.succeeds_saveAt
    (succeeds_makeParent_of_leads seats.parent seats.leads)).mono ?_
  rintro _ after ⟨_, way, other, elsewhere, rfl, saved⟩
  obtain ⟨rfl, rfl, rfl⟩ := (seats.of_changes saved.changes).unique saved.seats
  have pastAfter := past.of_changes saved.changes
  have locatedAfter := saved.changes.locate_eq_ok located
  refine ⟨saved.seats, saved.file, saved.cleared, ?listed, ?seated, ?past⟩
  case listed =>
    have there := (Disk.lookUp_eq_ok locatedAfter).2 pastAfter.leads.isDirectory
    simp [there]
  case seated =>
    intro version member
    rcases List.mem_append.1 member with before | isLast
    · obtain ⟨other, seated⟩ := kept.seated version before
      exact ⟨other, (seated.of_changes archiving).of_changes saved.changes⟩
    · rw [List.mem_singleton.1 isLast]
      exact ⟨below, pastAfter⟩
  case past =>
    intro other locatedOther entry node
    obtain rfl : below = other := Except.ok.inj (locatedAfter.symm.trans locatedOther)
    rw [saved.changes.elsewhere]
    · exact kept.past_archive fresh located file cleared archiving entry node
    · obtain ⟨-, rfl⟩ := (locate_historyPath seats).1 located
      simp

theorem fresh_of_ordered {rest : List Version}
    (ordered : (earlier ++ last :: rest).Pairwise fun version later =>
      pastName version.saved < pastName later.saved) :
    ∀ version ∈ earlier, pastName version.saved ≠ pastName last.saved := by
  intro version member same
  have less := (List.pairwise_append.1 ordered).2.2 version member last List.mem_cons_self
  exact String.lt_irrefl _ (same ▸ less)

/-- All versions but the last one go to the history. -/
theorem IsKept.succeeds_saveEach {rest : List Version}
    (kept : IsKept disk path directory name place earlier last)
    (timed : ∀ version ∈ last :: rest, version.ledger.IsTimed)
    (ordered : (earlier ++ last :: rest).Pairwise fun version later =>
      pastName version.saved < pastName later.saved) :
    Watched.Succeeds (saveEach path rest) disk fun _ after => ∃ front final,
      earlier ++ last :: rest = front ++ [final] ∧
        IsKept after path directory name place front final := by
  induction rest generalizing disk earlier last with
  | nil => exact Watched.succeeds_pure ⟨earlier, last, rfl, kept⟩
  | cons next rest ih =>
      rw [List.forall_mem_cons] at timed
      refine (kept.succeeds_saveWithHistory timed.1 (fresh_of_ordered ordered) next).bind
        fun _ after keptAfter => ?_
      rw [List.append_cons] at ordered ⊢
      exact ih keptAfter timed.2 ordered

/-- Names that are sorted downwards are in the only falling order there is. -/
theorem mergeSort_eq_of_falling {names falling : List String} (distinct : names.Nodup)
    (order : falling.Pairwise fun left right => right < left)
    (members : ∀ name, name ∈ names ↔ name ∈ falling) :
    names.mergeSort (fun left right => right ≤ left) = falling := by
  have perm : names.Perm falling := by
    refine (List.perm_ext_iff_of_nodup distinct ?_).2 members
    refine List.nodup_iff_pairwise_ne.2 (order.imp fun less same => ?_)
    exact String.lt_irrefl _ (same ▸ less)
  refine ((List.mergeSort_perm _ _).trans perm).eq_of_pairwise ?antisymm
    (List.pairwise_mergeSort ?trans ?total _) (order.imp fun less => ?falls)
  case antisymm =>
    intro left right _ _ forth back
    exact String.le_antisymm (of_decide_eq_true back) (of_decide_eq_true forth)
  case trans =>
    intro left middle right forth further
    exact decide_eq_true (String.le_trans (of_decide_eq_true further) (of_decide_eq_true forth))
  case total =>
    intro left right
    rw [Bool.or_eq_true, decide_eq_true_eq, decide_eq_true_eq]
    exact String.le_total right left
  case falls => exact decide_eq_true (String.not_lt.1 (String.lt_asymm less))

/-- The names in the directory of the history, in falling order. -/
theorem IsKept.sorted_names (kept : IsKept disk path directory name place earlier last)
    (located : disk.locate (historyPath path) = .ok below)
    (ordered : earlier.Pairwise fun version later =>
      pastName version.saved < pastName later.saved) :
    ((disk.children below).filter fun name => Path.extension? name == some "json").mergeSort
        (fun left right => right ≤ left) =
      earlier.reverse.map fun version => pastName version.saved := by
  have members (entry : String) : entry ∈ disk.children below ↔
      entry ∈ earlier.reverse.map fun version => pastName version.saved := by
    rw [Disk.mem_children]
    simp only [kept.past below located, List.mem_map, List.mem_reverse]
    constructor
    · rintro ⟨_, version, member, same, -⟩
      exact ⟨version, member, same⟩
    · rintro ⟨version, member, same⟩
      exact ⟨_, version, member, same, rfl⟩
  have all : (disk.children below).filter (fun name => Path.extension? name == some "json") =
      disk.children below := by
    refine List.filter_eq_self.2 fun entry member => ?_
    obtain ⟨version, -, rfl⟩ := List.mem_map.1 ((members entry).1 member)
    rw [extension?_pastName, beq_iff_eq]
  rw [all]
  exact mergeSort_eq_of_falling (Disk.nodup_children disk below)
    ((List.pairwise_reverse.2 ordered).map _ fun _ _ less => less) members

/-- The history lists the earlier versions, the latest first. -/
theorem IsKept.succeeds_history
    (kept : IsKept disk path directory name place earlier last)
    (ordered : earlier.Pairwise fun version later =>
      pastName version.saved < pastName later.saved) :
    Watched.Succeeds (history path) disk fun past after =>
      past = earlier.reverse.map (fun version => version.ledger.pastPath path) ∧
        after = disk := by
  simp only [history]
  refine Watched.Succeeds.bind (Watched.succeeds_quietly (fun present after =>
    present = (disk.lookUp (historyPath path)).toBool ∧ after = disk) ?_) ?_
  · simp only [Disk.run_isPresent, and_self]
  rintro present disk ⟨isPresent, rfl⟩
  dsimp only
  split
  next there =>
    refine Watched.Succeeds.bind (Watched.succeeds_attempt (fun names after => ∃ below,
      disk.locate (historyPath path) = .ok below ∧ names = disk.children below ∧ after = disk)
      fun names after done => ?_) ?_
    · obtain ⟨listed, rfl⟩ : disk.names (historyPath path) = .ok names ∧ disk = after :=
        Prod.mk.inj done
      obtain ⟨below, located, entered⟩ := Store.bind_eq_ok.1 listed
      obtain ⟨⟨⟩, -, same⟩ := Store.bind_eq_ok.1 entered
      cases same
      exact ⟨below, located, rfl, rfl⟩
    · rintro _ _ ⟨below, located, rfl, rfl⟩
      refine Watched.succeeds_pure ⟨?_, rfl⟩
      rw [kept.sorted_names located ordered, List.map_map]
      rfl
  next absent =>
    have none : earlier = [] := by
      by_contra filled
      rw [isPresent, kept.listed.2 filled] at absent
      exact absent rfl
    refine Watched.succeeds_pure ⟨?_, rfl⟩
    rw [none]
    rfl

/-! ## The first version -/

/-- There is no ledger at a path, and no directory for its history. A path that goes through a
directory that is missing, and back from it, leads to a directory only when the missing one is
made; this is when there must not be a history. -/
structure IsNew (disk : Disk) (path : String) : Prop where
  noLedger : ∀ bytes, disk.lookUp path ≠ .ok (.file bytes)
  noHistory : ∀ made, disk.makeDirectories ((Path.parent? path).getD "") = .ok made →
    made.lookUp (historyPath path) ≠ .ok .directory

/-- Where the directory of the path is there, it has to be looked at as it is. -/
theorem isNew_of_leads (parent : Path.parent? path = some directory)
    (leads : disk.Leads directory place)
    (noLedger : ∀ bytes, disk.lookUp path ≠ .ok (.file bytes))
    (noHistory : disk.lookUp (historyPath path) ≠ .ok .directory) : IsNew disk path where
  noLedger := noLedger
  noHistory made makes := by
    rw [parent, Option.getD_some, leads.makeDirectories_eq] at makes
    cases makes
    exact noHistory

/-- A ledger that is saved where there is no history is kept without one. -/
theorem IsSaved.isKept {first : Version} {opened after : Disk}
    (saved : first.ledger.IsSaved path opened after directory name place)
    (tree : opened.IsTree) (noHistory : opened.lookUp (historyPath path) ≠ .ok .directory) :
    IsKept after path directory name place [] first := by
  have isBelow := isName_pastDirectoryName saved.seats.isName
  rw [historyPath_eq saved.seats.parent saved.seats.named] at noHistory
  have noDirectory (fits : (pastDirectoryName name).utf8ByteSize ≤ Disk.longestName) :
      opened.at? (place ++ [pastDirectoryName name]) ≠ some .directory := fun isDirectory =>
    noHistory ((Disk.lookUp_join_eq_ok isBelow saved.leads).2 ⟨fits, isDirectory⟩)
  refine ⟨saved.seats, saved.file, saved.cleared, ?listed, by simp, ?past⟩
  case listed =>
    rw [historyPath_eq saved.seats.parent saved.seats.named,
      Disk.lookUp_join_eq_ok isBelow saved.seats.leads]
    refine iff_of_false (fun ⟨fits, isDirectory⟩ => noDirectory fits ?_)
      (fun filled => filled rfl)
    rw [← isDirectory, saved.changes.elsewhere]
    rintro (same | same)
    · rw [same, saved.file] at isDirectory
      cases isDirectory
    · rw [same, saved.cleared] at isDirectory
      cases isDirectory
  case past =>
    intro below located entry node
    obtain ⟨fits, rfl⟩ := (locate_historyPath saved.seats).1 located
    rw [saved.changes.elsewhere _ (by simp), tree.below_eq_none (noDirectory fits) entry]
    simp

theorem IsNew.succeeds_saveWithHistory (new : IsNew disk path) (tree : disk.IsTree)
    (first : Version) :
    Watched.Succeeds (first.store.saveWithHistory path first.saved) disk fun _ after =>
      ∃ directory name place, IsKept after path directory name place [] first := by
  refine Watched.Succeeds.bind (Watched.succeeds_quietly (fun _ after => after = disk) rfl) ?_
  rintro present disk rfl
  split
  next =>
    have never : Watched.Succeeds (load path) disk fun _ _ => False :=
      (succeeds_read path disk _).bind fun bytes _ looked =>
        absurd looked.1 (new.noLedger bytes)
    exact never.bind fun _ _ impossible => impossible.elim
  next =>
    refine (first.ledger.succeeds_saveAt (succeeds_makeParent path _)).mono ?_
    rintro _ after ⟨opened, directory, name, place, opens, saved⟩
    have makes : disk.makeDirectories directory = .ok opened := by
      rcases opens with rfl | ⟨other, parent, makes⟩
      · exact saved.leads.makeDirectories_eq
      · rw [saved.seats.parent] at parent
        cases parent
        exact makes
    have noHistory := new.noHistory opened (by rw [saved.seats.parent]; exact makes)
    exact ⟨directory, name, place, saved.isKept (tree.makeDirectories makes) noHistory⟩

/-- After a run from a path at which there was nothing all versions are kept. -/
theorem IsNew.succeeds_saveEach (new : IsNew disk path) (tree : disk.IsTree)
    (timed : ∀ version ∈ earlier ++ [last], version.ledger.IsTimed)
    (ordered : (earlier ++ [last]).Pairwise fun version later =>
      pastName version.saved < pastName later.saved) :
    Watched.Succeeds (saveEach path (earlier ++ [last])) disk fun _ after =>
      ∃ directory name place, IsKept after path directory name place earlier last := by
  obtain ⟨first, rest, whole⟩ : ∃ first rest, earlier ++ [last] = first :: rest :=
    List.exists_cons_of_ne_nil (by simp)
  rw [whole] at timed ordered ⊢
  refine (new.succeeds_saveWithHistory tree first).bind ?_
  rintro _ between ⟨directory, name, place, kept⟩
  refine (kept.succeeds_saveEach timed ordered).mono ?_
  rintro _ after ⟨front, final, same, keptAfter⟩
  obtain ⟨rfl, sameLast⟩ := List.append_inj' (whole.trans same) rfl
  cases sameLast
  exact ⟨directory, name, place, keptAfter⟩

/-! ## What is found after a run -/

/-- The times of a version are times, and the year in which it is saved has four digits. -/
structure Version.IsTimed (version : Version) : Prop where
  store : version.store.IsTimed
  saved : version.saved.IsTime
  plain : version.saved.HasPlainYear

theorem Version.IsTimed.ledger {version : Version} (timed : version.IsTimed) :
    version.ledger.IsTimed :=
  isTimed_ofStore timed.store timed.saved

theorem Version.IsTimed.pastName_lt {version later : Version} (timed : version.IsTimed)
    (timedLater : later.IsTimed)
    (before : version.saved.toMillisecond.compare later.saved.toMillisecond = .lt) :
    pastName version.saved < pastName later.saved :=
  Instant.fileStamp_append_lt timed.saved timedLater.saved timed.plain timedLater.plain before _

/-- A version that is at its path is loaded. -/
theorem Version.IsTimed.run_load {version : Version} (timed : version.IsTimed)
    (looked : disk.lookUp path = .ok (.file version.ledger.encode)) :
    (Store.load path : ExceptT Fault (StateM Disk) Store).run.run disk =
      (.ok version.store, disk) := by
  have loads := run_load_file looked
  rw [decode?_encode timed.ledger] at loads
  have loadsStore := Store.run_load loads
  rwa [Version.ledger, store_ofStore] at loadsStore

namespace IsKept

variable (kept : IsKept disk path directory name place earlier last)

include kept

theorem lookUp : disk.lookUp path = .ok (.file last.ledger.encode) :=
  (Disk.lookUp_eq_ok kept.seats.located).2 kept.file

theorem lookUp_past {version : Version} (member : version ∈ earlier) :
    disk.lookUp (version.ledger.pastPath path) = .ok (.file version.ledger.encode) := by
  obtain ⟨below, seated⟩ := kept.seated version member
  have located := seated.leads.locate (toList_historyPath_ne_nil kept.seats)
  exact (Disk.lookUp_eq_ok seated.located).2
    ((kept.past below located _ _).2 ⟨version, member, rfl, rfl⟩)

/-- There is nothing beside a ledger under the name that it has while it is written. -/
theorem lookUp_staging {node : Node} : disk.lookUp (stagingPath path) ≠ .ok node := by
  rw [stagingPath_eq kept.seats.parent kept.seats.named, ne_eq,
    Disk.lookUp_join_eq_ok (isName_stagingName kept.seats.isName) kept.seats.leads, kept.cleared]
  simp

theorem lookUp_staging_past {version : Version} (member : version ∈ earlier) {node : Node} :
    disk.lookUp (stagingPath (version.ledger.pastPath path)) ≠ .ok node := by
  obtain ⟨below, seated⟩ := kept.seated version member
  have located := seated.leads.locate (toList_historyPath_ne_nil kept.seats)
  rw [stagingPath_eq seated.parent seated.named, ne_eq,
    Disk.lookUp_join_eq_ok (isName_stagingName seated.isName) seated.leads]
  rintro ⟨-, there⟩
  obtain ⟨other, -, same, -⟩ := (kept.past below located _ _).1 there
  exact stagingName_ne_pastName _ _ same.symm

end IsKept

/-- After some versions have been saved, the listing of the history has one file for each of
them but the last, the latest first, which is loaded as the store that was saved; the ledger
is loaded as the store that was saved last; and beside none of these files is one that was put
there while it was written. -/
structure IsComplete (path : String) (earlier : List Version) (last : Version)
    (listing : List String) (disk : Disk) : Prop where
  past : listing.map (fun file =>
      ((Store.load file : ExceptT Fault (StateM Disk) Store).run.run disk).1) =
    earlier.reverse.map (fun version => .ok version.store)
  last : ((Store.load path : ExceptT Fault (StateM Disk) Store).run.run disk).1 = .ok last.store
  cleared : ∀ file ∈ path :: listing, ∀ node, disk.lookUp (stagingPath file) ≠ .ok node

theorem IsKept.isComplete (kept : IsKept disk path directory name place earlier last)
    (timed : ∀ version ∈ earlier ++ [last], version.IsTimed) :
    IsComplete path earlier last
      (earlier.reverse.map fun version => version.ledger.pastPath path) disk where
  past := by
    rw [List.map_map]
    refine List.map_congr_left fun version member => ?_
    have inHistory := List.mem_reverse.1 member
    exact congrArg Prod.fst ((timed version (List.mem_append_left [last] inHistory)).run_load
      (kept.lookUp_past inHistory))
  last := congrArg Prod.fst ((timed last (by simp)).run_load kept.lookUp)
  cleared := by
    intro file member node
    rcases List.mem_cons.1 member with rfl | isPast
    · exact kept.lookUp_staging
    · obtain ⟨version, inHistory, rfl⟩ := List.mem_map.1 isPast
      exact kept.lookUp_staging_past (List.mem_reverse.1 inHistory)

end Keeping
end Ledger
end ColumnChain
