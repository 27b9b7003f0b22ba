import ColumnChain.Proofs.Disks

/-!
# Files in directories

A path that leads to a file leads there by way of a directory. Where a file is written, or
moved to, is found by its path, and nothing else on the disk changes.
-/

namespace ColumnChain.Disk

variable {disk after : Disk} {path : String} {place found : Place}

/-! ## The place of a file -/

/-- A path that can be located has no NUL in it and is not empty. -/
theorem reach_of_locate (located : disk.locate path = .ok found) :
    path.toList ≠ [] ∧ '\x00' ∉ path.toList ∧ disk.reach (pieces path.toList) = .ok found := by
  have clean : '\x00' ∉ path.toList := by
    intro member
    simp [locate, partsOf, member, bind, Except.bind] at located
  have filled : path.toList ≠ [] := by
    intro empty
    simp [locate, partsOf, empty, bind, Except.bind] at located
  rw [← String.ofList_toList (s := path), locate_eq clean filled] at located
  exact ⟨filled, clean, located⟩

/-- A path leads to the same place when directories stay where they are. -/
theorem Changes.locate_eq_ok {places : Set Place} (changes : Changes places disk after)
    (located : disk.locate path = .ok found) : after.locate path = .ok found := by
  obtain ⟨filled, clean, reached⟩ := reach_of_locate located
  rw [← String.ofList_toList (s := path), locate_eq clean filled]
  have origins : after.origin (pieces path.toList) = disk.origin (pieces path.toList) := by
    simp only [origin, changes.here]
  rw [reach, origins]
  exact follow_of_kept changes.kept reached

theorem lookUp_eq_ok {node : Node} (located : disk.locate path = .ok found) :
    disk.lookUp path = .ok node ↔ disk.at? found = some node := by
  simp only [lookUp, located, bind, Except.bind]
  split
  next there => simp [there, pure, Except.pure]
  next missing => simp [missing, throw, throwThe, MonadExceptOf.throw]

theorem read_eq_ok {bytes : Bytes} :
    disk.read path = .ok bytes ↔ ∃ found, disk.locate path = .ok found ∧
      disk.at? found = some (.file bytes) := by
  constructor
  · intro read
    obtain ⟨node, looked, matched⟩ := Store.bind_eq_ok.1 read
    obtain ⟨found, located, -⟩ := Store.bind_eq_ok.1 looked
    refine ⟨found, located, ?_⟩
    cases node with
    | directory => cases matched
    | file contents =>
        cases matched
        exact (lookUp_eq_ok located).1 looked
  · rintro ⟨found, located, file⟩
    rw [read, (lookUp_eq_ok located).2 file]
    rfl

/-- A path that ends in a slash leads to a directory. -/
theorem isDirectory_of_slash (slash : path.toList.getLast? = some '/')
    (located : disk.locate path = .ok found) : disk.at? found = some .directory := by
  obtain ⟨above, whole⟩ := List.getLast?_eq_some_iff.1 slash
  obtain ⟨-, -, reached⟩ := reach_of_locate located
  rw [whole, pieces_append, reach_append (pieces_ne_nil above)] at reached
  obtain ⟨place, -, followed⟩ := Store.bind_eq_ok.1 reached
  obtain ⟨isDirectory, advanced⟩ := follow_singleton.1 followed
  rw [advance_here (Or.inl rfl)] at advanced
  cases advanced
  exact isDirectory

/-- A path that ends in a slash is one of a directory, and no file is written there. -/
theorem target_ne_ok_of_slash (slash : path.toList.getLast? = some '/') :
    disk.target path ≠ .ok found := by
  obtain ⟨above, whole⟩ := List.getLast?_eq_some_iff.1 slash
  have dropped : path.toList.reverse.dropWhile (· == '/') =
      above.reverse.dropWhile (· == '/') := by
    rw [whole, List.reverse_append, List.reverse_singleton, List.singleton_append,
      List.dropWhile_cons_of_pos rfl]
  have shorter : (path.toList.reverse.dropWhile (· == '/')).reverse.length < path.length := by
    have fewer := (List.dropWhile_suffix (· == '/') (l := above.reverse)).length_le
    rw [dropped, List.length_reverse, ← String.length_toList, whole, List.length_append]
    rw [List.length_reverse] at fewer
    exact Nat.lt_succ_of_le fewer
  intro targeted
  obtain ⟨other, -, settled⟩ := Store.bind_eq_ok.1 targeted
  rw [if_pos shorter] at settled
  cases settled

theorem dropWhile_of_no_slash {letters : List Char} (noSlash : letters.getLast? ≠ some '/') :
    letters.reverse.dropWhile (· == '/') = letters.reverse := by
  cases reversed : letters.reverse with
  | nil => rfl
  | cons c others =>
      rw [← List.head?_reverse, reversed] at noSlash
      exact List.dropWhile_cons_of_neg (by simpa using noSlash)

/-- A file can be written where its path leads, unless this is a directory. -/
theorem target_eq_ok :
    disk.target path = .ok found ↔
      disk.locate path = .ok found ∧ disk.at? found ≠ some .directory := by
  by_cases slash : path.toList.getLast? = some '/'
  · refine iff_of_false (target_ne_ok_of_slash slash) ?_
    rintro ⟨located, noDirectory⟩
    exact noDirectory (isDirectory_of_slash slash located)
  simp only [target, dropWhile_of_no_slash slash, List.reverse_reverse, String.ofList_toList,
    String.length_toList, lt_irrefl, if_false]
  rw [Store.bind_eq_ok]
  constructor
  · rintro ⟨other, located, settled⟩
    split at settled
    next => cases settled
    next contents file =>
      cases settled
      exact ⟨located, by simp [file]⟩
    next missing =>
      cases settled
      exact ⟨located, by simp [missing]⟩
  · rintro ⟨located, noDirectory⟩
    refine ⟨found, located, ?_⟩
    split
    next directory => exact absurd directory noDirectory
    next => rfl
    next => rfl

theorem ne_nil_of_not_directory (noDirectory : disk.at? found ≠ some .directory) :
    found ≠ [] := by
  rintro rfl
  exact noDirectory (at?_nil disk)

theorem write_ok_iff {contents : Bytes} :
    disk.write path contents = .ok after ↔
      ∃ found, disk.locate path = .ok found ∧ disk.at? found ≠ some .directory ∧
        after = disk.put found (.file contents) := by
  rw [write, Store.bind_eq_ok]
  constructor
  · rintro ⟨found, targeted, put⟩
    obtain ⟨located, noDirectory⟩ := target_eq_ok.1 targeted
    cases put
    exact ⟨found, located, noDirectory, rfl⟩
  · rintro ⟨found, located, noDirectory, rfl⟩
    exact ⟨found, target_eq_ok.2 ⟨located, noDirectory⟩, rfl⟩

theorem rename_ok_iff {source destination : String} :
    disk.rename source destination = .ok after ↔
      ∃ origin found contents, disk.locate source = .ok origin ∧
        disk.at? origin = some (.file contents) ∧ disk.locate destination = .ok found ∧
        disk.at? found ≠ some .directory ∧
        after = (disk.remove origin).put found (.file contents) := by
  rw [rename, Store.bind_eq_ok]
  constructor
  · rintro ⟨origin, located, renamed⟩
    obtain ⟨contents, readSource, renamed⟩ := Store.bind_eq_ok.1 renamed
    obtain ⟨found, targeted, put⟩ := Store.bind_eq_ok.1 renamed
    obtain ⟨other, locatedOther, file⟩ := read_eq_ok.1 readSource
    obtain rfl : origin = other := Except.ok.inj (located.symm.trans locatedOther)
    obtain ⟨locatedFound, noDirectory⟩ := target_eq_ok.1 targeted
    cases put
    exact ⟨origin, found, contents, located, file, locatedFound, noDirectory, rfl⟩
  · rintro ⟨origin, found, contents, located, file, locatedFound, noDirectory, rfl⟩
    exact ⟨origin, located, Store.bind_eq_ok.2 ⟨contents, read_eq_ok.2 ⟨origin, located, file⟩,
      Store.bind_eq_ok.2 ⟨found, target_eq_ok.2 ⟨locatedFound, noDirectory⟩, rfl⟩⟩⟩

/-- A file that is written is at its place. -/
theorem exists_of_write {contents : Bytes} (written : disk.write path contents = .ok after) :
    ∃ found, disk.locate path = .ok found ∧ after.at? found = some (.file contents) ∧
      Changes {found} disk after := by
  obtain ⟨found, located, noDirectory, rfl⟩ := write_ok_iff.1 written
  have filled := ne_nil_of_not_directory noDirectory
  exact ⟨found, located, by rw [at?_put filled, if_pos rfl], changes_put_file filled noDirectory⟩

/-- A file can be written where a path leads. -/
def IsWritable (disk : Disk) (path : String) : Prop :=
  ∃ place, disk.locate path = .ok place ∧ disk.at? place ≠ some .directory

/-- What is written where a file can be written is read there. -/
theorem IsWritable.exists_write (writable : disk.IsWritable path)
    (contents : Bytes) : ∃ after, disk.write path contents = .ok after ∧
      after.read path = .ok contents ∧ after.IsWritable path := by
  obtain ⟨place, located, noDirectory⟩ := writable
  have written : disk.write path contents = .ok (disk.put place (.file contents)) :=
    write_ok_iff.2 ⟨place, located, noDirectory, rfl⟩
  obtain ⟨found, locatedAgain, file, changes⟩ := exists_of_write written
  have locatedAfter := changes.locate_eq_ok locatedAgain
  exact ⟨_, written, read_eq_ok.2 ⟨found, locatedAfter, file⟩, found, locatedAfter, by simp [file]⟩

theorem exists_write_error (unwritable : ¬ disk.IsWritable path)
    (contents : Bytes) : ∃ error, disk.write path contents = .error error := by
  cases written : disk.write path contents with
  | error error => exact ⟨error, rfl⟩
  | ok after =>
      obtain ⟨place, located, noDirectory, -⟩ := write_ok_iff.1 written
      exact absurd ⟨place, located, noDirectory⟩ unwritable

/-- A file that is moved is at its new place, and no longer at the old one. -/
theorem exists_of_rename {source destination : String}
    (renamed : disk.rename source destination = .ok after) :
    ∃ origin found contents, disk.locate source = .ok origin ∧
      disk.at? origin = some (.file contents) ∧ disk.locate destination = .ok found ∧
      disk.at? found ≠ some .directory ∧ after.at? found = some (.file contents) ∧
      (origin ≠ found → after.at? origin = none) ∧ Changes {origin, found} disk after := by
  obtain ⟨origin, found, contents, located, file, locatedFound, noDirectory, rfl⟩ :=
    rename_ok_iff.1 renamed
  have noOriginDirectory : disk.at? origin ≠ some .directory := by simp [file]
  have filledOrigin := ne_nil_of_not_directory noOriginDirectory
  have filled := ne_nil_of_not_directory noDirectory
  have taken : Changes {origin, found} disk (disk.remove origin) :=
    (changes_remove filledOrigin file).mono (by simp)
  have stillNoDirectory : (disk.remove origin).at? found ≠ some .directory := by
    rw [at?_remove filledOrigin]
    split
    next => simp
    next => exact noDirectory
  refine ⟨origin, found, contents, located, file, locatedFound, noDirectory,
    by rw [at?_put filled, if_pos rfl], fun different => ?_,
    taken.trans ((changes_put_file filled stillNoDirectory).mono (by simp))⟩
  rw [at?_put filled, if_neg different.symm, at?_remove filledOrigin, if_pos rfl]

/-! ## The directory of a file -/

/-- What stands before the last part of a path is a directory. -/
theorem leads_of_isCut {before last : List Char} (cut : Path.IsCut path.toList before last)
    (clean : '\x00' ∉ path.toList) (based : disk.base before = .ok place)
    (isDirectory : disk.at? place = some .directory) :
    disk.Leads (String.ofList (Path.trimmed before)) place := by
  refine ⟨?_, ?_, ?_, isDirectory⟩
  · rw [String.toList_ofList]
    intro member
    rw [cut.whole] at clean
    exact clean (List.mem_append_left last (Path.mem_of_mem_trimmed member))
  · simp [Path.IsTrimmed]
  · rw [String.toList_ofList]
    exact start_trimmed cut based

/-- A path leads to a file by way of a directory. The file is one of this directory, or,
where the path ends by going up, it has no name. -/
structure Holds (disk : Disk) (path directory : String) (place found : Place) : Prop where
  parent : Path.parent? path = some directory
  leads : disk.Leads directory place
  located : disk.locate path = .ok found
  named : (∃ name, Path.fileName? path = some name ∧ Path.IsName name ∧
      found = place ++ [name]) ∨
    Path.fileName? path = none ∧ found = place.dropLast

/-- What is found by a path, and is no directory, is held by one; and there is nothing at the
end of the path that does not count. -/
theorem exists_holds_of_locate (located : disk.locate path = .ok found)
    (noDirectory : disk.at? found ≠ some .directory) :
    ∃ directory place, disk.Holds path directory place found ∧ Path.IsTrimmed path := by
  obtain ⟨filled, clean, reached⟩ := reach_of_locate located
  obtain ⟨before, last, cut⟩ := Path.exists_isCut path.toList
  rw [reach_cut cut filled] at reached
  obtain ⟨place, based, followed⟩ := Store.bind_eq_ok.1 reached
  obtain ⟨isDirectory, advanced⟩ := follow_singleton.1 followed
  have moves : ¬ (String.ofList last = "" ∨ String.ofList last = ".") := by
    intro here
    rw [advance_here here] at advanced
    cases advanced
    exact noDirectory isDirectory
  rw [← String.toList_inj, ← String.toList_inj, String.toList_ofList, not_or] at moves
  obtain ⟨notEmpty, notHere⟩ := moves
  have parent := cut.parent?_eq notEmpty notHere
  rw [String.ofList_toList] at parent
  have leads := leads_of_isCut cut clean based isDirectory
  refine ⟨_, place, ⟨parent, leads, located, ?_⟩, cut.trimmed_eq notEmpty notHere⟩
  by_cases above : last = ['.', '.']
  · right
    have unnamed := cut.fileName?_eq_none notEmpty notHere above
    rw [String.ofList_toList] at unnamed
    rw [above] at advanced
    cases advanced
    exact ⟨unnamed, rfl⟩
  · left
    have named := cut.fileName?_eq notEmpty notHere above
    rw [String.ofList_toList] at named
    have isName : Path.IsName (String.ofList last) := by
      constructor <;> rw [String.toList_ofList]
      · exact notEmpty
      · exact cut.single
      · rw [cut.whole] at clean
        exact fun member => clean (List.mem_append_right before member)
      · exact notHere
      · exact above
    rw [advance_name isName] at advanced
    split at advanced
    next => cases advanced
    next =>
      cases advanced
      exact ⟨_, named, isName, rfl⟩

/-- A file that can be read is held by a directory. -/
theorem exists_holds {bytes : Bytes} (readable : disk.read path = .ok bytes) :
    ∃ directory place found, disk.Holds path directory place found ∧
      disk.at? found = some (.file bytes) := by
  obtain ⟨found, located, file⟩ := read_eq_ok.1 readable
  have noDirectory : disk.at? found ≠ some .directory := by simp [file]
  obtain ⟨directory, place, holds, -⟩ := exists_holds_of_locate located noDirectory
  exact ⟨directory, place, found, holds, file⟩

/-! ## Names in directories -/

/-- A path leads to a name in a directory, whether there is something with this name or
not. -/
structure Seats (disk : Disk) (path directory name : String) (place : Place) : Prop where
  parent : Path.parent? path = some directory
  named : Path.fileName? path = some name
  isName : Path.IsName name
  leads : disk.Leads directory place
  located : disk.locate path = .ok (place ++ [name])

namespace Seats

variable {directory name : String}

theorem of_changes {places : Set Place} (seats : disk.Seats path directory name place)
    (changes : Changes places disk after) : after.Seats path directory name place :=
  { seats with leads := changes.leads seats.leads, located := changes.locate_eq_ok seats.located }

theorem unique {way otherName : String} {other : Place}
    (seats : disk.Seats path directory name place) (others : disk.Seats path way otherName other) :
    way = directory ∧ otherName = name ∧ other = place := by
  obtain rfl := Option.some.inj (seats.parent.symm.trans others.parent)
  obtain rfl := Option.some.inj (seats.named.symm.trans others.named)
  exact ⟨rfl, rfl, others.leads.unique seats.leads⟩

theorem of_join (isName : Path.IsName name) (leads : disk.Leads directory place)
    (fits : name.utf8ByteSize ≤ longestName) :
    disk.Seats (Path.join directory name) directory name place where
  parent := Path.parent?_join isName leads.isTrimmed
  named := Path.fileName?_join isName
  isName := isName
  leads := leads
  located := by rw [locate_join isName leads, if_neg (Nat.not_lt.2 fits)]

end Seats

end ColumnChain.Disk
