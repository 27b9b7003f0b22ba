import ColumnChain.Files.Disk
import ColumnChain.Proofs.Keyed
import ColumnChain.Proofs.Operations
import ColumnChain.Proofs.Paths
import Mathlib.Data.Set.Insert

/-!
# Places on a disk

A path leads to a place by way of directories. As long as directories stay where they are,
the path of a directory leads to the same place, and a path made of a directory and a name
leads to the place of that name in it. What is written at one place leaves all others as
they were.
-/

namespace ColumnChain

namespace Text

/-! ## Pieces between slashes -/

@[simp] theorem split_nil (separator : Char) : split [separator] [] = [[]] := rfl

theorem split_separator (separator : Char) (text : List Char) :
    split [separator] (separator :: text) = [] :: split [separator] text := by
  simp [split, splitAfter]

theorem split_cons {separator c : Char} (other : c ≠ separator) (text : List Char) :
    split [separator] (c :: text) = extendFirst c (split [separator] text) := by
  simp [split, splitAfter, other.symm]

/-- A text is split at a separator into what is split before it and after it. -/
theorem split_append (separator : Char) (left right : List Char) :
    split [separator] (left ++ separator :: right) =
      split [separator] left ++ split [separator] right := by
  induction left with
  | nil => rw [List.nil_append, split_separator, split_nil, List.singleton_append]
  | cons c left ih =>
      by_cases same : c = separator
      · rw [same, List.cons_append, split_separator, split_separator, ih, List.cons_append]
      · rw [List.cons_append, split_cons same, split_cons same, ih]
        obtain ⟨piece, pieces, whole⟩ := List.exists_cons_of_ne_nil (split_ne_nil [separator] left)
        rw [whole]
        rfl

/-- A text without separators is one piece. -/
theorem split_of_not_mem {separator : Char} {text : List Char} (single : separator ∉ text) :
    split [separator] text = [text] := by
  induction text with
  | nil => rfl
  | cons c text ih =>
      rw [List.mem_cons, not_or] at single
      rw [split_cons (Ne.symm single.1), ih single.2]
      rfl

/-- Only the empty text is one empty piece. -/
theorem eq_nil_of_split {separator : Char} {text : List Char}
    (empty : split [separator] text = [[]]) : text = [] := by
  cases text with
  | nil => rfl
  | cons c text =>
      by_cases same : c = separator
      · rw [same, split_separator] at empty
        exact absurd (List.cons.inj empty).2 (split_ne_nil [separator] text)
      · rw [split_cons same] at empty
        obtain ⟨piece, pieces, whole⟩ := List.exists_cons_of_ne_nil (split_ne_nil [separator] text)
        rw [whole] at empty
        cases empty

end Text

namespace Disk

variable {disk : Disk} {place other : Place}

/-! ## What is at a place -/

@[simp] theorem at?_nil (disk : Disk) : disk.at? [] = some .directory := rfl

theorem at?_put (filled : place ≠ []) (node : Node) :
    (disk.put place node).at? other = if place = other then some node else disk.at? other := by
  cases other with
  | nil => simp [filled]
  | cons name names =>
      simp only [at?, put, List.isEmpty_cons, Bool.false_eq_true, if_false, Keyed.find?_put]
      split <;> rfl

theorem at?_remove (filled : place ≠ []) :
    (disk.remove place).at? other = if place = other then none else disk.at? other := by
  cases other with
  | nil => simp [filled]
  | cons name names =>
      simp only [at?, remove, List.isEmpty_cons, Bool.false_eq_true, if_false,
        Keyed.find?_erase]
      split <;> rfl

theorem enter_eq_ok : disk.enter place = .ok () ↔ disk.at? place = some .directory := by
  simp only [enter]
  split <;> simp_all

/-! ## Following parts -/

/-- Where a part of a path leads from a directory. -/
def advance (place : Place) (part : String) : Except DiskError Place :=
  if part = "" ∨ part = "." then .ok place
  else if part = ".." then .ok place.dropLast
  else if longestName < part.utf8ByteSize then .error .nameTooLong
  else .ok (place ++ [part])

theorem follow_cons (disk : Disk) (place : Place) (part : String) (parts : List String) :
    disk.follow place (part :: parts) =
      disk.enter place >>= fun _ => advance place part >>= fun next =>
        disk.follow next parts := by
  simp only [follow, advance]
  congr 1
  funext _
  repeat' split
  all_goals rfl

theorem follow_append (disk : Disk) (place : Place) (parts more : List String) :
    disk.follow place (parts ++ more) =
      disk.follow place parts >>= fun place => disk.follow place more := by
  induction parts generalizing place with
  | nil => rfl
  | cons part parts ih => simp only [List.cons_append, follow_cons, bind_assoc, ih]

/-- The last part of a path has to be looked for in a directory. -/
theorem follow_singleton {part : String} :
    disk.follow place [part] = .ok other ↔
      disk.at? place = some .directory ∧ advance place part = .ok other := by
  rw [follow_cons, Store.bind_eq_ok, ← enter_eq_ok]
  constructor
  · rintro ⟨⟨⟩, entered, followed⟩
    obtain ⟨next, advanced, same⟩ := Store.bind_eq_ok.1 followed
    cases same
    exact ⟨entered, advanced⟩
  · rintro ⟨entered, advanced⟩
    exact ⟨(), entered, Store.bind_eq_ok.2 ⟨other, advanced, rfl⟩⟩

/-- What leads to a place still leads there when directories stay where they are. -/
theorem follow_of_kept {later : Disk}
    (kept : ∀ place, disk.at? place = some .directory → later.at? place = some .directory)
    {parts : List String} (followed : disk.follow place parts = .ok other) :
    later.follow place parts = .ok other := by
  induction parts generalizing place with
  | nil => exact followed
  | cons part parts ih =>
      rw [follow_cons] at followed ⊢
      obtain ⟨⟨⟩, entered, followed⟩ := Store.bind_eq_ok.1 followed
      obtain ⟨next, advanced, followed⟩ := Store.bind_eq_ok.1 followed
      exact Store.bind_eq_ok.2 ⟨(), enter_eq_ok.2 (kept place (enter_eq_ok.1 entered)),
        Store.bind_eq_ok.2 ⟨next, advanced, ih followed⟩⟩

/-! ## Paths of directories -/

/-- Where the parts of a path start from, and the parts that follow. -/
def origin (disk : Disk) : List String → Place × List String
  | "" :: parts => ([], parts)
  | parts => (disk.here, parts)

/-- The place that parts of a path lead to. -/
def reach (disk : Disk) (parts : List String) : Except DiskError Place :=
  disk.follow (disk.origin parts).1 (disk.origin parts).2

/-- The parts of a path, as text. -/
def pieces (path : List Char) : List String :=
  (Text.split ['/'] path).map String.ofList

theorem pieces_ne_nil (path : List Char) : pieces path ≠ [] := by
  simp [pieces, Text.split_ne_nil]

theorem pieces_append (left right : List Char) :
    pieces (left ++ '/' :: right) = pieces left ++ pieces right := by
  simp [pieces, Text.split_append]

theorem pieces_of_not_mem {path : List Char} (single : '/' ∉ path) :
    pieces path = [String.ofList path] := by
  simp [pieces, Text.split_of_not_mem single]

theorem origin_append {parts : List String} (filled : parts ≠ []) (more : List String) :
    disk.origin (parts ++ more) = ((disk.origin parts).1, (disk.origin parts).2 ++ more) := by
  obtain ⟨part, parts, rfl⟩ := List.exists_cons_of_ne_nil filled
  by_cases root : part = ""
  · subst root
    rfl
  · simp [origin, root]

theorem reach_append {parts : List String} (filled : parts ≠ []) (more : List String) :
    disk.reach (parts ++ more) =
      disk.reach parts >>= fun place => disk.follow place more := by
  rw [reach, origin_append filled, follow_append]
  rfl

/-- A path that is not empty leads where its parts lead. -/
theorem locate_eq {path : List Char} (clean : '\x00' ∉ path) (filled : path ≠ []) :
    disk.locate (String.ofList path) = disk.reach (pieces path) := by
  have parts : partsOf (String.ofList path) = .ok (pieces path) := by
    simp [partsOf, clean, pieces]
  have more : pieces path ≠ [""] := by
    intro empty
    obtain ⟨piece, single, none⟩ := List.map_eq_singleton_iff.1 empty
    have nothing : piece = [] := by simpa [← String.toList_inj] using none
    rw [nothing] at single
    exact filled (Text.eq_nil_of_split single)
  simp only [locate, parts, bind, Except.bind]
  split
  next empty => exact absurd empty more
  next parts root =>
    rw [root]
    rfl
  next => simp only [reach, origin]

theorem advance_here {part : String} (here : part = "" ∨ part = ".") :
    advance place part = .ok place :=
  if_pos here

theorem advance_name {name : String} (isName : Path.IsName name) :
    advance place name =
      if longestName < name.utf8ByteSize then .error .nameTooLong else .ok (place ++ [name]) := by
  rw [advance, if_neg isName.ne_here, if_neg isName.ne_above]

/-- Where a directory is that stands before the names in it. -/
def base (disk : Disk) (before : List Char) : Except DiskError Place :=
  if before = [] then .ok disk.here else disk.reach (pieces before.dropLast)

/-- Where the path of a directory leads; an empty path leads to where paths start. -/
def start (disk : Disk) (directory : List Char) : Except DiskError Place :=
  if directory = [] then .ok disk.here else disk.reach (pieces directory)

/-- A path leads to its last part by way of what stands before it. -/
theorem reach_cut {path before last : List Char} (cut : Path.IsCut path before last)
    (filled : path ≠ []) :
    disk.reach (pieces path) =
      disk.base before >>= fun place => disk.follow place [String.ofList last] := by
  obtain ⟨rfl, single, rfl | slash⟩ := cut
  · rw [List.nil_append] at filled ⊢
    have notEmpty : String.ofList last ≠ "" := by
      rw [← String.toList_inj.ne, String.toList_ofList]
      exact filled
    rw [pieces_of_not_mem single]
    simp [base, reach, origin, notEmpty]
    rfl
  · obtain ⟨above, rfl⟩ := List.getLast?_eq_some_iff.1 slash
    have more : above ++ ['/'] ≠ [] := by simp
    rw [List.append_assoc, List.singleton_append, pieces_append,
      reach_append (pieces_ne_nil above), pieces_of_not_mem single, base, if_neg more,
      List.dropLast_concat]

/-- Where a path without what does not count at its end leads. -/
theorem reach_trimReversed {reversed : List Char} (filled : reversed ≠ [])
    (reached : disk.reach (pieces reversed.reverse) = .ok place) :
    disk.reach (pieces (Path.trimReversed reversed).reverse) = .ok place := by
  -- A slash at the end, and a dot after a slash, ask for a directory and stay there.
  have stays (before : List Char) (part : String) (here : part = "" ∨ part = ".")
      (reached : disk.reach (pieces before ++ [part]) = .ok place) :
      disk.reach (pieces before) = .ok place ∧ disk.at? place = some .directory := by
    rw [reach_append (pieces_ne_nil before)] at reached
    obtain ⟨other, reached, followed⟩ := Store.bind_eq_ok.1 reached
    obtain ⟨entered, advanced⟩ := follow_singleton.1 followed
    rw [advance_here here] at advanced
    cases advanced
    exact ⟨reached, entered⟩
  induction reversed using Path.trimReversed.induct with
  | case1 c rest ih =>
      rw [Path.trimReversed]
      apply ih (List.cons_ne_nil c rest)
      rw [List.reverse_cons, pieces_append] at reached
      exact (stays _ "" (Or.inl rfl) reached).1
  | case2 rest ih =>
      rw [Path.trimReversed]
      apply ih (List.cons_ne_nil '/' rest)
      rw [List.reverse_cons, List.reverse_cons, List.append_assoc, List.singleton_append,
        pieces_append] at reached
      obtain ⟨above, entered⟩ := stays _ "." (Or.inr rfl) reached
      rw [List.reverse_cons, pieces_append, reach_append (pieces_ne_nil _), above]
      exact follow_singleton.2 ⟨entered, advance_here (Or.inl rfl)⟩
  | case3 path noSlash noDot => rwa [Path.trimReversed.eq_3 path noSlash noDot]

/-- What stands before the last part of a path leads to the same place without the slashes
and dots at its end. -/
theorem start_trimmed {path before last : List Char} (cut : Path.IsCut path before last)
    (reached : disk.base before = .ok place) :
    disk.start (Path.trimmed before) = .ok place := by
  rcases cut.ends with rfl | slash
  · exact reached
  obtain ⟨above, rfl⟩ := List.getLast?_eq_some_iff.1 slash
  have more : above ++ ['/'] ≠ [] := by simp
  rw [base, if_neg more, List.dropLast_concat] at reached
  rw [Path.trimmed, List.reverse_append, List.reverse_singleton, List.singleton_append]
  cases reversed : above.reverse with
  | nil =>
      rw [List.reverse_eq_nil_iff.1 reversed] at reached
      exact reached
  | cons c rest =>
      have filled : above.reverse ≠ [] := reversed ▸ List.cons_ne_nil c rest
      rw [Path.trimReversed, ← reversed, start, if_neg]
      · apply reach_trimReversed filled
        rwa [List.reverse_reverse]
      · rw [List.reverse_eq_nil_iff]
        exact Path.trimReversed_ne_nil filled

/-- A trimmed directory leads to the same place before the names in it. -/
theorem base_front {directory : List Char} (isTrimmed : Path.trimmed directory = directory) :
    disk.base (Path.front directory) = disk.start directory := by
  simp only [Path.front]
  split
  next ends =>
    rcases ends with rfl | slash
    · rfl
    · rw [Path.eq_root_of_trimmed isTrimmed slash]
      rfl
  next more =>
    rw [not_or] at more
    rw [base, start, if_neg more.1, if_neg (by simp), List.dropLast_concat]

/-! ## Directories that paths lead to -/

/-- The path of a directory leads to a place. -/
structure Leads (disk : Disk) (directory : String) (place : Place) : Prop where
  clean : '\x00' ∉ directory.toList
  isTrimmed : Path.IsTrimmed directory
  reached : disk.start directory.toList = .ok place
  isDirectory : disk.at? place = some .directory

namespace Leads

variable {directory name : String}

/-- The path of a directory leads to the same place as long as directories stay. -/
theorem of_kept {later : Disk} (leads : disk.Leads directory place)
    (here : later.here = disk.here)
    (kept : ∀ place, disk.at? place = some .directory → later.at? place = some .directory) :
    later.Leads directory place where
  clean := leads.clean
  isTrimmed := leads.isTrimmed
  reached := by
    have reached := leads.reached
    simp only [start] at reached ⊢
    split
    next empty =>
      rw [if_pos empty] at reached
      rwa [here]
    next more =>
      rw [if_neg more] at reached
      have origins : later.origin (pieces directory.toList) =
          disk.origin (pieces directory.toList) := by
        simp only [origin, here]
      rw [reach, origins]
      exact follow_of_kept kept reached
  isDirectory := kept place leads.isDirectory

/-- A directory leads to one place. -/
theorem unique (leads : disk.Leads directory place) (others : disk.Leads directory other) :
    place = other := by
  have reached := leads.reached
  rw [others.reached] at reached
  exact (Except.ok.inj reached).symm

theorem locate (leads : disk.Leads directory place) (filled : directory.toList ≠ []) :
    disk.locate directory = .ok place := by
  have reached := leads.reached
  rwa [start, if_neg filled, ← locate_eq leads.clean filled, String.ofList_toList] at reached

theorem lookUp (leads : disk.Leads directory place) (filled : directory.isEmpty ≠ true) :
    disk.lookUp directory = .ok .directory := by
  simp only [Disk.lookUp, leads.locate (by simpa using filled), bind, Except.bind,
    leads.isDirectory]
  rfl

end Leads

section Names

variable {directory name : String} (isName : Path.IsName name)

include isName

/-- A path of a directory and a name leads to the name by way of the directory. -/
theorem locate_join_eq (clean : '\x00' ∉ directory.toList)
    (isTrimmed : Path.IsTrimmed directory) :
    disk.locate (Path.join directory name) =
      disk.start directory.toList >>= fun place => disk.follow place [name] := by
  have filled : (Path.join directory name).toList ≠ [] := Path.toList_join_ne_nil isName
  calc
    disk.locate (Path.join directory name) =
        disk.reach (pieces (Path.join directory name).toList) := by
      rw [← locate_eq (Path.clean_join isName clean) filled, String.ofList_toList]
    _ = disk.base (Path.front directory.toList) >>=
        fun place => disk.follow place [String.ofList name.toList] :=
      reach_cut (Path.isCut_join isName directory) filled
    _ = disk.start directory.toList >>= fun place => disk.follow place [name] := by
      rw [base_front isTrimmed, String.ofList_toList]

theorem locate_join (leads : disk.Leads directory place) :
    disk.locate (Path.join directory name) =
      if longestName < name.utf8ByteSize then .error .nameTooLong
      else .ok (place ++ [name]) := by
  rw [locate_join_eq isName leads.clean leads.isTrimmed, leads.reached]
  change disk.follow place [name] = _
  rw [follow_cons, enter_eq_ok.2 leads.isDirectory]
  change (advance place name >>= fun next => disk.follow next []) = _
  rw [advance_name isName]
  split <;> rfl

/-- Where a path of a directory and a name leads somewhere, the directory is there. -/
theorem leads_of_locate_join (clean : '\x00' ∉ directory.toList)
    (isTrimmed : Path.IsTrimmed directory)
    (located : disk.locate (Path.join directory name) = .ok other) :
    ∃ place, disk.Leads directory place ∧ name.utf8ByteSize ≤ longestName ∧
      other = place ++ [name] := by
  rw [locate_join_eq isName clean isTrimmed] at located
  obtain ⟨place, reached, followed⟩ := Store.bind_eq_ok.1 located
  obtain ⟨isDirectory, advanced⟩ := follow_singleton.1 followed
  rw [advance_name isName] at advanced
  split at advanced
  next => cases advanced
  next fits =>
    cases advanced
    exact ⟨place, ⟨clean, isTrimmed, reached, isDirectory⟩, Nat.le_of_not_lt fits, rfl⟩

theorem lookUp_join_eq_ok (leads : disk.Leads directory place) {node : Node} :
    disk.lookUp (Path.join directory name) = .ok node ↔
      name.utf8ByteSize ≤ longestName ∧ disk.at? (place ++ [name]) = some node := by
  simp only [lookUp, locate_join isName leads]
  split
  next long => simp [bind, Except.bind, Nat.not_le.2 long]
  next fits =>
    simp only [bind, Except.bind, Nat.le_of_not_lt fits, true_and]
    split
    next found => simp [found, pure, Except.pure]
    next missing => simp [missing, throw, throwThe, MonadExceptOf.throw]

/-- What is found at a path depends on what is at its place. -/
theorem lookUp_join_congr {later : Disk} {way : String} (leads : disk.Leads directory place)
    (leadsLater : later.Leads way place)
    (same : later.at? (place ++ [name]) = disk.at? (place ++ [name])) :
    later.lookUp (Path.join way name) = disk.lookUp (Path.join directory name) := by
  simp only [lookUp, locate_join isName leads, locate_join isName leadsLater]
  split
  next => rfl
  next => simp only [bind, Except.bind, same]

/-- The path of a directory in a directory. -/
theorem Leads.below (leads : disk.Leads directory place)
    (fits : name.utf8ByteSize ≤ longestName)
    (isDirectory : disk.at? (place ++ [name]) = some .directory) :
    disk.Leads (Path.join directory name) (place ++ [name]) := by
  have clean := Path.clean_join isName leads.clean
  have filled : (Path.join directory name).toList ≠ [] := Path.toList_join_ne_nil isName
  refine ⟨clean, Path.isTrimmed_join isName, ?_, isDirectory⟩
  rw [start, if_neg filled, ← locate_eq clean filled, String.ofList_toList,
    locate_join isName leads, if_neg (Nat.not_lt.2 fits)]

/-- The path of a directory in a directory leads to its name there. -/
theorem Leads.eq_append (leads : disk.Leads directory place)
    (leadsBelow : disk.Leads (Path.join directory name) other) : other = place ++ [name] := by
  have filled : (Path.join directory name).toList ≠ [] := Path.toList_join_ne_nil isName
  have reached := leadsBelow.reached
  rw [start, if_neg filled, ← locate_eq leadsBelow.clean filled, String.ofList_toList,
    locate_join isName leads] at reached
  split at reached
  next => cases reached
  next =>
    cases reached
    rfl

end Names

/-! ## What operations change -/

/-- Between two disks only what is at some places changes, and no directory goes. -/
structure Changes (places : Set Place) (before after : Disk) : Prop where
  here : after.here = before.here
  kept : ∀ place, before.at? place = some .directory → after.at? place = some .directory
  elsewhere : ∀ place ∉ places, after.at? place = before.at? place

namespace Changes

variable {places more : Set Place} {before between after : Disk}

theorem refl (places : Set Place) (disk : Disk) : Changes places disk disk :=
  ⟨rfl, fun _ isDirectory => isDirectory, fun _ _ => rfl⟩

theorem trans (first : Changes places before between) (second : Changes places between after) :
    Changes places before after where
  here := second.here.trans first.here
  kept place isDirectory := second.kept place (first.kept place isDirectory)
  elsewhere place outside :=
    (second.elsewhere place outside).trans (first.elsewhere place outside)

theorem mono (changes : Changes places before after) (within : places ⊆ more) :
    Changes more before after :=
  ⟨changes.here, changes.kept,
    fun place outside => changes.elsewhere place fun inside => outside (within inside)⟩

theorem leads {directory : String} (changes : Changes places before after)
    (leads : before.Leads directory place) : after.Leads directory place :=
  leads.of_kept changes.here changes.kept

end Changes

theorem changes_put_file {contents : Bytes} (filled : place ≠ [])
    (noDirectory : disk.at? place ≠ some .directory) :
    Changes {place} disk (disk.put place (.file contents)) where
  here := rfl
  kept other isDirectory := by
    rw [at?_put filled, if_neg]
    · exact isDirectory
    · rintro rfl
      exact noDirectory isDirectory
  elsewhere other outside := by
    rw [at?_put filled, if_neg]
    rintro rfl
    exact outside rfl

theorem changes_put_directory (filled : place ≠ []) :
    Changes {place} disk (disk.put place .directory) where
  here := rfl
  kept other isDirectory := by
    rw [at?_put filled]
    split
    next => rfl
    next => exact isDirectory
  elsewhere other outside := by
    rw [at?_put filled, if_neg]
    rintro rfl
    exact outside rfl

theorem changes_remove {contents : Bytes} (filled : place ≠ [])
    (file : disk.at? place = some (.file contents)) :
    Changes {place} disk (disk.remove place) where
  here := rfl
  kept other isDirectory := by
    rw [at?_remove filled, if_neg]
    · exact isDirectory
    · rintro rfl
      simp [file] at isDirectory
  elsewhere other outside := by
    rw [at?_remove filled, if_neg]
    rintro rfl
    exact outside rfl

section Operations

variable {directory name : String} {after : Disk}

/-- What a path goes through is a directory, if it leads to one. -/
theorem isDirectory_of_follow {parts : List String} {next : Place}
    (followed : disk.follow next parts = .ok other)
    (isDirectory : disk.at? other = some .directory) : disk.at? next = some .directory := by
  cases parts with
  | nil =>
      cases followed
      exact isDirectory
  | cons part parts =>
      rw [follow_cons] at followed
      obtain ⟨⟨⟩, entered, -⟩ := Store.bind_eq_ok.1 followed
      exact enter_eq_ok.1 entered

/-- Directories that are there are not made again. -/
theorem makeFrom_append {parts more : List String}
    (followed : disk.follow place parts = .ok other)
    (isDirectory : disk.at? other = some .directory) :
    disk.makeFrom place (parts ++ more) = disk.makeFrom other more := by
  induction parts generalizing place with
  | nil =>
      cases followed
      rfl
  | cons part parts ih =>
      rw [follow_cons] at followed
      obtain ⟨⟨⟩, -, followed⟩ := Store.bind_eq_ok.1 followed
      obtain ⟨next, advanced, followed⟩ := Store.bind_eq_ok.1 followed
      have through := isDirectory_of_follow followed isDirectory
      rw [List.cons_append, makeFrom]
      simp only [advance] at advanced
      split at advanced
      next here =>
        cases advanced
        rw [if_pos here, ih followed]
      next noStay =>
        rw [if_neg noStay]
        split at advanced
        next above =>
          cases advanced
          rw [if_pos above, ih followed]
        next noAbove =>
          rw [if_neg noAbove]
          split at advanced
          next => cases advanced
          next fits =>
            cases advanced
            simp only [if_neg fits, through, ih followed]

theorem makeFrom_eq {parts : List String} (followed : disk.follow place parts = .ok other)
    (isDirectory : disk.at? other = some .directory) : disk.makeFrom place parts = .ok disk := by
  rw [← List.append_nil parts, makeFrom_append followed isDirectory]
  rfl

theorem makeDirectories_eq {path : String} {parts : List String}
    (named : partsOf path = .ok parts) :
    disk.makeDirectories path =
      disk.makeFrom (disk.origin parts).1 (disk.origin parts).2 := by
  by_cases root : ∃ rest, parts = "" :: rest
  · obtain ⟨rest, rfl⟩ := root
    rw [makeDirectories, named]
    rfl
  · have starts : disk.origin parts = (disk.here, parts) := by
      rw [origin]
      exact fun rest same => root ⟨rest, same⟩
    simp only [makeDirectories, named, bind, Except.bind, starts]
    split
    next rest => exact absurd ⟨rest, rfl⟩ root
    next => rfl

/-- A directory that is there is not made again. -/
theorem Leads.makeDirectories_eq (leads : disk.Leads directory place) :
    disk.makeDirectories directory = .ok disk := by
  have parts : partsOf directory = .ok (pieces directory.toList) := by
    simp [partsOf, leads.clean, pieces]
  have reached := leads.reached
  rw [Disk.makeDirectories_eq parts]
  simp only [start] at reached
  split at reached
  next empty =>
    rw [empty]
    rfl
  next =>
    exact makeFrom_eq reached leads.isDirectory

/-- In a directory that is there only the last directory of a path has to be made. -/
theorem makeDirectories_join_eq (isName : Path.IsName name) (leads : disk.Leads directory place) :
    disk.makeDirectories (Path.join directory name) = disk.makeFrom place [name] := by
  have parts : partsOf (Path.join directory name) =
      .ok (pieces (Path.join directory name).toList) := by
    simp [partsOf, Path.clean_join isName leads.clean, pieces]
  have started : disk.makeDirectories (Path.join directory name) =
      disk.makeFrom (disk.origin (pieces (Path.join directory name).toList)).1
        (disk.origin (pieces (Path.join directory name).toList)).2 := makeDirectories_eq parts
  have reached := leads.reached
  rw [← base_front leads.isTrimmed] at reached
  rw [started]
  rcases Path.front_ends directory.toList with empty | slash
  · rw [empty] at reached
    cases reached
    rw [Path.toList_join isName, empty, List.nil_append, pieces_of_not_mem isName.single,
      String.ofList_toList]
    have notEmpty : name ≠ "" := fun empty => isName.ne_here (Or.inl empty)
    simp [origin, notEmpty]
  · obtain ⟨above, whole⟩ := List.getLast?_eq_some_iff.1 slash
    have more : above ++ ['/'] ≠ [] := by simp
    rw [whole, base, if_neg more, List.dropLast_concat] at reached
    rw [Path.toList_join isName, whole, List.append_assoc, List.singleton_append,
      pieces_append, origin_append (pieces_ne_nil above),
      pieces_of_not_mem isName.single, String.ofList_toList]
    exact makeFrom_append reached leads.isDirectory

/-- Making a directory in one that is there makes only this one. -/
theorem makeDirectories_join (isName : Path.IsName name) (leads : disk.Leads directory place)
    (made : disk.makeDirectories (Path.join directory name) = .ok after) :
    Changes {place ++ [name]} disk after := by
  rw [makeDirectories_join_eq isName leads, makeFrom, if_neg isName.ne_here,
    if_neg isName.ne_above] at made
  split at made
  next => cases made
  next =>
    dsimp only at made
    split at made
    next =>
      cases made
      exact .refl _ disk
    next => cases made
    next =>
      cases made
      exact changes_put_directory (by simp)

/-- A directory is made where there is nothing. -/
theorem makeDirectories_join_of_none (isName : Path.IsName name)
    (leads : disk.Leads directory place) (fits : name.utf8ByteSize ≤ longestName)
    (free : disk.at? (place ++ [name]) = none) :
    disk.makeDirectories (Path.join directory name) =
      .ok (disk.put (place ++ [name]) .directory) := by
  rw [makeDirectories_join_eq isName leads, makeFrom, if_neg isName.ne_here,
    if_neg isName.ne_above, if_neg (Nat.not_lt.2 fits)]
  simp only [free, makeFrom]

/-- Reading leaves the disk as it is. -/
theorem run_read {path : String} {result : Except DiskError Bytes}
    (read : disk.read path = result) :
    (Files.read path : StateM Disk (Except DiskError Bytes)).run disk = (result, disk) :=
  congrArg (·, disk) read

theorem run_isPresent (disk : Disk) (path : String) :
    (Files.isPresent path : StateM Disk Bool).run disk = ((disk.lookUp path).toBool, disk) :=
  rfl

theorem run_attempt_of_ok (operation : Disk → Except DiskError Disk)
    (works : operation disk = .ok after) : (attempt operation).run disk = (.ok (), after) := by
  simp only [attempt, StateT.run, works]

theorem run_attempt_of_error (operation : Disk → Except DiskError Disk) {error : DiskError}
    (fails : operation disk = .error error) :
    (attempt operation).run disk = (.error error, disk) := by
  simp only [attempt, StateT.run, fails]

/-- An operation that succeeds. -/
theorem attempt_eq_ok (operation : Disk → Except DiskError Disk) {value : Unit}
    (done : (attempt operation).run disk = (.ok value, after)) : operation disk = .ok after := by
  simp only [attempt, StateT.run] at done
  split at done
  next other worked =>
    cases done
    exact worked
  next => cases done

variable {path : String} {value : Unit}

theorem create_eq_ok
    (done : (Files.create path : StateM Disk _).run disk = (.ok value, after)) :
    disk.write path [] = .ok after :=
  attempt_eq_ok (fun disk => disk.write path []) done

theorem write_eq_ok {contents : Bytes}
    (done : (Files.write path contents : StateM Disk _).run disk = (.ok value, after)) :
    disk.write path contents = .ok after :=
  attempt_eq_ok (fun disk => disk.write path contents) done

theorem rename_eq_ok {destination : String}
    (done : (Files.rename path destination : StateM Disk _).run disk = (.ok value, after)) :
    disk.rename path destination = .ok after :=
  attempt_eq_ok (fun disk => disk.rename path destination) done

theorem makeDirectories_eq_ok
    (done : (Files.makeDirectories path : StateM Disk _).run disk = (.ok value, after)) :
    disk.makeDirectories path = .ok after :=
  attempt_eq_ok (fun disk => disk.makeDirectories path) done

end Operations

end Disk
end ColumnChain
