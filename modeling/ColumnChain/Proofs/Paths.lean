import ColumnChain.Files.Path
import Mathlib.Data.List.Basic
import Mathlib.Data.List.TakeWhile

/-!
# Parts of paths

A path is cut before the last of its parts. Where that part is a name, the name and the
directory in front of it are found again, and a path that is made of a directory and a
name is cut into just these.
-/

namespace ColumnChain.Path

/-! ## Trimming -/

/-- What does not end in a slash, or in a dot after one, is not trimmed. -/
theorem trimReversed_append {last before : List Char} (filled : last ≠ [])
    (whole : '/' ∉ last) (notHere : last ≠ ['.']) :
    trimReversed (last ++ before) = last ++ before := by
  cases last with
  | nil => exact absurd rfl filled
  | cons c others =>
      rw [List.cons_append, trimReversed]
      · intro next rest same
        exact whole ((List.cons.inj same).1 ▸ List.mem_cons_self)
      · intro rest same
        obtain ⟨rfl, tail⟩ := List.cons.inj same
        cases others with
        | nil => exact notHere rfl
        | cons next others =>
            obtain ⟨rfl, -⟩ := List.cons.inj tail
            exact whole (List.mem_cons_of_mem '.' List.mem_cons_self)

@[simp] theorem trimReversed_trimReversed (path : List Char) :
    trimReversed (trimReversed path) = trimReversed path := by
  induction path using trimReversed.induct with
  | case1 c rest ih => rw [trimReversed, ih]
  | case2 rest ih => rw [trimReversed, ih]
  | case3 path noSlash noDot =>
      have kept : trimReversed path = path := trimReversed.eq_3 path noSlash noDot
      rw [kept, kept]

@[simp] theorem trimmed_trimmed (path : List Char) :
    trimmed (trimmed path) = trimmed path := by
  simp [trimmed]

theorem trimReversed_ne_nil {reversed : List Char} (filled : reversed ≠ []) :
    trimReversed reversed ≠ [] := by
  induction reversed using trimReversed.induct with
  | case1 c rest ih =>
      rw [trimReversed]
      exact ih (List.cons_ne_nil c rest)
  | case2 rest ih =>
      rw [trimReversed]
      exact ih (List.cons_ne_nil '/' rest)
  | case3 path noSlash noDot => rwa [trimReversed.eq_3 path noSlash noDot]

theorem trimReversed_isSuffix (path : List Char) : trimReversed path <:+ path := by
  induction path using trimReversed.induct with
  | case1 c rest ih =>
      rw [trimReversed]
      exact ih.trans (List.suffix_cons '/' (c :: rest))
  | case2 rest ih =>
      rw [trimReversed]
      exact ih.trans (List.suffix_cons '.' ('/' :: rest))
  | case3 path noSlash noDot =>
      exact ⟨[], trimReversed.eq_3 path noSlash noDot⟩

theorem mem_of_mem_trimmed {c : Char} {path : List Char} (member : c ∈ trimmed path) :
    c ∈ path :=
  List.mem_reverse.1 ((trimReversed_isSuffix path.reverse).subset (List.mem_reverse.1 member))

/-- The only trimmed path with a slash at its end is the root. -/
theorem eq_root_of_trimmed {path : List Char} (isTrimmed : trimmed path = path)
    (slash : path.getLast? = some '/') : path = ['/'] := by
  obtain ⟨above, rfl⟩ := List.getLast?_eq_some_iff.1 slash
  rw [trimmed, List.reverse_append, List.reverse_singleton, List.singleton_append] at isTrimmed
  cases reversed : above.reverse with
  | nil => rw [List.reverse_eq_nil_iff.1 reversed, List.nil_append]
  | cons c rest =>
      have shorter := (trimReversed_isSuffix above.reverse).length_le
      have length := congrArg List.length isTrimmed
      rw [reversed, trimReversed, ← reversed] at length
      simp at length shorter
      omega

/-! ## Cutting a path before its last part -/

/-- A path is cut before its last part. -/
structure IsCut (path before last : List Char) : Prop where
  whole : path = before ++ last
  single : '/' ∉ last
  ends : before = [] ∨ before.getLast? = some '/'

theorem exists_isCut (path : List Char) : ∃ before last, IsCut path before last := by
  refine ⟨(path.reverse.dropWhile (· != '/')).reverse,
    (path.reverse.takeWhile (· != '/')).reverse, ?_, ?_, ?_⟩
  · rw [← List.reverse_append, List.takeWhile_append_dropWhile, List.reverse_reverse]
  · intro member
    have other := List.mem_takeWhile_imp (List.mem_reverse.1 member)
    simp at other
  · rw [List.getLast?_reverse, List.reverse_eq_nil_iff]
    cases rest : path.reverse.dropWhile (· != '/') with
    | nil => exact Or.inl rfl
    | cons c others =>
        have slash := List.head?_dropWhile_not (· != '/') path.reverse
        rw [rest] at slash
        exact Or.inr (by simpa using slash)

namespace IsCut

variable {path before last : List Char}

/-- The part before the last slash is what is left without the last part. -/
theorem dropWhile_reverse (cut : IsCut path before last) :
    path.reverse.dropWhile (· != '/') = before.reverse := by
  rw [cut.whole, List.reverse_append, List.dropWhile_append_of_pos]
  · rcases cut.ends with rfl | slash
    · rfl
    · rw [← List.head?_reverse] at slash
      obtain ⟨others, same⟩ := List.head?_eq_some_iff.1 slash
      rw [same]
      rfl
  · intro c member
    simp only [bne_iff_ne]
    rintro rfl
    exact cut.single (List.mem_reverse.1 member)

theorem takeWhile_reverse (cut : IsCut path before last) :
    path.reverse.takeWhile (· != '/') = last.reverse := by
  rw [cut.whole, List.reverse_append, List.takeWhile_append_of_pos]
  · rcases cut.ends with rfl | slash
    · simp
    · rw [← List.head?_reverse] at slash
      obtain ⟨others, same⟩ := List.head?_eq_some_iff.1 slash
      rw [same]
      simp
  · intro c member
    simp only [bne_iff_ne]
    rintro rfl
    exact cut.single (List.mem_reverse.1 member)

section Named

variable (cut : IsCut path before last) (filled : last ≠ []) (notHere : last ≠ ['.'])

include cut filled notHere

theorem trimmed_eq : trimmed path = path := by
  rw [trimmed, cut.whole, List.reverse_append, trimReversed_append]
  · rw [← List.reverse_append, List.reverse_reverse]
  · simpa using filled
  · simpa using cut.single
  · intro dot
    exact notHere (by rw [← List.reverse_reverse last, dot]; rfl)

theorem lastPart_eq : lastPart path = last := by
  rw [lastPart, cut.trimmed_eq filled notHere, cut.takeWhile_reverse, List.reverse_reverse]

theorem parent?_eq : parent? (String.ofList path) = some (String.ofList (trimmed before)) := by
  have notEmpty : path.isEmpty = false := by
    rw [cut.whole]
    simp [filled]
  have notRoot : (path == ['/']) = false := by
    rw [beq_eq_false_iff_ne]
    rintro rfl
    obtain ⟨c, others, rfl⟩ := List.exists_cons_of_ne_nil filled
    have whole := cut.whole
    cases before with
    | nil =>
        cases whole
        exact cut.single List.mem_cons_self
    | cons first before => simp at whole
  simp only [parent?, String.toList_ofList, cut.trimmed_eq filled notHere, notEmpty, notRoot,
    Bool.or_self, Bool.false_eq_true, if_false, cut.dropWhile_reverse]
  rfl

theorem fileName?_eq (notAbove : last ≠ ['.', '.']) :
    fileName? (String.ofList path) = some (String.ofList last) := by
  simp [fileName?, cut.lastPart_eq filled notHere, filled, notHere, notAbove]

theorem fileName?_eq_none (above : last = ['.', '.']) :
    fileName? (String.ofList path) = none := by
  simp [fileName?, cut.lastPart_eq filled notHere, above]

end Named
end IsCut

/-! ## Directories and names -/

/-- The name of a file or of a directory. -/
structure IsName (name : String) : Prop where
  filled : name.toList ≠ []
  single : '/' ∉ name.toList
  clean : '\x00' ∉ name.toList
  notHere : name.toList ≠ ['.']
  notAbove : name.toList ≠ ['.', '.']

/-- A text that is longer than the dots that stand for directories. -/
theorem isName_of_length {name : String} (long : 2 < name.toList.length)
    (single : '/' ∉ name.toList) (clean : '\x00' ∉ name.toList) : IsName name where
  filled := by
    intro empty
    rw [empty] at long
    contradiction
  single := single
  clean := clean
  notHere := by
    intro here
    rw [here] at long
    contradiction
  notAbove := by
    intro above
    rw [above] at long
    contradiction

namespace IsName

variable {name : String} (isName : IsName name)

include isName

theorem ne_here : ¬ (name = "" ∨ name = ".") := by
  rintro (rfl | rfl)
  · exact isName.filled rfl
  · exact isName.notHere rfl

theorem ne_above : name ≠ ".." := by
  rintro rfl
  exact isName.notAbove rfl

end IsName

/-- The path of a directory that is trimmed. -/
def IsTrimmed (directory : String) : Prop :=
  trimmed directory.toList = directory.toList

/-- A directory as it stands before the names in it. -/
def front (directory : List Char) : List Char :=
  if directory = [] ∨ directory.getLast? = some '/' then directory else directory ++ ['/']

theorem front_ends (directory : List Char) :
    front directory = [] ∨ (front directory).getLast? = some '/' := by
  simp only [front]
  split
  next ends => exact ends
  next => simp

theorem trimmed_front {directory : List Char} (isTrimmed : trimmed directory = directory) :
    trimmed (front directory) = directory := by
  simp only [front]
  split
  next => exact isTrimmed
  next more =>
    rw [not_or] at more
    rw [trimmed, List.reverse_append, List.reverse_singleton, List.singleton_append]
    cases reversed : directory.reverse with
    | nil => simp [more.1] at reversed
    | cons c others =>
        have kept : trimReversed (c :: others) = c :: others := by
          rw [← reversed, ← List.reverse_inj, List.reverse_reverse]
          exact isTrimmed
        rw [trimReversed, kept, ← reversed, List.reverse_reverse]

section Join

variable {directory name : String} (isName : IsName name)

include isName

theorem toList_join : (join directory name).toList = front directory.toList ++ name.toList := by
  have noSlash : name.toList.head? ≠ some '/' := by
    intro slash
    obtain ⟨others, same⟩ := List.head?_eq_some_iff.1 slash
    exact isName.single (same ▸ List.mem_cons_self)
  have empty : directory.isEmpty = true ↔ directory.toList = [] := by simp
  simp only [join, front]
  by_cases noDirectory : directory.toList = []
  · simp [empty.2 noDirectory, noDirectory]
  · by_cases root : directory.toList.getLast? = some '/'
    · simp [noSlash, noDirectory, root, empty]
    · simp [noSlash, noDirectory, root, empty]

theorem toList_join_ne_nil : (join directory name).toList ≠ [] := by
  rw [toList_join isName]
  simp [isName.filled]

theorem clean_join (clean : '\x00' ∉ directory.toList) :
    '\x00' ∉ (join directory name).toList := by
  rw [toList_join isName, List.mem_append, not_or]
  refine ⟨?_, isName.clean⟩
  simp only [front]
  split <;> simp [clean]

theorem isCut_join (directory : String) :
    IsCut (join directory name).toList (front directory.toList) name.toList :=
  ⟨toList_join isName, isName.single, front_ends directory.toList⟩

theorem fileName?_join : fileName? (join directory name) = some name := by
  have found := (isCut_join isName directory).fileName?_eq isName.filled isName.notHere
    isName.notAbove
  rwa [String.ofList_toList, String.ofList_toList] at found

theorem fileName?_eq_self : fileName? name = some name := by
  have alone : join "" name = name := by simp [join]
  rw [← alone, fileName?_join isName, alone]

theorem parent?_join (isTrimmed : IsTrimmed directory) :
    parent? (join directory name) = some directory := by
  have found := (isCut_join isName directory).parent?_eq isName.filled isName.notHere
  rwa [String.ofList_toList, trimmed_front isTrimmed, String.ofList_toList] at found

theorem isTrimmed_join : IsTrimmed (join directory name) :=
  (isCut_join isName directory).trimmed_eq isName.filled isName.notHere

end Join

/-! ## Extensions -/

/-- A name is cut at its last dot. -/
theorem splitExtension_append {stem extension : List Char} (filled : stem ≠ [])
    (noDot : '.' ∉ extension) :
    splitExtension (stem ++ '.' :: extension) = (stem, some extension) := by
  have last : ((stem ++ '.' :: extension).reverse.takeWhile (· != '.')).reverse = extension := by
    rw [List.reverse_append, List.reverse_cons, List.append_assoc, List.singleton_append,
      List.takeWhile_append_of_pos]
    · simp
    · intro c member
      rw [bne_iff_ne]
      rintro rfl
      exact noDot (List.mem_reverse.1 member)
  have positive := List.length_pos_of_ne_nil filled
  have length : (stem ++ '.' :: extension).length - extension.length - 1 = stem.length := by
    simp
    omega
  simp only [splitExtension, last, length]
  rw [if_pos ⟨by simp; omega, positive⟩, List.take_left]

/-- What is left of a name without its extension is the beginning of the name. -/
theorem splitExtension_isPrefix (name : List Char) : (splitExtension name).1 <+: name := by
  simp only [splitExtension]
  split
  next => exact List.take_prefix _ name
  next => exact List.prefix_rfl

theorem splitExtension_ne_nil {name : List Char} (filled : name ≠ []) :
    (splitExtension name).1 ≠ [] := by
  simp only [splitExtension]
  split
  next more =>
    rw [ne_eq, List.take_eq_nil_iff, not_or]
    exact ⟨Nat.pos_iff_ne_zero.1 more.2, filled⟩
  next => exact filled

end ColumnChain.Path
