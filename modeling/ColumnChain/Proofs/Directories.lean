import ColumnChain.Proofs.Filing

/-!
# Directories

On a disk that is a tree everything is in a directory, and this stays so when directories are
made on the way to a path. The names in a directory are the names at which there is something
in it, each of them once.
-/

namespace ColumnChain.Disk

variable {disk after : Disk} {place other : Place} {name : String} {node : Node}

theorem at?_eq_some (filled : place ≠ []) :
    disk.at? place = some node ↔ (place, node) ∈ disk.nodes.entries := by
  have notEmpty : place.isEmpty = false := by simpa using filled
  simp only [at?, notEmpty, Bool.false_eq_true, if_false, Option.map_eq_some_iff,
    Keyed.find?_eq_some_iff]
  constructor
  · rintro ⟨⟨_, _⟩, ⟨member, rfl⟩, rfl⟩
    exact member
  · intro member
    exact ⟨(place, node), ⟨member, rfl⟩, rfl⟩

/-! ## Trees -/

/-- Paths start from a directory, and everything is in a directory. -/
structure IsTree (disk : Disk) : Prop where
  here : disk.at? disk.here = some .directory
  parents : ∀ entry ∈ disk.nodes.entries, disk.at? entry.1.dropLast = some .directory

instance (disk : Disk) : Decidable disk.IsTree :=
  decidable_of_iff (disk.at? disk.here = some .directory ∧
    ∀ entry ∈ disk.nodes.entries, disk.at? entry.1.dropLast = some .directory)
    ⟨fun ⟨here, parents⟩ => ⟨here, parents⟩, fun tree => ⟨tree.here, tree.parents⟩⟩

namespace IsTree

variable (tree : disk.IsTree)

include tree

/-- The directory above something is a directory; the root is above itself. -/
theorem above (there : disk.at? place = some node) :
    disk.at? place.dropLast = some .directory := by
  by_cases root : place = []
  · rw [root]
    rfl
  · exact tree.parents (place, node) ((at?_eq_some root).1 there)

/-- There is nothing in what is no directory. -/
theorem below_eq_none (noDirectory : disk.at? place ≠ some .directory) (name : String) :
    disk.at? (place ++ [name]) = none := by
  rw [Option.eq_none_iff_forall_ne_some]
  intro node there
  have above := tree.above there
  rw [List.dropLast_concat] at above
  exact noDirectory above

theorem put_directory (isDirectory : disk.at? place = some .directory) (name : String) :
    (disk.put (place ++ [name]) .directory).IsTree := by
  have changes : Changes {place ++ [name]} disk (disk.put (place ++ [name]) .directory) :=
    changes_put_directory (by simp)
  refine ⟨changes.kept _ tree.here, fun entry member => changes.kept _ ?_⟩
  rcases Keyed.mem_put.1 member with rfl | ⟨stored, -⟩
  · rwa [List.dropLast_concat]
  · exact tree.parents entry stored

theorem makeFrom {parts : List String} (isDirectory : disk.at? place = some .directory)
    (made : disk.makeFrom place parts = .ok after) : after.IsTree := by
  induction parts generalizing disk place with
  | nil =>
      cases made
      exact tree
  | cons part parts ih =>
      rw [Disk.makeFrom] at made
      split at made
      next => exact ih tree isDirectory made
      next =>
        split at made
        next => exact ih tree (tree.above isDirectory) made
        next =>
          split at made
          next => cases made
          next =>
            dsimp only at made
            split at made
            next there => exact ih tree there made
            next => cases made
            next =>
              refine ih (tree.put_directory isDirectory part) ?_ made
              rw [at?_put (by simp), if_pos rfl]

/-- A tree stays one when directories are made. -/
theorem makeDirectories {path : String} (made : disk.makeDirectories path = .ok after) :
    after.IsTree := by
  obtain ⟨parts, -, made⟩ := Store.bind_eq_ok.1 made
  split at made
  next => exact tree.makeFrom (at?_nil disk) made
  next => exact tree.makeFrom tree.here made

end IsTree

/-! ## Names in a directory -/

/-- The name that a place has in the directory at another one, if it is there. -/
def nameIn? (place other : Place) : Option String :=
  match other.getLast? with
  | some name => if other.dropLast = place then some name else none
  | none => none

theorem nameIn?_eq_some : nameIn? place other = some name ↔ other = place ++ [name] := by
  rw [nameIn?]
  constructor
  · intro named
    split at named
    next last ends =>
      split at named
      next within =>
        cases named
        obtain ⟨front, rfl⟩ := List.getLast?_eq_some_iff.1 ends
        rw [← within, List.dropLast_concat]
      next => cases named
    next => cases named
  · rintro rfl
    simp

theorem children_eq (disk : Disk) (place : Place) :
    disk.children place = (disk.nodes.entries.map Prod.fst).filterMap (nameIn? place) := by
  rw [List.filterMap_map]
  rfl

theorem mem_children :
    name ∈ disk.children place ↔ ∃ node, disk.at? (place ++ [name]) = some node := by
  have filled : place ++ [name] ≠ [] := by simp
  simp only [at?_eq_some filled, children_eq, List.mem_filterMap, nameIn?_eq_some, List.mem_map]
  constructor
  · rintro ⟨other, ⟨⟨_, node⟩, member, rfl⟩, rfl⟩
    exact ⟨node, member⟩
  · rintro ⟨node, member⟩
    exact ⟨place ++ [name], ⟨(place ++ [name], node), member, rfl⟩, rfl⟩

theorem nodup_children (disk : Disk) (place : Place) : (disk.children place).Nodup := by
  rw [children_eq]
  refine List.Nodup.filterMap (fun left right name leftNamed rightNamed => ?_)
    disk.nodes.distinct
  rw [nameIn?_eq_some.1 leftNamed, nameIn?_eq_some.1 rightNamed]

end ColumnChain.Disk
