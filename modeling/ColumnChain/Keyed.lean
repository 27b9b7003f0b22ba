/-!
# Keyed collections

A list of entries with pairwise different keys, in the order in which the keys came in.
Putting an entry whose key is present replaces it in place; an entry with a new key goes
to the end, also when an entry with that key was erased before. Rows, stores of records
and the files of a disk are such collections.
-/

namespace ColumnChain

universe u v

/-- Entries with pairwise different keys, oldest key first. -/
structure Keyed (α : Type u) {κ : Type v} (key : α → κ) where
  entries : List α
  distinct : (entries.map key).Nodup

namespace Keyed

@[ext] theorem ext {α : Type u} {κ : Type v} {key : α → κ} {left right : Keyed α key}
    (equal : left.entries = right.entries) : left = right := by
  cases left; cases right; cases equal; rfl

variable {α : Type u} {κ : Type v} [DecidableEq κ] {key : α → κ}

/-- Put an entry into a list: in the place of the first one with its key, or last. -/
def putEntry (key : α → κ) (entry : α) : List α → List α
  | [] => [entry]
  | other :: rest =>
      if key other = key entry then entry :: rest else other :: putEntry key entry rest

/-- Putting an entry adds at most its own key, and that at the end. -/
theorem map_key_putEntry (entry : α) (entries : List α) :
    (putEntry key entry entries).map key =
      if key entry ∈ entries.map key then entries.map key
      else entries.map key ++ [key entry] := by
  induction entries with
  | nil => simp [putEntry]
  | cons other rest ih =>
      by_cases equal : key other = key entry
      · simp [putEntry, equal]
      · have different : ¬ key entry = key other := fun h => equal h.symm
        simp only [putEntry, equal, if_false, List.map_cons, ih, List.mem_cons, different,
          false_or]
        split <;> simp

theorem distinct_putEntry {entry : α} {entries : List α}
    (distinct : (entries.map key).Nodup) :
    ((putEntry key entry entries).map key).Nodup := by
  rw [map_key_putEntry]
  split
  · exact distinct
  · rename_i absent
    rw [List.nodup_append]
    refine ⟨distinct, by simp, ?_⟩
    intro left leftMember right rightMember equal
    rw [List.mem_singleton] at rightMember
    exact absent (rightMember ▸ equal ▸ leftMember)

/-- The empty collection. -/
def empty : Keyed α key :=
  ⟨[], List.nodup_nil⟩

instance : Inhabited (Keyed α key) :=
  ⟨empty⟩

/-- Put an entry into the collection. -/
def put (collection : Keyed α key) (entry : α) : Keyed α key :=
  ⟨putEntry key entry collection.entries, distinct_putEntry collection.distinct⟩

/-- The collection of a list whose keys may repeat: the first place of a key and its
last entry count. -/
def ofList (entries : List α) : Keyed α key :=
  entries.foldl put empty

/-- The entry with a key. -/
def find? (collection : Keyed α key) (name : κ) : Option α :=
  collection.entries.find? fun entry => key entry == name

/-- Whether some entry has this key. -/
def contains (collection : Keyed α key) (name : κ) : Bool :=
  collection.entries.any fun entry => key entry == name

/-- The keys, in order. -/
def keys (collection : Keyed α key) : List κ :=
  collection.entries.map key

/-- The number of entries. -/
def size (collection : Keyed α key) : Nat :=
  collection.entries.length

/-- The collection without the entry of a key; the others keep their order. -/
def erase (collection : Keyed α key) (name : κ) : Keyed α key :=
  ⟨collection.entries.filter fun entry => key entry != name,
    collection.distinct.sublist (List.filter_sublist.map key)⟩

/-- Change entries without changing their keys. -/
def mapEntries (collection : Keyed α key) (f : α → α)
    (keeps : ∀ entry, key (f entry) = key entry) : Keyed α key :=
  ⟨collection.entries.map f, by
    rw [List.map_map, show key ∘ f = key from funext keeps]
    exact collection.distinct⟩

theorem entries_put (collection : Keyed α key) (entry : α) :
    (collection.put entry).entries = putEntry key entry collection.entries := rfl

theorem keys_put (collection : Keyed α key) (entry : α) :
    (collection.put entry).keys =
      if key entry ∈ collection.keys then collection.keys
      else collection.keys ++ [key entry] :=
  map_key_putEntry entry collection.entries

theorem contains_eq_true_iff (collection : Keyed α key) (name : κ) :
    collection.contains name = true ↔ name ∈ collection.keys := by
  simp [contains, keys]

end Keyed
end ColumnChain
