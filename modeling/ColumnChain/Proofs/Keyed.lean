import ColumnChain.Keyed
import Mathlib.Data.List.Induction
import Mathlib.Data.List.Nodup
import Mathlib.Data.List.Perm.Subperm

/-!
# Members of keyed collections

Which entries a collection has after entries were put into it or erased from it. Since
keys are pairwise different, an entry is found again exactly by its key, and putting an
entry takes away the one that had its key, and no other.
-/

namespace ColumnChain.Keyed

universe u v

variable {α : Type u} {κ : Type v} [DecidableEq κ] {key : α → κ}

omit [DecidableEq κ] in
/-- Entries with one key are one entry. -/
theorem eq_of_key_eq (collection : Keyed α key) {left right : α}
    (leftMember : left ∈ collection.entries) (rightMember : right ∈ collection.entries)
    (equal : key left = key right) : left = right :=
  List.inj_on_of_nodup_map collection.distinct leftMember rightMember equal

omit [DecidableEq κ] in
/-- Collections with the same keys in one order are equal if one has all entries of the
other. -/
theorem eq_of_keys_eq {left right : Keyed α key} (sameKeys : left.keys = right.keys)
    (within : ∀ entry ∈ left.entries, entry ∈ right.entries) : left = right := by
  have sameLength : left.entries.length = right.entries.length := by
    have lengths := congrArg List.length sameKeys
    rwa [keys, keys, List.length_map, List.length_map] at lengths
  apply Keyed.ext
  apply List.ext_getElem sameLength
  intro place inLeft inRight
  refine right.eq_of_key_eq (within _ (List.getElem_mem inLeft)) (List.getElem_mem inRight) ?_
  have here := congrArg (fun names => names[place]?) sameKeys
  simpa [keys, inLeft, inRight] using here

omit [DecidableEq κ] in
theorem length_keys (collection : Keyed α key) : collection.keys.length = collection.size :=
  List.length_map key

omit [DecidableEq κ] in
/-- A collection with fewer entries is not larger. -/
theorem size_le_of_subset {left right : Keyed α key}
    (within : ∀ entry ∈ left.entries, entry ∈ right.entries) : left.size ≤ right.size :=
  (List.subperm_of_subset left.distinct.of_map within).length_le

omit [DecidableEq κ] in
theorem keys_mapEntries (collection : Keyed α key) (f : α → α)
    (keeps : ∀ entry, key (f entry) = key entry) :
    (collection.mapEntries f keeps).keys = collection.keys := by
  rw [keys, mapEntries, List.map_map, show key ∘ f = key from funext keeps, keys]

theorem mem_putEntry {entry member : α} {entries : List α}
    (distinct : (entries.map key).Nodup) :
    member ∈ putEntry key entry entries ↔
      member = entry ∨ (member ∈ entries ∧ key member ≠ key entry) := by
  induction entries with
  | nil => simp [putEntry]
  | cons other rest ih =>
      simp only [List.map_cons, List.nodup_cons, List.mem_map] at distinct
      obtain ⟨absent, restDistinct⟩ := distinct
      by_cases equal : key other = key entry
      · have different : member ∈ rest → key member ≠ key entry := by
          intro restMember sameKey
          exact absent ⟨member, restMember, sameKey.trans equal.symm⟩
        simp only [putEntry, equal, if_true, List.mem_cons]
        constructor
        · rintro (rfl | restMember)
          · exact Or.inl rfl
          · exact Or.inr ⟨Or.inr restMember, different restMember⟩
        · rintro (rfl | ⟨rfl | restMember, sameKey⟩)
          · exact Or.inl rfl
          · exact absurd equal sameKey
          · exact Or.inr restMember
      · simp only [putEntry, equal, if_false, List.mem_cons, ih restDistinct]
        constructor
        · rintro (rfl | rfl | ⟨restMember, sameKey⟩)
          · exact Or.inr ⟨Or.inl rfl, equal⟩
          · exact Or.inl rfl
          · exact Or.inr ⟨Or.inr restMember, sameKey⟩
        · rintro (rfl | ⟨rfl | restMember, sameKey⟩)
          · exact Or.inr (Or.inl rfl)
          · exact Or.inl rfl
          · exact Or.inr (Or.inr ⟨restMember, sameKey⟩)

/-- Putting an entry takes away the entry with its key and keeps all others. -/
@[simp] theorem mem_put {collection : Keyed α key} {entry member : α} :
    member ∈ (collection.put entry).entries ↔
      member = entry ∨ (member ∈ collection.entries ∧ key member ≠ key entry) :=
  mem_putEntry collection.distinct

@[simp] theorem mem_erase {collection : Keyed α key} {name : κ} {member : α} :
    member ∈ (collection.erase name).entries ↔
      member ∈ collection.entries ∧ key member ≠ name := by
  simp [erase]

/-- Putting entries with different keys takes away the entries with these keys. -/
theorem mem_foldl_put {entries : List α} {member : α} (distinct : (entries.map key).Nodup)
    (collection : Keyed α key) :
    member ∈ (entries.foldl put collection).entries ↔
      member ∈ entries ∨ (member ∈ collection.entries ∧ key member ∉ entries.map key) := by
  induction entries generalizing collection with
  | nil => simp
  | cons entry rest ih =>
      simp only [List.map_cons, List.nodup_cons] at distinct
      obtain ⟨absent, restDistinct⟩ := distinct
      simp only [List.foldl_cons, ih restDistinct, mem_put, List.mem_cons, List.map_cons,
        not_or]
      constructor
      · rintro (restMember | ⟨rfl | ⟨member, different⟩, outside⟩)
        · exact Or.inl (Or.inr restMember)
        · exact Or.inl (Or.inl rfl)
        · exact Or.inr ⟨member, different, outside⟩
      · rintro ((rfl | restMember) | ⟨member, different, outside⟩)
        · exact Or.inr ⟨Or.inl rfl, absent⟩
        · exact Or.inl restMember
        · exact Or.inr ⟨Or.inr ⟨member, different⟩, outside⟩

/-- Putting entries with keys that are there adds no keys. -/
theorem keys_foldl_put_of_present {entries : List α} {collection : Keyed α key}
    (present : ∀ entry ∈ entries, key entry ∈ collection.keys) :
    (entries.foldl put collection).keys = collection.keys := by
  induction entries generalizing collection with
  | nil => rfl
  | cons entry rest ih =>
      rw [List.forall_mem_cons] at present
      have same : (collection.put entry).keys = collection.keys := by
        rw [keys_put, if_pos present.1]
      rw [List.foldl_cons, ih, same]
      rw [same]
      exact present.2

theorem entries_erase (collection : Keyed α key) (name : κ) :
    (collection.erase name).entries = collection.entries.filter fun entry => key entry != name :=
  rfl

theorem keys_erase (collection : Keyed α key) (name : κ) :
    (collection.erase name).keys = collection.keys.filter fun other => other != name := by
  rw [keys, keys, entries_erase, List.filter_map]
  rfl

/-- Erasing keys leaves the entries with other keys, in their order. -/
theorem entries_foldl_erase {β : Type*} (names : List β) (name : β → κ)
    (collection : Keyed α key) :
    (names.foldl (fun collection other => collection.erase (name other)) collection).entries =
      collection.entries.filter fun entry => key entry ∉ names.map name := by
  induction names generalizing collection with
  | nil => simp
  | cons other rest ih =>
      rw [List.foldl_cons, ih, entries_erase, List.filter_filter]
      apply List.filter_congr
      intro entry _
      rw [Bool.eq_iff_iff]
      simp [and_comm]

/-- Putting an entry adds at most this entry. -/
theorem size_put_le (collection : Keyed α key) (entry : α) :
    (collection.put entry).size ≤ collection.size + 1 := by
  rw [← length_keys, ← length_keys, keys_put]
  split
  next => exact Nat.le_succ _
  next => simp

/-- Erasing never adds an entry. -/
theorem mem_of_mem_foldl_erase {β : Type*} {names : List β} {name : β → κ} {member : α}
    {collection : Keyed α key}
    (membership : member ∈
      (names.foldl (fun collection other => collection.erase (name other)) collection).entries) :
    member ∈ collection.entries := by
  induction names generalizing collection with
  | nil => exact membership
  | cons other rest ih => exact (mem_erase.1 (ih membership)).1

/-- An entry with a new key goes to the end. -/
theorem entries_put_of_absent {collection : Keyed α key} {entry : α}
    (absent : key entry ∉ collection.keys) :
    (collection.put entry).entries = collection.entries ++ [entry] := by
  obtain ⟨entries, distinct⟩ := collection
  simp only [keys] at absent
  simp only [entries_put]
  clear distinct
  induction entries with
  | nil => rfl
  | cons other rest ih =>
      simp only [List.map_cons, List.mem_cons, not_or] at absent
      have different : key other ≠ key entry := fun equal => absent.1 equal.symm
      simp only [putEntry, different, if_false, ih absent.2, List.cons_append]

/-- Erasing an entry that was put last undoes the putting. -/
theorem erase_put_of_absent {collection : Keyed α key} {entry : α}
    (absent : key entry ∉ collection.keys) :
    (collection.put entry).erase (key entry) = collection := by
  apply Keyed.ext
  rw [entries_erase, entries_put_of_absent absent, List.filter_append]
  have kept : collection.entries.filter (fun other => key other != key entry) =
      collection.entries := by
    rw [List.filter_eq_self]
    intro other member
    rw [bne_iff_ne]
    exact fun same => absent (same ▸ List.mem_map_of_mem member)
  simp [kept]

/-- An entry is found by its key. -/
theorem find?_eq_some_iff {collection : Keyed α key} {name : κ} {entry : α} :
    collection.find? name = some entry ↔ entry ∈ collection.entries ∧ key entry = name := by
  constructor
  · intro found
    have sameKey := List.find?_some found
    exact ⟨List.mem_of_find?_eq_some found, by simpa using sameKey⟩
  · rintro ⟨member, rfl⟩
    cases found : collection.find? (key entry) with
    | none =>
        have missing := List.find?_eq_none.1 found entry member
        simp at missing
    | some other =>
        have sameKey := List.find?_some found
        have otherMember := List.mem_of_find?_eq_some found
        rw [collection.eq_of_key_eq otherMember member (by simpa using sameKey)]

theorem find?_put (collection : Keyed α key) (entry : α) (name : κ) :
    (collection.put entry).find? name =
      if key entry = name then some entry else collection.find? name := by
  apply Option.ext
  intro found
  rw [find?_eq_some_iff, mem_put]
  split
  next same =>
    rw [Option.some.injEq]
    constructor
    · rintro ⟨rfl | ⟨-, different⟩, named⟩
      · rfl
      · exact absurd (named.trans same.symm) different
    · rintro rfl
      exact ⟨Or.inl rfl, same⟩
  next other =>
    rw [find?_eq_some_iff]
    constructor
    · rintro ⟨rfl | ⟨member, -⟩, named⟩
      · exact absurd named other
      · exact ⟨member, named⟩
    · rintro ⟨member, named⟩
      exact ⟨Or.inr ⟨member, fun same => other (same.symm.trans named)⟩, named⟩

/-- Entries with new keys go to the end in their order. -/
theorem entries_foldl_put (collection : Keyed α key) {entries : List α}
    (distinct : ((collection.entries ++ entries).map key).Nodup) :
    (entries.foldl put collection).entries = collection.entries ++ entries := by
  induction entries generalizing collection with
  | nil => simp
  | cons entry entries ih =>
      have absent : key entry ∉ collection.keys := by
        intro present
        rw [List.map_append, List.nodup_append] at distinct
        exact distinct.2.2 _ present _ (by simp) rfl
      have put := entries_put_of_absent absent
      rw [List.foldl_cons, ih, put, List.append_assoc, List.singleton_append]
      rwa [put, List.append_assoc, List.singleton_append]

/-- Putting entries adds no others. -/
theorem mem_of_mem_foldl_put {entries : List α} {collection : Keyed α key} {member : α}
    (membership : member ∈ (entries.foldl put collection).entries) :
    member ∈ collection.entries ∨ member ∈ entries := by
  induction entries generalizing collection with
  | nil => exact Or.inl membership
  | cons entry entries ih =>
      rcases ih membership with earlier | later
      · rcases mem_put.1 earlier with rfl | ⟨kept, -⟩
        · exact Or.inr List.mem_cons_self
        · exact Or.inl kept
      · exact Or.inr (List.mem_cons_of_mem entry later)

/-- A collection is made again of its entries. -/
theorem ofList_entries (collection : Keyed α key) : ofList collection.entries = collection := by
  apply Keyed.ext
  exact entries_foldl_put empty collection.distinct

theorem entries_ofList_ne_nil {entries : List α} (filled : entries ≠ []) :
    (ofList entries : Keyed α key).entries ≠ [] := by
  rw [ofList, ← List.dropLast_append_getLast filled, List.foldl_append, List.foldl_cons,
    List.foldl_nil, entries_put]
  cases (List.foldl put (empty : Keyed α key) entries.dropLast).entries with
  | nil => exact List.cons_ne_nil _ _
  | cons other rest =>
      rw [putEntry]
      split <;> exact List.cons_ne_nil _ _

/-- Putting an entry that is there changes nothing. -/
theorem put_of_mem {collection : Keyed α key} {entry : α}
    (member : entry ∈ collection.entries) : collection.put entry = collection := by
  apply Keyed.ext
  rw [entries_put]
  obtain ⟨entries, distinct⟩ := collection
  dsimp only at member ⊢
  induction entries with
  | nil => cases member
  | cons other rest ih =>
      rw [List.map_cons, List.nodup_cons] at distinct
      simp only [putEntry]
      rcases List.mem_cons.1 member with rfl | later
      · rw [if_pos rfl]
      · have different : key other ≠ key entry := fun same =>
          distinct.1 (same ▸ List.mem_map_of_mem later)
        rw [if_neg different, ih distinct.2 later]

/-- Changing the entry of a key in its place is putting the changed entry. -/
theorem mapEntries_eq_put {collection : Keyed α key} {entry : α}
    (member : entry ∈ collection.entries) (f : α → α)
    (keeps : ∀ other, key (if key other = key entry then f other else other) = key other) :
    collection.mapEntries (fun other => if key other = key entry then f other else other) keeps =
      collection.put (f entry) := by
  have sameKey : key (f entry) = key entry := by simpa using keeps entry
  apply Keyed.ext
  obtain ⟨entries, distinct⟩ := collection
  simp only [mapEntries, put] at member ⊢
  induction entries with
  | nil => cases member
  | cons other rest ih =>
      rw [List.map_cons, List.nodup_cons] at distinct
      rw [List.map_cons, putEntry, sameKey]
      split
      next equal =>
        obtain rfl : entry = other := by
          rcases List.mem_cons.1 member with same | later
          · exact same
          · exact absurd (equal ▸ List.mem_map_of_mem later) distinct.1
        have others : rest.map (fun other => if key other = key entry then f other else other) =
            rest := by
          refine (List.map_congr_left ?_).trans (List.map_id' rest)
          intro later inRest
          have different : key later ≠ key entry := fun same =>
            distinct.1 (same ▸ List.mem_map_of_mem inRest)
          rw [if_neg different]
        rw [others]
      next different =>
        have later : entry ∈ rest := by
          rcases List.mem_cons.1 member with rfl | later
          · exact absurd rfl different
          · exact later
        rw [ih distinct.2 later]

/-- An entry with a key that is there takes the place of the one that had it. -/
theorem entries_put_of_present {collection : Keyed α key} {entry : α}
    (present : key entry ∈ collection.keys) :
    (collection.put entry).entries =
      collection.entries.map fun other => if key other = key entry then entry else other := by
  obtain ⟨earlier, member, same⟩ := List.mem_map.1 present
  have keeps : ∀ other, key (if key other = key earlier then entry else other) = key other := by
    intro other
    split
    next equal => exact same.symm.trans equal.symm
    next => rfl
  rw [← mapEntries_eq_put member (fun _ => entry) keeps]
  simp only [mapEntries, same]

theorem find?_erase (collection : Keyed α key) (erased name : κ) :
    (collection.erase erased).find? name =
      if erased = name then none else collection.find? name := by
  apply Option.ext
  intro found
  rw [find?_eq_some_iff, mem_erase]
  split
  next same =>
    constructor
    · rintro ⟨⟨-, different⟩, named⟩
      exact absurd (named.trans same.symm) different
    · intro none
      cases none
  next other =>
    rw [find?_eq_some_iff]
    constructor
    · rintro ⟨⟨member, -⟩, named⟩
      exact ⟨member, named⟩
    · rintro ⟨member, named⟩
      exact ⟨⟨member, fun same => other (same.symm.trans named)⟩, named⟩

/-- Of keys that repeat the first place counts. -/
theorem keys_ofList (entries : List α) :
    (ofList entries : Keyed α key).keys = (entries.map key).eraseDups := by
  induction entries using List.reverseRecOn with
  | nil => rfl
  | append_singleton entries entry ih =>
      rw [ofList, List.foldl_append, List.foldl_cons, List.foldl_nil, ← ofList, keys_put, ih,
        List.map_append, List.map_singleton, List.eraseDups_append, List.removeAll,
        List.filter_singleton]
      by_cases present : key entry ∈ entries.map key
      · rw [if_pos (List.mem_eraseDups.2 present)]
        simp only [List.elem_eq_mem, present]
        exact (List.append_nil _).symm
      · rw [if_neg (mt List.mem_eraseDups.1 present)]
        simp only [List.elem_eq_mem, present]
        rfl

/-- Putting entries with other keys changes nothing of what is found. -/
theorem find?_foldl_put_of_absent {entries : List α} {name : κ}
    (absent : name ∉ entries.map key) (collection : Keyed α key) :
    (entries.foldl put collection).find? name = collection.find? name := by
  induction entries generalizing collection with
  | nil => rfl
  | cons entry entries ih =>
      rw [List.map_cons, List.mem_cons, not_or] at absent
      rw [List.foldl_cons, ih absent.2, find?_put, if_neg (Ne.symm absent.1)]

/-- Of entries with one key the last one counts. -/
theorem find?_ofList_of_last {before after : List α} {entry : α}
    (last : key entry ∉ after.map key) :
    (ofList (before ++ entry :: after) : Keyed α key).find? (key entry) = some entry := by
  rw [ofList, List.foldl_append, List.foldl_cons, find?_foldl_put_of_absent last, find?_put,
    if_pos rfl]

end ColumnChain.Keyed
