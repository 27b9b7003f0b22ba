import ColumnChain.Proofs.Lawfulness
import Mathlib.Data.List.Induction

/-!
# Records by id

A store is used through three calls on single records: one inserts a record, one replaces the
record with its id, and one removes the record of an id. Whatever the calls, a record is found
under its id exactly if it was last written under it and not removed since. The order of the
store is that in which ids came in: a record that is written again stays in its place, and one
that comes back after its removal goes to the end.
-/

namespace ColumnChain.Store

/-! ## Calls on single records -/

/-- A call on the records of a store. -/
inductive Edit where
  | insert (t : Transformation)
  | replace (t : Transformation)
  | remove (id : String)

namespace Edit

/-- The store after a call. A replacement that ends in a fault leaves it as it is. -/
def perform (store : Store) : Edit → Store
  | insert t => store.put t
  | replace t =>
      match store.replace t with
      | .ok later => later
      | .error _ => store
  | remove id => store.erase id

/-- A call writes a record: it inserts it, or it replaces the one that has its id. -/
inductive Writes (store : Store) (t : Transformation) : Edit → Prop
  | insert : Writes store t (.insert t)
  | replace (stored : t.id ∈ store.keys) : Writes store t (.replace t)

/-- A call neither writes a record with an id nor removes it. -/
def Spares (store : Store) (id : String) (call : Edit) : Prop :=
  call ≠ .remove id ∧ ∀ t, call.Writes store t → t.id ≠ id

/-- What a call can do to a store. -/
inductive Effect (store : Store) : Edit → Store → Prop
  | written {call : Edit} {t : Transformation} (writes : call.Writes store t) :
      Effect store call (store.put t)
  | removed (id : String) : Effect store (.remove id) (store.erase id)
  | refused {t : Transformation} (absent : t.id ∉ store.keys) : Effect store (.replace t) store

end Edit

section Calls

variable {store : Store} {call : Edit} {t : Transformation} {id : String}

/-- Replacing a record is putting it where its id is there, and a fault where it is not. -/
theorem replace_eq (store : Store) (t : Transformation) :
    store.replace t =
      if t.id ∈ store.keys then .ok (store.put t) else .error (.unknownTransformation t.id) := by
  simp only [Store.replace, Keyed.contains_eq_true_iff]

namespace Edit

theorem Writes.perform_eq (writes : call.Writes store t) : call.perform store = store.put t := by
  cases writes with
  | insert => rfl
  | replace stored => rw [perform, replace_eq, if_pos stored]

theorem perform_replace_of_absent (absent : t.id ∉ store.keys) :
    (replace t).perform store = store := by
  rw [perform, replace_eq, if_neg absent]

/-- What a call does is one of the effects. -/
theorem effect_perform (store : Store) (call : Edit) : Effect store call (call.perform store) := by
  cases call with
  | insert t => exact .written .insert
  | replace t =>
      by_cases stored : t.id ∈ store.keys
      · have writes : (replace t).Writes store t := .replace stored
        rw [writes.perform_eq]
        exact .written writes
      · rw [perform_replace_of_absent stored]
        exact .refused stored
  | remove id => exact .removed id

/-- A call writes one record. -/
theorem Writes.unique {other : Transformation} (writes : call.Writes store t)
    (writesOther : call.Writes store other) : t = other := by
  cases writes <;> cases writesOther <;> rfl

theorem not_writes_of_absent {other : Transformation} (absent : other.id ∉ store.keys) :
    ¬ (replace other).Writes store t := by
  intro writes
  cases writes with
  | replace stored => exact absent stored

/-- A call that writes a record spares all ids but that of the record. -/
theorem Writes.spares_iff (writes : call.Writes store t) :
    call.Spares store id ↔ t.id ≠ id := by
  refine ⟨fun spares => spares.2 t writes, fun different => ⟨?_, fun other writesOther => ?_⟩⟩
  · rintro rfl
    cases writes
  · rw [writesOther.unique writes]
    exact different

theorem spares_remove_iff {removed : String} :
    (remove removed).Spares store id ↔ removed ≠ id := by
  refine ⟨fun spares same => spares.1 (congrArg remove same), fun different => ⟨?_, ?_⟩⟩
  · rintro ⟨⟩
    exact different rfl
  · rintro _ ⟨⟩

/-- The record of an id after a call is the one that the call writes, or the one that there
was if the call spares it. -/
theorem find?_perform :
    (call.perform store).find? id = some t ↔
      (t.id = id ∧ call.Writes store t) ∨ (call.Spares store id ∧ store.find? id = some t) := by
  have effect := effect_perform store call
  generalize call.perform store = later at effect ⊢
  cases effect with
  | @written _ other writes =>
      rw [Keyed.find?_put, writes.spares_iff]
      split
      next same =>
        rw [Option.some.injEq]
        constructor
        · rintro rfl
          exact Or.inl ⟨same, writes⟩
        · rintro (⟨-, writesThis⟩ | ⟨different, -⟩)
          · exact writes.unique writesThis
          · exact absurd same different
      next different =>
        constructor
        · exact fun found => Or.inr ⟨different, found⟩
        · rintro (⟨same, writesThis⟩ | ⟨-, found⟩)
          · exact absurd (writes.unique writesThis ▸ same) different
          · exact found
  | removed removed =>
      rw [Keyed.find?_erase, spares_remove_iff]
      split
      next same =>
        constructor
        · rintro ⟨⟩
        · rintro (⟨-, ⟨⟩⟩ | ⟨different, -⟩)
          exact absurd same different
      next different =>
        constructor
        · exact fun found => Or.inr ⟨different, found⟩
        · rintro (⟨-, ⟨⟩⟩ | ⟨-, found⟩)
          exact found
  | refused absent =>
      constructor
      · exact fun found => Or.inr
          ⟨⟨Edit.noConfusion, fun _ writes => (not_writes_of_absent absent writes).elim⟩, found⟩
      · rintro (⟨-, writes⟩ | ⟨-, found⟩)
        · exact (not_writes_of_absent absent writes).elim
        · exact found

/-- An id that is not removed stays. -/
theorem mem_keys_perform (there : id ∈ store.keys) (kept : call ≠ .remove id) :
    id ∈ (call.perform store).keys := by
  have effect := effect_perform store call
  generalize call.perform store = later at effect ⊢
  cases effect with
  | written writes =>
      rw [Keyed.keys_put]
      split
      next => exact there
      next => exact List.mem_append_left _ there
  | removed removed =>
      rw [Keyed.keys_erase, List.mem_filter, bne_iff_ne]
      exact ⟨there, fun same => kept (congrArg remove same.symm)⟩
  | refused absent => exact there

end Edit

/-! ## The order of two ids -/

theorem pair_sublist_concat {ids : List String} {first second last : String} :
    [first, second].Sublist (ids ++ [last]) ↔
      [first, second].Sublist ids ∨ (first ∈ ids ∧ second = last) := by
  constructor
  · intro within
    obtain ⟨left, right, cut, inIds, inLast⟩ := List.sublist_append_iff.1 within
    rcases List.sublist_singleton.1 inLast with rfl | rfl
    · rw [List.append_nil] at cut
      exact Or.inl (cut ▸ inIds)
    · have apart : [first] ++ [second] = left ++ [last] := cut
      obtain ⟨rfl, same⟩ := List.append_inj' apart rfl
      exact Or.inr ⟨List.singleton_sublist.1 inIds, List.singleton_inj.1 same⟩
  · rintro (within | ⟨member, rfl⟩)
    · exact within.trans (List.sublist_append_left ids [last])
    · exact (List.singleton_sublist.2 member).append (List.Sublist.refl [second])

theorem pair_sublist_filter {ids : List String} {first second : String} {keeps : String → Bool} :
    [first, second].Sublist (ids.filter keeps) ↔
      [first, second].Sublist ids ∧ keeps first = true ∧ keeps second = true := by
  constructor
  · intro within
    have all : ∀ id ∈ [first, second], keeps id = true := fun id member =>
      (List.mem_filter.1 (within.subset member)).2
    exact ⟨within.trans List.filter_sublist, all first (by simp), all second (by simp)⟩
  · rintro ⟨within, keepsFirst, keepsSecond⟩
    have pair := within.filter keeps
    rwa [List.filter_cons_of_pos keepsFirst, List.filter_cons_of_pos keepsSecond,
      List.filter_nil] at pair

/-- Two ids stand in an order after a call if the first is not removed, and they stood in this
order before or the second comes in by the call. -/
theorem Edit.pair_sublist_keys_perform {first second : String} :
    [first, second].Sublist (call.perform store).keys ↔
      second ∈ (call.perform store).keys ∧ call ≠ .remove first ∧
        ([first, second].Sublist store.keys ∨ (first ∈ store.keys ∧ second ∉ store.keys)) := by
  have effect := effect_perform store call
  generalize call.perform store = later at effect ⊢
  have second_mem {ids : List String} (within : [first, second].Sublist ids) : second ∈ ids :=
    within.subset (by simp)
  cases effect with
  | written writes =>
      have kept : call ≠ .remove first := by
        rintro rfl
        cases writes
      rw [Keyed.keys_put]
      split
      next =>
        constructor
        · exact fun within => ⟨second_mem within, kept, Or.inl within⟩
        · rintro ⟨there, -, within | ⟨-, absent⟩⟩
          · exact within
          · exact absurd there absent
      next absent =>
        rw [pair_sublist_concat, List.mem_append, List.mem_singleton]
        constructor
        · rintro (within | ⟨there, rfl⟩)
          · exact ⟨Or.inl (second_mem within), kept, Or.inl within⟩
          · exact ⟨Or.inr rfl, kept, Or.inr ⟨there, absent⟩⟩
        · rintro ⟨there, -, within | ⟨firstThere, secondAbsent⟩⟩
          · exact Or.inl within
          · exact Or.inr ⟨firstThere, there.resolve_left secondAbsent⟩
  | removed removed =>
      rw [Keyed.keys_erase, pair_sublist_filter, List.mem_filter, bne_iff_ne, bne_iff_ne,
        Ne.eq_def (remove removed), Edit.remove.injEq]
      constructor
      · rintro ⟨within, firstKept, secondKept⟩
        exact ⟨⟨second_mem within, secondKept⟩, Ne.symm firstKept, Or.inl within⟩
      · rintro ⟨⟨there, secondKept⟩, firstKept, within | ⟨-, absent⟩⟩
        · exact ⟨within, Ne.symm firstKept, secondKept⟩
        · exact absurd there absent
  | refused absent =>
      constructor
      · exact fun within => ⟨second_mem within, Edit.noConfusion, Or.inl within⟩
      · rintro ⟨there, -, within | ⟨-, secondAbsent⟩⟩
        · exact within
        · exact absurd there secondAbsent

end Calls

/-! ## Runs -/

/-- The store after some calls on the empty one. -/
def edited (calls : List Edit) : Store :=
  calls.foldl Edit.perform Keyed.empty

theorem edited_concat (calls : List Edit) (call : Edit) :
    edited (calls ++ [call]) = call.perform (edited calls) := by
  rw [edited, List.foldl_append]
  rfl

/-- A call of a run has written the record, and every call since has spared its id. -/
inductive WroteLast (t : Transformation) : List Edit → Prop
  | now {calls : List Edit} {call : Edit} (writes : call.Writes (edited calls) t) :
      WroteLast t (calls ++ [call])
  | since {calls : List Edit} {call : Edit} (earlier : WroteLast t calls)
      (spares : call.Spares (edited calls) t.id) : WroteLast t (calls ++ [call])

/-- At some moment of a run the first id was there and the second one was not, and the first one
has not been removed since. -/
def CameFirst (calls : List Edit) (first second : String) : Prop :=
  ∃ before after, calls = before ++ after ∧ first ∈ (edited before).keys ∧
    second ∉ (edited before).keys ∧ Edit.remove first ∉ after

/-- What is found under an id is the record that was last written under it, unless that was
removed since. -/
theorem find?_edited {calls : List Edit} {id : String} {t : Transformation} :
    (edited calls).find? id = some t ↔ t.id = id ∧ WroteLast t calls := by
  constructor
  · intro found
    induction calls using List.reverseRecOn with
    | nil => cases found
    | append_singleton calls call ih =>
        rw [edited_concat, Edit.find?_perform] at found
        rcases found with ⟨same, writes⟩ | ⟨spares, found⟩
        · exact ⟨same, .now writes⟩
        · obtain ⟨rfl, earlier⟩ := ih found
          exact ⟨rfl, .since earlier spares⟩
  · rintro ⟨rfl, last⟩
    induction last with
    | now writes =>
        rw [edited_concat, Edit.find?_perform]
        exact Or.inl ⟨rfl, writes⟩
    | since _ spares ih =>
        rw [edited_concat, Edit.find?_perform]
        exact Or.inr ⟨spares, ih⟩

theorem mem_keys_edited_append {before after : List Edit} {id : String}
    (there : id ∈ (edited before).keys) (kept : Edit.remove id ∉ after) :
    id ∈ (edited (before ++ after)).keys := by
  induction after using List.reverseRecOn with
  | nil => rwa [List.append_nil]
  | append_singleton after call ih =>
      rw [List.mem_append, List.mem_singleton, not_or] at kept
      rw [← List.append_assoc, edited_concat]
      exact Edit.mem_keys_perform (ih kept.1) (Ne.symm kept.2)

/-- Of two ids the one that came in first has its place before the other. -/
theorem pair_sublist_keys_edited {calls : List Edit} {first second : String} :
    [first, second].Sublist (edited calls).keys ↔
      second ∈ (edited calls).keys ∧ CameFirst calls first second := by
  induction calls using List.reverseRecOn with
  | nil =>
      constructor
      · intro within
        cases within
      · rintro ⟨⟨⟩, -⟩
  | append_singleton calls call ih =>
      rw [edited_concat, Edit.pair_sublist_keys_perform]
      refine and_congr_right fun there => ?_
      constructor
      · rintro ⟨kept, within | ⟨firstThere, secondAbsent⟩⟩
        · obtain ⟨-, before, after, rfl, firstThere, secondAbsent, keptBefore⟩ := ih.1 within
          refine ⟨before, after ++ [call], List.append_assoc _ _ _, firstThere, secondAbsent, ?_⟩
          rw [List.mem_append, List.mem_singleton, not_or]
          exact ⟨keptBefore, Ne.symm kept⟩
        · exact ⟨calls, [call], rfl, firstThere, secondAbsent,
            fun removed => kept (List.mem_singleton.1 removed).symm⟩
      · rintro ⟨before, after, cut, firstThere, secondAbsent, kept⟩
        rcases List.eq_nil_or_concat' after with rfl | ⟨after, last, rfl⟩
        · -- The moment cannot be after the last call, since by then both ids are there.
          rw [List.append_nil] at cut
          rw [← cut, edited_concat] at secondAbsent
          exact absurd there secondAbsent
        · rw [← List.append_assoc] at cut
          obtain ⟨rfl, same⟩ := List.append_inj' cut rfl
          cases same
          rw [List.mem_append, List.mem_singleton, not_or] at kept
          refine ⟨Ne.symm kept.2, ?_⟩
          by_cases secondThere : second ∈ (edited (before ++ after)).keys
          · exact Or.inl (ih.2 ⟨secondThere, before, after, rfl, firstThere, secondAbsent, kept.1⟩)
          · exact Or.inr ⟨mem_keys_edited_append firstThere kept.1, secondThere⟩

/-! ## What a store shows of a run -/

/-- A store that keeps records by id, in the order in which the ids came in, after some calls on
the empty one. -/
structure Keeps (calls : List Edit) (store : Store) : Prop where
  distinct : store.keys.Nodup
  /-- A record is found exactly if it was last written under its id and not removed since. -/
  found : ∀ id t, store.find? id = some t ↔ t.id = id ∧ WroteLast t calls
  /-- Of two ids the one that came in first has its place before the other. -/
  ordered : ∀ first second, [first, second].Sublist store.keys ↔
    second ∈ store.keys ∧ CameFirst calls first second
  /-- Writing a record whose id is there leaves all records in their places. -/
  overwritten : ∀ (call : Edit) (t : Transformation), call.Writes store t → t.id ∈ store.keys →
    (call.perform store).entries =
      store.entries.map fun other => if other.id = t.id then t else other
  /-- A record with a new id goes to the end. -/
  added : ∀ (call : Edit) (t : Transformation), call.Writes store t → t.id ∉ store.keys →
    (call.perform store).entries = store.entries ++ [t]
  /-- A record that is inserted again after its removal goes to the end. -/
  again : ∀ t, ((Edit.insert t).perform ((Edit.remove t.id).perform store)).entries =
    (store.entries.filter fun other => other.id != t.id) ++ [t]
  /-- A replacement ends in a fault exactly if its id is not there, and then changes nothing. -/
  refused : ∀ t, ((∃ fault, store.replace t = .error fault) ↔ t.id ∉ store.keys) ∧
    ∀ fault, store.replace t = .error fault → (Edit.replace t).perform store = store
  /-- The records of a dataset come in the order of the store. -/
  listed : ∀ dataset, store.ofDataset dataset = store.entries.filter fun t => t.dataset = dataset

theorem keeps_edited (calls : List Edit) : Keeps calls (edited calls) where
  distinct := (edited calls).distinct
  found _ _ := find?_edited
  ordered _ _ := pair_sublist_keys_edited
  overwritten call t writes present := by
    rw [writes.perform_eq, Keyed.entries_put_of_present present]
  added call t writes absent := by
    rw [writes.perform_eq, Keyed.entries_put_of_absent absent]
  again t := by
    have absent : t.id ∉ ((edited calls).erase t.id).keys := by
      simp [Keyed.keys_erase]
    rw [Edit.perform, Edit.perform, Keyed.entries_put_of_absent absent, Keyed.entries_erase]
  refused t := by
    rw [Edit.perform, replace_eq]
    split
    next present => simp [present]
    next absent => simp [absent]
  listed _ := rfl

/-- A run that starts with the records of a list inserts them one after the other. -/
theorem edited_inserts (records : List Transformation) (edits : List Edit) :
    edited (records.map .insert ++ edits) = edits.foldl Edit.perform (Keyed.ofList records) := by
  rw [edited, List.foldl_append, List.foldl_map]
  rfl

/-- A store that is made of a list of records, in which ids may repeat, keeps records by id, in
the order in which the ids came in, whatever is inserted, replaced and removed. -/
theorem keeps_edits (records : List Transformation) (edits : List Edit) :
    Keeps (records.map .insert ++ edits) (edits.foldl Edit.perform (Keyed.ofList records)) :=
  edited_inserts records edits ▸ keeps_edited _

/-- Records of which two have the same id. -/
def sampleRecords : List Transformation :=
  [sampleRecord "a" "TRIM(name)" .active 1, sampleRecord "b" "CLEAN(name)" .active 2,
    sampleRecord "a" "LEFT(name, 3)" .active 3, sampleRecord "c" "ABS(name)" .active 4]

/-- Calls that replace a record, remove one, try to replace it, and insert it again. -/
def sampleEdits : List Edit :=
  [.replace (sampleRecord "b" "RIGHT(name)" .draft 2), .remove "a",
    .replace (sampleRecord "a" "FLOOR(name)" .active 5),
    .insert (sampleRecord "a" "CEIL(name)" .active 6)]

theorem keeps_edits_sample :
    Keeps (sampleRecords.map .insert ++ sampleEdits)
        (sampleEdits.foldl Edit.perform (Keyed.ofList sampleRecords)) ∧
      (sampleEdits.foldl Edit.perform (Keyed.ofList sampleRecords)).entries =
        [sampleRecord "b" "RIGHT(name)" .draft 2, sampleRecord "c" "ABS(name)" .active 4,
          sampleRecord "a" "CEIL(name)" .active 6] :=
  ⟨keeps_edits sampleRecords sampleEdits, by decide⟩

end ColumnChain.Store
