import ColumnChain.Proofs.Calls

/-!
# Changes that are accepted

A change of the number or the status of a record is accepted exactly where the store with the
changed record is lawful again. The changed record is said by itself, without the chain that
the checks go through: its status and its number are those that are given, and a record that
becomes live without a number gets the one after the largest of the others. An accepted change
notes its time and leaves all other records and every place as they are.
-/

namespace ColumnChain.Store

/-! ## The store with a change -/

/-- The live records of the column of a record that have other ids. -/
def rivals (store : Store) (t : Transformation) : List Transformation :=
  store.entries.filter fun other =>
    other.isLive && other.dataset == t.dataset && other.column == t.column && other.id != t.id

/-- The number after the largest one of the other live records of a column, and one where
there is no other. -/
def endNumber (store : Store) (t : Transformation) : Nat :=
  match ((store.rivals t).map fun other => other.sequence.toNat).max? with
  | none => 1
  | some largest => largest + 1

/-- The record that a change makes of a record. -/
def revised (store : Store) (change : Change) (t : Transformation) : Transformation :=
  let status := change.status.getD t.status
  let awakes := status.isLive && !t.isLive
  { t with
    status
    sequence := change.sequence.getD
      (if awakes then UInt32.ofNat (store.endNumber t) else t.sequence) }

/-- The store with one record changed, in its place. -/
def revise (store : Store) (id : String) (change : Change) : Store :=
  store.mapEntries (fun t => if t.id = id then store.revised change t else t) fun t => by
    split <;> rfl

/-- The store with the time of a change noted in one record, in its place. -/
def stamp (store : Store) (id : String) (now : Instant) : Store :=
  store.mapEntries (fun t => if t.id = id then { t with updated := some now } else t) fun t => by
    split <;> rfl

/-- A change may be made: there is a record of the id, and the change is empty or has a number
other than zero and leads to a lawful store. -/
def Accepts (store : Store) (id : String) (change : Change) : Prop :=
  id ∈ store.keys ∧
    (change.isEmpty = true ∨
      change.sequence ≠ some 0 ∧ (store.revise id change).HasUniqueNames ∧
        (store.revise id change).HasUniqueNumbers)

instance (store : Store) (id : String) (change : Change) : Decidable (store.Accepts id change) :=
  inferInstanceAs (Decidable (_ ∧ _))

variable {store : Store} {t : Transformation} {change : Change}

theorem mem_rivals {other : Transformation} :
    other ∈ store.rivals t ↔
      other ∈ store.chain t.dataset t.column ∧ other.id ≠ t.id := by
  simp only [rivals, List.mem_filter, mem_chain, Bool.and_eq_true, beq_iff_eq, bne_iff_ne]
  tauto

/-- The largest number of the other live records of a column, and one. -/
theorem endNumber_eq (store : Store) (t : Transformation) :
    store.endNumber t = (largestSequence
      ((store.chain t.dataset t.column).filter fun other => other.id != t.id)).toNat + 1 := by
  generalize beside :
    ((store.chain t.dataset t.column).filter fun other => other.id != t.id) = others
  have same : ∀ other, other ∈ store.rivals t ↔ other ∈ others := by
    intro other
    rw [mem_rivals, ← beside, mem_others]
  have reached := largestSequence_eq_zero_or_mem others
  rw [endNumber]
  split
  next none =>
    rw [List.max?_eq_none_iff, List.map_eq_nil_iff] at none
    rcases reached with zero | ⟨other, member, -⟩
    · rw [zero]
      rfl
    · rw [← same, none] at member
      cases member
  next largest some =>
    obtain ⟨attained, upper⟩ := List.max?_eq_some_iff.1 some
    obtain ⟨rival, isRival, rfl⟩ := List.mem_map.1 attained
    have below := le_largestSequence ((same rival).1 isRival)
    have above : (largestSequence others).toNat ≤ rival.sequence.toNat := by
      rcases reached with zero | ⟨other, member, equal⟩
      · rw [zero]
        exact Nat.zero_le _
      · rw [← equal]
        exact upper _ (List.mem_map_of_mem ((same other).2 member))
    rw [Nat.le_antisymm below above]

/-- The number that a record gets that goes to the end of its chain. -/
theorem nextSequence_others {sequence : UInt32} :
    nextSequence ((store.chain t.dataset t.column).filter fun other => other.id != t.id) =
        .ok sequence ↔
      sequence.toNat = store.endNumber t := by
  rw [nextSequence_eq_ok, endNumber_eq]

/-- The number that a change asks for is that of the changed record. -/
theorem requestedSequence_others (bounded : store.IsBounded) :
    requestedSequence t change
        ((store.chain t.dataset t.column).filter fun other => other.id != t.id) =
      .ok (store.revised change t).sequence := by
  obtain ⟨sequence, follows⟩ := exists_nextSequence fun other member =>
    bounded.chain _ _ other (mem_others.1 member).1
  have number : UInt32.ofNat (store.endNumber t) = sequence := by
    rw [← nextSequence_others.1 follows, UInt32.ofNat_toNat]
  simp only [requestedSequence, revised, number]
  cases change.sequence with
  | some given => rfl
  | none =>
      rw [follows, Option.getD_none]
      exact (apply_ite Except.ok _ _ _).symm

theorem revise_eq_put (member : t ∈ store.entries) (change : Change) :
    store.revise t.id change = store.put (store.revised change t) :=
  Keyed.mapEntries_eq_put member _ _

/-- Noting the time of a change is putting the changed record with the time. -/
theorem stamp_revise_eq_put (member : t ∈ store.entries) (change : Change) (now : Instant) :
    (store.revise t.id change).stamp t.id now =
      store.put { store.revised change t with updated := some now } := by
  rw [← Keyed.mapEntries_eq_put member
    (fun other => { store.revised change other with updated := some now }) fun other => by
      split <;> rfl]
  apply Keyed.ext
  simp only [stamp, revise, Keyed.mapEntries, List.map_map]
  apply List.map_congr_left
  intro other _
  simp only [Function.comp_apply]
  split
  next same => exact if_pos same
  next different => rfl

/-! ## The checks and the store -/

/-- The checks of a change pass exactly where the number that is given is not zero and the
store with the changed record is lawful. -/
theorem lawful_iff (names : store.HasUniqueNames) (numbers : store.HasUniqueNumbers)
    (bounded : store.IsBounded) (member : t ∈ store.entries) :
    Lawful t change ((store.chain t.dataset t.column).filter fun other => other.id != t.id)
        (store.revised change t).sequence ↔
      change.sequence ≠ some 0 ∧ (store.revise t.id change).HasUniqueNames ∧
        (store.revise t.id change).HasUniqueNumbers := by
  rw [revise_eq_put member]
  constructor
  · intro lawful
    have effect := lawful.effect member t.updated
    exact ⟨lawful.positive, names.effect effect, numbers.effect effect⟩
  · intro ⟨positive, namesLater, numbersLater⟩
    -- Another record of the chain is a sibling of the changed record in the later store.
    have beside : (store.revised change t).isLive = true → ∀ other,
        other ∈ (store.chain t.dataset t.column).filter (fun other => other.id != t.id) →
          (store.revised change t).IsSibling other ∧ store.revised change t ≠ other ∧
            other ∈ (store.put (store.revised change t)).entries := by
      intro live other inOthers
      obtain ⟨inChain, different⟩ := mem_others.1 inOthers
      obtain ⟨stored, sameDataset, sameColumn, otherLive⟩ := mem_chain.1 inChain
      refine ⟨⟨live, otherLive, sameDataset.symm, sameColumn.symm⟩, ?_, ?_⟩
      · intro same
        exact different (same ▸ rfl)
      · exact Keyed.mem_put.2 (Or.inr ⟨stored, different⟩)
    have present : store.revised change t ∈ (store.put (store.revised change t)).entries :=
      Keyed.mem_put.2 (Or.inl rfl)
    constructor
    · exact positive
    · intro awake other inOthers different function named same
      have live := ((awakes_eq_true (store.revised change t).sequence).1 awake).1
      obtain ⟨siblings, apart, stored⟩ := beside live other inOthers
      have labelled : (store.revised change t).functionName? = some function := named
      exact apart (namesLater _ present other stored siblings (by rw [labelled]; rfl)
        (labelled.trans same.symm))
    · exact requestedSequence_others bounded
    · intro given live other inOthers same
      obtain ⟨siblings, apart, stored⟩ := beside live other inOthers
      exact apart (numbersLater.distinct _ present other stored siblings rfl
        (congrArg some same.symm))

/-- The record of a change that passes the checks is the changed one. -/
theorem changed_others (bounded : store.IsBounded) {result : Transformation} :
    changed t change
        ((store.chain t.dataset t.column).filter fun other => other.id != t.id) = .ok result ↔
      Lawful t change ((store.chain t.dataset t.column).filter fun other => other.id != t.id)
        (store.revised change t).sequence ∧ result = store.revised change t := by
  rw [changed_eq_ok]
  constructor
  · rintro ⟨sequence, lawful, rfl⟩
    have number := lawful.number
    rw [requestedSequence_others bounded] at number
    cases number
    exact ⟨lawful, rfl⟩
  · rintro ⟨lawful, rfl⟩
    exact ⟨_, lawful, rfl⟩

/-! ## Changes of lawful stores -/

/-- The store after a change that is accepted: an empty change leaves no trace. -/
def afterChange (store : Store) (id : String) (change : Change) (now : Instant) : Store :=
  if change.isEmpty then store else (store.revise id change).stamp id now

/-- A change of a record in a lawful store. -/
theorem update_of_mem (names : store.HasUniqueNames) (numbers : store.HasUniqueNumbers)
    (bounded : store.IsBounded) (member : t ∈ store.entries) (change : Change) (now : Instant) :
    (store.Accepts t.id change ∧ ∃ result,
        (store.afterChange t.id change now).find? t.id = some result ∧
          store.update t.id change now = (.ok result, store.afterChange t.id change now)) ∨
      (¬ store.Accepts t.id change ∧
        ∃ fault, store.update t.id change now = (.error fault, store)) := by
  have inKeys : t.id ∈ store.keys := List.mem_map_of_mem member
  have found : store.require t.id = .ok t := require_eq_ok.2 ⟨member, rfl⟩
  simp only [update, found, checked, Accepts, afterChange]
  cases empty : change.isEmpty with
  | true =>
      left
      exact ⟨⟨inKeys, Or.inl rfl⟩, t, Keyed.find?_eq_some_iff.2 ⟨member, rfl⟩, rfl⟩
  | false =>
      simp only [Bool.false_eq_true, if_false, false_or]
      rw [← lawful_iff names numbers bounded member, stamp_revise_eq_put member]
      cases made : changed t change
        ((store.chain t.dataset t.column).filter fun other => other.id != t.id) with
      | ok result =>
          obtain ⟨lawful, rfl⟩ := (changed_others bounded).1 made
          left
          refine ⟨⟨inKeys, lawful⟩, _, ?_, rfl⟩
          rw [Keyed.find?_put]
          exact if_pos rfl
      | error fault =>
          right
          refine ⟨?_, fault, rfl⟩
          rintro ⟨-, lawful⟩
          rw [(changed_others bounded).2 ⟨lawful, rfl⟩] at made
          cases made

theorem update_of_not_mem {id : String} (absent : id ∉ store.keys) (change : Change)
    (now : Instant) :
    store.update id change now = (.error (.unknownTransformation id), store) := by
  have missing : store.find? id = none := by
    cases found : store.find? id with
    | none => rfl
    | some t =>
        obtain ⟨member, rfl⟩ := Keyed.find?_eq_some_iff.1 found
        exact absurd (List.mem_map_of_mem member) absent
  simp only [update, require, missing, checked]

/-- How a change of a lawful store ends. -/
theorem update_cases (names : store.HasUniqueNames) (numbers : store.HasUniqueNumbers)
    (bounded : store.IsBounded) (id : String) (change : Change) (now : Instant) :
    (store.Accepts id change ∧ ∃ result,
        (store.afterChange id change now).find? id = some result ∧
          store.update id change now = (.ok result, store.afterChange id change now)) ∨
      (¬ store.Accepts id change ∧
        ∃ fault, store.update id change now = (.error fault, store)) := by
  by_cases present : id ∈ store.keys
  · obtain ⟨t, member, rfl⟩ := List.mem_map.1 present
    exact update_of_mem names numbers bounded member change now
  · right
    exact ⟨fun accepted => present accepted.1, _, update_of_not_mem present change now⟩

/-- In a lawful store a change is accepted exactly where it leads to a lawful store again. An
accepted change puts the changed record, with the time of the change, in its place, and answers
with it; an empty change and one that is refused leave the store as it is. -/
theorem update_isOk_iff_accepts (names : store.HasUniqueNames)
    (numbers : store.HasUniqueNumbers) (bounded : store.IsBounded) (id : String)
    (change : Change) (now : Instant) :
    ((∃ t, (store.update id change now).1 = .ok t) ↔ store.Accepts id change) ∧
      (∀ t, (store.update id change now).1 = .ok t →
        (store.update id change now).2 = store.afterChange id change now ∧
          (store.update id change now).2.find? id = some t) ∧
      ∀ fault, (store.update id change now).1 = .error fault →
        (store.update id change now).2 = store := by
  rcases update_cases names numbers bounded id change now with
    ⟨accepted, result, found, updated⟩ | ⟨refused, fault, updated⟩
  · rw [updated]
    refine ⟨⟨fun _ => accepted, fun _ => ⟨result, rfl⟩⟩, ?_, ?_⟩
    · intro other answered
      cases answered
      exact ⟨rfl, found⟩
    · intro fault answered
      cases answered
  · rw [updated]
    refine ⟨⟨?_, fun accepted => absurd accepted refused⟩, ?_, fun _ _ => rfl⟩
    · intro ⟨other, answered⟩
      cases answered
    · intro other answered
      cases answered

/-- The sample with a draft whose number a live record has. -/
def drowsyStore : Store :=
  sampleStore.put (sampleRecord "e" "REVERSE(name)" .draft 7)

/-- A change that makes a record live and gives it no number. -/
def awakening : Change where
  status := some .active

/-- A draft that awakes goes behind the live records, and one whose name clashes stays a draft. -/
theorem update_isOk_iff_accepts_awakening :
    (drowsyStore.HasUniqueNames ∧ drowsyStore.HasUniqueNumbers ∧ drowsyStore.IsBounded) ∧
      ((∃ t, (drowsyStore.update "e" awakening default).1 = .ok t) ∧
        (drowsyStore.update "e" awakening default).2 =
          drowsyStore.afterChange "e" awakening default ∧
        (drowsyStore.afterChange "e" awakening default).entries.map Transformation.sequence =
          [1, 1, 7, 7, 8]) ∧
      ¬ ∃ t, (drowsyStore.update "b" awakening default).1 = .ok t := by
  have names : drowsyStore.HasUniqueNames := by decide
  have numbers : drowsyStore.HasUniqueNumbers := by decide
  have bounded : drowsyStore.IsBounded := by decide
  obtain ⟨awakes, effect, -⟩ :=
    update_isOk_iff_accepts names numbers bounded "e" awakening default
  obtain ⟨clashes, -, -⟩ := update_isOk_iff_accepts names numbers bounded "b" awakening default
  obtain ⟨t, answered⟩ := awakes.2 (by decide)
  exact ⟨⟨names, numbers, bounded⟩, ⟨⟨t, answered⟩, (effect t answered).1, by decide⟩,
    fun accepted => absurd (clashes.1 accepted) (by decide)⟩

end ColumnChain.Store
