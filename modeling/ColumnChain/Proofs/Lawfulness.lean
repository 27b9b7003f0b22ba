import ColumnChain.Proofs.Operations

/-!
# Lawful chains

Two invariants of stores that no sequence of calls breaks, whatever the calls are given
and however they end. Of the live records of a column no two start with the same function
name; and no two have the same number, also where the numbers run out. Drafts and deleted
records are not constrained, and become live only where nothing clashes.
-/

namespace ColumnChain

namespace Transformation

/-- Live records of one column. -/
def IsSibling (left right : Transformation) : Prop :=
  left.isLive = true ∧ right.isLive = true ∧ left.dataset = right.dataset ∧
    left.column = right.column

instance (left right : Transformation) : Decidable (left.IsSibling right) :=
  inferInstanceAs (Decidable (_ ∧ _))

theorem IsSibling.symm {left right : Transformation} (siblings : left.IsSibling right) :
    right.IsSibling left :=
  ⟨siblings.2.1, siblings.1, siblings.2.2.1.symm, siblings.2.2.2.symm⟩

end Transformation

namespace Store

universe u

variable {store : Store} {κ : Type u} {label : Transformation → Option κ}

/-- Live records of one column that have one label are one record. Records without a
label are not constrained. -/
def Separates (store : Store) (label : Transformation → Option κ) : Prop :=
  ∀ left ∈ store.entries, ∀ right ∈ store.entries, left.IsSibling right →
    (label left).isSome = true → label left = label right → left = right

instance [DecidableEq κ] : Decidable (store.Separates label) :=
  inferInstanceAs (Decidable (∀ left ∈ store.entries, _))

/-- A sibling in the store is in the chain. -/
theorem mem_chain_of_isSibling {t other : Transformation} (member : other ∈ store.entries)
    (siblings : other.IsSibling t) : other ∈ store.chain t.dataset t.column :=
  mem_chain.2 ⟨member, siblings.2.2.1, siblings.2.2.2, siblings.1⟩

namespace Separates

/-- Putting a record keeps labels apart if no other sibling of the record has its label. -/
theorem put (separates : store.Separates label) {t : Transformation}
    (apart : ∀ other ∈ store.entries, other.IsSibling t → other.id ≠ t.id →
      (label t).isSome = true → label other ≠ label t) :
    Separates (store.put t) label := by
  intro left leftMember right rightMember siblings labelled equal
  rcases Keyed.mem_put.1 leftMember with rfl | ⟨leftOld, leftDifferent⟩
  · rcases Keyed.mem_put.1 rightMember with rfl | ⟨rightOld, rightDifferent⟩
    · rfl
    · exact absurd equal.symm (apart right rightOld siblings.symm rightDifferent labelled)
  · rcases Keyed.mem_put.1 rightMember with rfl | ⟨rightOld, rightDifferent⟩
    · rw [equal] at labelled
      exact absurd equal (apart left leftOld siblings leftDifferent labelled)
    · exact separates left leftOld right rightOld siblings labelled equal

/-- A later form of a live record takes over its label. -/
theorem put_revision (separates : store.Separates label) {t earlier : Transformation}
    (member : earlier ∈ store.entries) (live : earlier.isLive = true)
    (revises : t.Revises earlier) (sameLabel : label t = label earlier) :
    Separates (store.put t) label := by
  apply separates.put
  intro other otherMember siblings different labelled equal
  have siblingsEarlier : earlier.IsSibling other :=
    ⟨live, siblings.1, revises.dataset.symm.trans siblings.2.2.1.symm,
      revises.column.symm.trans siblings.2.2.2.symm⟩
  rw [sameLabel] at labelled
  have same := separates earlier member other otherMember siblingsEarlier labelled
    (sameLabel.symm.trans equal.symm)
  rw [← same, revises.id] at different
  exact different rfl

/-- Labels stay apart where every live record is a form of a live record that was there,
with its label. -/
theorem of_revisions (separates : store.Separates label) {later : Store}
    (origin : ∀ t ∈ later.entries, t.isLive = true → ∃ earlier ∈ store.entries,
      earlier.isLive = true ∧ t.Revises earlier ∧ label t = label earlier) :
    later.Separates label := by
  intro left leftMember right rightMember siblings labelled equal
  obtain ⟨oldLeft, oldLeftMember, oldLeftLive, leftRevises, leftLabel⟩ :=
    origin left leftMember siblings.1
  obtain ⟨oldRight, oldRightMember, oldRightLive, rightRevises, rightLabel⟩ :=
    origin right rightMember siblings.2.1
  have oldSiblings : oldLeft.IsSibling oldRight := by
    refine ⟨oldLeftLive, oldRightLive, ?_, ?_⟩
    · rw [← leftRevises.dataset, ← rightRevises.dataset, siblings.2.2.1]
    · rw [← leftRevises.column, ← rightRevises.column, siblings.2.2.2]
  rw [leftLabel] at labelled
  have same := separates oldLeft oldLeftMember oldRight oldRightMember oldSiblings labelled
    (leftLabel.symm.trans (equal.trans rightLabel))
  apply later.eq_of_key_eq leftMember rightMember
  rw [leftRevises.id, rightRevises.id, same]

end Separates

/-! ## Records after a chain was put in order -/

section Ordered

variable {dataset column : String} {now : Instant} {ordered : List Transformation}

/-- The records that get a number. -/
def renumbered (now : Instant) (ordered : List Transformation) : List Transformation :=
  (numbered now 1 ordered).take (UInt32.size - 1)

theorem nodup_of_complete (complete : ordered.Perm (store.chain dataset column)) :
    (ordered.map Transformation.id).Nodup :=
  (complete.map Transformation.id).nodup_iff.2 (store.distinct_chain dataset column)

/-- The records of an order are in the store already, under their ids. -/
theorem keys_withOrder (complete : ordered.Perm (store.chain dataset column)) :
    (store.withOrder now ordered).keys = store.keys := by
  apply Keyed.keys_foldl_put_of_present
  intro t member
  obtain ⟨index, earlier, -, there, rfl⟩ := exists_of_mem_numbered (List.mem_of_mem_take member)
  rw [(renumber_revises _ now earlier).id]
  exact List.mem_map_of_mem (mem_chain.1 (complete.subset (List.mem_of_getElem? there))).1

theorem mem_withOrder (complete : ordered.Perm (store.chain dataset column))
    {t : Transformation} :
    t ∈ (store.withOrder now ordered).entries ↔
      t ∈ renumbered now ordered ∨
        (t ∈ store.entries ∧ t.id ∉ (renumbered now ordered).map Transformation.id) := by
  apply Keyed.mem_foldl_put
  have distinct := nodup_of_complete complete
  rw [← map_id_numbered now 1 ordered] at distinct
  exact distinct.sublist ((List.take_sublist _ _).map Transformation.id)

/-- Where the numbers do not run out, all records get one. -/
theorem renumbered_of_short (short : ordered.length < UInt32.size) :
    renumbered now ordered = numbered now 1 ordered := by
  apply List.take_of_length_le
  rw [length_numbered]
  omega

theorem mem_withOrder_of_short (complete : ordered.Perm (store.chain dataset column))
    (short : ordered.length < UInt32.size) {t : Transformation} :
    t ∈ (store.withOrder now ordered).entries ↔
      t ∈ numbered now 1 ordered ∨
        (t ∈ store.entries ∧ t.id ∉ ordered.map Transformation.id) := by
  rw [mem_withOrder complete, renumbered_of_short short, map_id_numbered]

/-- Every record is a form of a record that was there, live if that one was. -/
theorem exists_origin_of_mem_withOrder (complete : ordered.Perm (store.chain dataset column))
    {t : Transformation} (member : t ∈ (store.withOrder now ordered).entries) :
    ∃ earlier ∈ store.entries, earlier.isLive = t.isLive ∧ t.Revises earlier := by
  rcases (mem_withOrder complete).1 member with moved | ⟨old, -⟩
  · obtain ⟨index, earlier, -, there, rfl⟩ :=
      exists_of_mem_numbered (List.mem_of_mem_take moved)
    have inChain := complete.subset (List.mem_of_getElem? there)
    exact ⟨earlier, (mem_chain.1 inChain).1, (renumber_isLive _ now earlier).symm,
      renumber_revises _ now earlier⟩
  · exact ⟨t, old, rfl, .refl t⟩

end Ordered

/-! ## Function names -/

/-- No two live records of a column start with the same function name. -/
def HasUniqueNames (store : Store) : Prop :=
  store.Separates Transformation.functionName?

instance : Decidable store.HasUniqueNames :=
  inferInstanceAs (Decidable (store.Separates Transformation.functionName?))

theorem HasUniqueNames.effect {later : Store} (unique : store.HasUniqueNames)
    (effect : Effect store later) : later.HasUniqueNames := by
  cases effect with
  | unchanged => exact unique
  | put t name number =>
      cases live : t.isLive with
      | false =>
          apply Separates.put unique
          intro other _ siblings
          exact absurd siblings.2.1 (by simp [live])
      | true =>
          cases name live with
          | free alone =>
              apply Separates.put unique
              intro other member siblings different named equal
              obtain ⟨function, isName⟩ := Option.isSome_iff_exists.1 named
              exact alone other (mem_chain_of_isSibling member siblings) different function
                isName (equal.trans isName)
          | kept earlier member earlierLive revises =>
              exact Separates.put_revision unique member earlierLive revises
                revises.functionName?
  | reordered dataset column now ordered complete =>
      apply Separates.of_revisions unique
      intro t member live
      obtain ⟨earlier, earlierMember, sameLive, revises⟩ :=
        exists_origin_of_mem_withOrder complete member
      exact ⟨earlier, earlierMember, sameLive.trans live, revises, revises.functionName?⟩
  | removed _ kept =>
      apply Separates.of_revisions unique
      intro t member live
      exact ⟨t, kept t member, live, .refl t, rfl⟩

/-- Function names stay unique on every column, after every call. -/
theorem hasUniqueNames_of_mem_history {calls : List Operation}
    (unique : store.HasUniqueNames) :
    ∀ reached ∈ store.history calls, reached.HasUniqueNames :=
  forall_mem_history HasUniqueNames
    (fun store call unique => unique.effect (effect_perform store call)) unique

/-- A record of the column `name`, for examples. -/
def sampleRecord (id expression : String) (status : Status) (sequence : UInt32) :
    Transformation where
  id
  dataset := "people"
  column := "name"
  expression
  category := Category.ofExpression expression
  status
  sequence
  created := default
  output := .overwrite
  updated := none

/-- A chain of two records, and beside it a draft and a deleted record that clash with it
in name and number. -/
def sampleStore : Store where
  entries := [
    sampleRecord "a" "TRIM(name)" .active 1,
    sampleRecord "b" "trim(name)" .draft 1,
    sampleRecord "c" "UPPERCASE(name)" .applied 7,
    sampleRecord "d" "uppercase" .deleted 7]
  distinct := by decide

/-- Calls that make every kind of change, some of which are refused. -/
def sampleCalls : List Operation :=
  [ .update "b" { status := some .active } default,
    .reorder "people" "name" ["c", "a"] default,
    .delete "a" .soft default,
    .update "b" { status := some .applied, sequence := some 1 } default,
    .update "b" { status := some .active } default,
    .create { dataset := "people", column := "name", expression := "Trim(name)" } "e" default,
    .delete "c" .hard default,
    .update "d" { status := some .active } default,
    .cleanup "people" ]

/-- Names stay unique in the sample, whose records clash only while they are not live. -/
theorem hasUniqueNames_of_mem_sample_history :
    sampleStore.HasUniqueNames ∧
      ∀ reached ∈ sampleStore.history sampleCalls, reached.HasUniqueNames :=
  ⟨by decide, hasUniqueNames_of_mem_history (by decide)⟩

/-! ## Numbers -/

/-- The live records of a column have different numbers, none of them zero. -/
structure HasUniqueNumbers (store : Store) : Prop where
  positive : ∀ t ∈ store.entries, t.isLive = true → t.sequence ≠ 0
  distinct : store.Separates fun t => some t.sequence

instance : Decidable store.HasUniqueNumbers :=
  decidable_of_iff
    ((∀ t ∈ store.entries, t.isLive = true → t.sequence ≠ 0) ∧
      store.Separates fun t => some t.sequence)
    ⟨fun unique => ⟨unique.1, unique.2⟩, fun unique => ⟨unique.positive, unique.distinct⟩⟩

/-- No live record has the last number. -/
def IsBounded (store : Store) : Prop :=
  ∀ t ∈ store.entries, t.isLive = true → t.sequence ≠ lastSequence

instance : Decidable store.IsBounded :=
  inferInstanceAs (Decidable (∀ t ∈ store.entries, _))

theorem IsBounded.chain (bounded : store.IsBounded) (dataset column : String) :
    ∀ t ∈ store.chain dataset column, t.sequence ≠ lastSequence := by
  intro t member
  obtain ⟨inStore, -, -, live⟩ := mem_chain.1 member
  exact bounded t inStore live

/-- Putting a live record keeps numbers unique, wherever its number comes from. -/
theorem HasUniqueNumbers.put (unique : store.HasUniqueNumbers) {t : Transformation}
    (number : t.isLive = true → NumberSource store t) :
    HasUniqueNumbers (store.put t) := by
  have positive : t.isLive = true → t.sequence ≠ 0 := by
    intro live
    cases number live with
    | next others within complete follows =>
        exact UInt32.pos_iff_ne_zero.1 (pos_of_nextSequence follows)
    | free positive => exact positive
    | kept earlier member earlierLive revises equal =>
        rw [equal]
        exact unique.positive earlier member earlierLive
  constructor
  · intro other member live
    rcases Keyed.mem_put.1 member with rfl | ⟨old, -⟩
    · exact positive live
    · exact unique.positive other old live
  · cases live : t.isLive with
    | false =>
        apply unique.distinct.put
        intro other _ siblings
        exact absurd siblings.2.1 (by simp [live])
    | true =>
        cases number live with
        | next others within complete follows =>
            apply unique.distinct.put
            intro other member siblings different _ same
            have listed := complete other (mem_chain_of_isSibling member siblings) different
            have smaller := sequence_lt_of_nextSequence follows listed
            rw [Option.some.inj same] at smaller
            exact UInt32.lt_irrefl _ smaller
        | free _ apart =>
            apply unique.distinct.put
            intro other member siblings different _ same
            exact apart other (mem_chain_of_isSibling member siblings) different
              (Option.some.inj same)
        | kept earlier member earlierLive revises equal =>
            exact unique.distinct.put_revision member earlierLive revises
              (congrArg some equal)

/-- There are fewer records in a chain than numbers. -/
theorem HasUniqueNumbers.length_chain_lt (unique : store.HasUniqueNumbers)
    (dataset column : String) : (store.chain dataset column).length < UInt32.size := by
  have distinct : ((store.chain dataset column).map fun t => t.sequence.toNat).Nodup := by
    refine List.Nodup.map_on ?_ (store.distinct_chain dataset column).of_map
    intro left leftMember right rightMember equal
    obtain ⟨leftStored, leftDataset, leftColumn, leftLive⟩ := mem_chain.1 leftMember
    obtain ⟨rightStored, rightDataset, rightColumn, rightLive⟩ := mem_chain.1 rightMember
    exact unique.distinct left leftStored right rightStored
      ⟨leftLive, rightLive, leftDataset.trans rightDataset.symm,
        leftColumn.trans rightColumn.symm⟩
      rfl (congrArg some (UInt32.toNat_inj.1 equal))
  -- Zero and the numbers of the chain are all different, and below the size.
  have withZero : (0 :: (store.chain dataset column).map fun t => t.sequence.toNat).Nodup := by
    refine List.nodup_cons.2 ⟨?_, distinct⟩
    intro member
    obtain ⟨t, inChain, zero⟩ := List.mem_map.1 member
    obtain ⟨stored, -, -, live⟩ := mem_chain.1 inChain
    exact unique.positive t stored live (UInt32.toNat_inj.1 zero)
  have within : (0 :: (store.chain dataset column).map fun t => t.sequence.toNat) ⊆
      List.range UInt32.size := by
    intro number member
    rw [List.mem_range]
    rcases List.mem_cons.1 member with rfl | member
    · decide
    · obtain ⟨t, -, rfl⟩ := List.mem_map.1 member
      exact t.sequence.toNat_lt
  have shorter := (List.subperm_of_subset withZero within).length_le
  simp only [List.length_cons, List.length_map, List.length_range] at shorter
  omega

/-- Records at different places of a numbered list have different numbers, none of them
zero, as far as the numbers go. -/
theorem toNat_sequence_of_getElem?_numbered {now : Instant} {ordered : List Transformation}
    {index : Nat} {t : Transformation} (short : ordered.length < UInt32.size)
    (here : (numbered now 1 ordered)[index]? = some t) :
    t.sequence.toNat = index + 1 := by
  have origin := getElem?_numbered now 1 ordered index
  rw [here] at origin
  obtain ⟨earlier, there, rfl⟩ := Option.map_eq_some_iff.1 origin.symm
  have inside : index < ordered.length := (List.getElem?_eq_some_iff.1 there).1
  rw [renumber_sequence, UInt32.toNat_ofNat_of_lt' (by omega), Nat.add_comm]

theorem HasUniqueNumbers.withOrder (unique : store.HasUniqueNumbers)
    {dataset column : String} {now : Instant} {ordered : List Transformation}
    (complete : ordered.Perm (store.chain dataset column)) :
    (store.withOrder now ordered).HasUniqueNumbers := by
  have short : ordered.length < UInt32.size := by
    rw [complete.length_eq]
    exact unique.length_chain_lt dataset column
  have mem_iff {t : Transformation} : t ∈ (store.withOrder now ordered).entries ↔ _ :=
    mem_withOrder_of_short complete short
  -- A live record of the column that is not renumbered is not there: the order names all.
  have apart : ∀ moved ∈ numbered now 1 ordered, ∀ stayed ∈ store.entries,
      stayed.id ∉ ordered.map Transformation.id → ¬ moved.IsSibling stayed := by
    intro moved movedMember stayed stayedMember outside siblings
    obtain ⟨index, earlier, -, there, rfl⟩ := exists_of_mem_numbered movedMember
    have revises := renumber_revises (UInt32.ofNat (1 + index)) now earlier
    have inChain := mem_chain.1 (complete.subset (List.mem_of_getElem? there))
    have stayedInChain : stayed ∈ store.chain dataset column := by
      refine mem_chain.2 ⟨stayedMember, ?_, ?_, siblings.2.1⟩
      · rw [← siblings.2.2.1, revises.dataset, inChain.2.1]
      · rw [← siblings.2.2.2, revises.column, inChain.2.2.1]
    exact outside (List.mem_map_of_mem (complete.symm.subset stayedInChain))
  constructor
  · intro t member live
    rcases mem_iff.1 member with moved | ⟨stayed, -⟩
    · obtain ⟨index, -, here, -, -⟩ := exists_of_mem_numbered moved
      have number := toNat_sequence_of_getElem?_numbered short here
      intro zero
      rw [zero] at number
      simp at number
    · exact unique.positive t stayed live
  · intro left leftMember right rightMember siblings labelled equal
    -- Siblings are both renumbered, so that their places differ, or both as they were.
    rcases mem_iff.1 leftMember with leftMoved | ⟨leftStayed, leftOutside⟩
    · rcases mem_iff.1 rightMember with rightMoved | ⟨rightStayed, rightOutside⟩
      · obtain ⟨leftIndex, -, leftHere, -, -⟩ := exists_of_mem_numbered leftMoved
        obtain ⟨rightIndex, -, rightHere, -, -⟩ := exists_of_mem_numbered rightMoved
        have leftNumber := toNat_sequence_of_getElem?_numbered short leftHere
        have rightNumber := toNat_sequence_of_getElem?_numbered short rightHere
        have sameIndex : leftIndex = rightIndex := by
          rw [Option.some.inj equal, rightNumber] at leftNumber
          omega
        rw [sameIndex, rightHere] at leftHere
        exact (Option.some.inj leftHere).symm
      · exact absurd siblings (apart left leftMoved right rightStayed rightOutside)
    · rcases mem_iff.1 rightMember with rightMoved | ⟨rightStayed, -⟩
      · exact absurd siblings.symm (apart right rightMoved left leftStayed leftOutside)
      · exact unique.distinct left leftStayed right rightStayed siblings labelled equal

theorem HasUniqueNumbers.effect {later : Store} (unique : store.HasUniqueNumbers)
    (effect : Effect store later) : later.HasUniqueNumbers := by
  cases effect with
  | unchanged => exact unique
  | put t name number => exact unique.put number
  | reordered dataset column now ordered complete => exact unique.withOrder complete
  | removed _ kept =>
      constructor
      · intro t member live
        exact unique.positive t (kept t member) live
      · apply unique.distinct.of_revisions
        intro t member live
        exact ⟨t, kept t member, live, .refl t, rfl⟩

/-- Numbers stay unique and positive on every column, after every call. -/
theorem hasUniqueNumbers_of_mem_history {calls : List Operation}
    (unique : store.HasUniqueNumbers) :
    ∀ reached ∈ store.history calls, reached.HasUniqueNumbers :=
  forall_mem_history HasUniqueNumbers
    (fun store call unique => unique.effect (effect_perform store call)) unique

/-- Calls after which a draft is live in the place of the record whose number it has, and
another record has the last number, so that no further record gets one. -/
def sampleSuccession : List Operation :=
  [ .delete "a" .soft default,
    .update "b" { status := some .active } default,
    .update "c" { sequence := some lastSequence } default,
    .create { dataset := "people", column := "name", expression := "LEFT(name, 1)" } "e"
      default ]

theorem hasUniqueNumbers_of_mem_sample_succession :
    sampleStore.HasUniqueNumbers ∧
      ∀ reached ∈ sampleStore.history sampleSuccession, reached.HasUniqueNumbers :=
  ⟨by decide, hasUniqueNumbers_of_mem_history (by decide)⟩

end Store
end ColumnChain
