import ColumnChain.Proofs.Codec
import ColumnChain.Proofs.Handling

/-!
# The extent of JSON texts

A text holds no longer lists than it has characters for. A body that the service reads
is not so long that it could list more ids than there are numbers.
-/

namespace ColumnChain

/-- A text has no more characters than bytes. -/
theorem Text.length_le (text : String) : text.toList.length ≤ text.utf8ByteSize := by
  have each (characters : List Char) :
      characters.length ≤ (String.ofList characters).utf8ByteSize := by
    induction characters with
    | nil => simp
    | cons c characters ih =>
        have positive := c.utf8Size_pos
        have whole : String.ofList (c :: characters) =
            String.singleton c ++ String.ofList characters := by
          rw [← String.toList_inj]
          simp
        rw [List.length_cons, whole, String.utf8ByteSize_append, String.utf8ByteSize_singleton]
        omega
  simpa using each text.toList

namespace Json

/-- A value whose lists have at most so many items. -/
inductive IsNarrow (bound : Nat) : Json → Prop where
  | list {items : List Json} (short : items.length ≤ bound)
      (all : ∀ item ∈ items, IsNarrow bound item) : IsNarrow bound (.list items)
  | object {members : List (String × Json)}
      (all : ∀ member ∈ members, IsNarrow bound member.2) : IsNarrow bound (.object members)
  | other {value : Json} (noList : ∀ items, value ≠ .list items)
      (noObject : ∀ members, value ≠ .object members) : IsNarrow bound value

theorem IsNarrow.mono {bound wider : Nat} {value : Json} (narrow : IsNarrow bound value)
    (within : bound ≤ wider) : IsNarrow wider value := by
  induction narrow with
  | list short all ih => exact .list (short.trans within) ih
  | object all ih => exact .object ih
  | other noList noObject => exact .other noList noObject

/-- The values in an open container are narrow, and there are not too many. -/
def Frame.IsNarrow (bound : Nat) : Frame → Prop
  | .list items => items.length ≤ bound ∧ ∀ item ∈ items, item.IsNarrow bound
  | .object members _ => ∀ member ∈ members, member.2.IsNarrow bound

namespace Frame

variable {bound wider : Nat} {frame : Frame} {value : Json}

theorem IsNarrow.mono (narrow : frame.IsNarrow bound) (within : bound ≤ wider) :
    frame.IsNarrow wider := by
  cases frame with
  | list items =>
      exact ⟨narrow.1.trans within, fun item member => (narrow.2 item member).mono within⟩
  | object members key => exact fun member inside => (narrow member inside).mono within

theorem IsNarrow.add (narrow : frame.IsNarrow bound) (narrowValue : value.IsNarrow (bound + 1)) :
    (frame.add value).IsNarrow (bound + 1) := by
  cases frame with
  | list items =>
      refine ⟨Nat.succ_le_succ narrow.1, ?_⟩
      rintro item (_ | ⟨_, member⟩)
      · exact narrowValue
      · exact (narrow.2 item member).mono (Nat.le_succ bound)
  | object members key =>
      rintro member (_ | ⟨_, inside⟩)
      · exact narrowValue
      · exact (narrow member inside).mono (Nat.le_succ bound)

theorem IsNarrow.close (narrow : frame.IsNarrow bound) : frame.close.IsNarrow bound := by
  cases frame with
  | list items =>
      exact .list (by simpa using narrow.1) fun item member =>
        narrow.2 item (List.mem_reverse.1 member)
  | object members key =>
      exact .object fun member inside => narrow member (List.mem_reverse.1 inside)

end Frame

namespace Reader

/-- Everything that has been read is narrow. -/
def IsNarrow (bound : Nat) : Reader → Prop
  | reading stack (.word _ value) =>
      (∀ frame ∈ stack, frame.IsNarrow bound) ∧ value.IsNarrow bound
  | reading stack _ => ∀ frame ∈ stack, frame.IsNarrow bound
  | complete value _ => value.IsNarrow bound

variable {bound : Nat} {stack : List Frame} {value : Json}

theorem forall_mono {wider : Nat} (narrow : ∀ frame ∈ stack, frame.IsNarrow bound)
    (within : bound ≤ wider) : ∀ frame ∈ stack, frame.IsNarrow wider :=
  fun frame member => (narrow frame member).mono within

theorem IsNarrow.mono {wider : Nat} {reader : Reader} (narrow : reader.IsNarrow bound)
    (within : bound ≤ wider) : reader.IsNarrow wider := by
  cases reader with
  | complete value trailing => exact Json.IsNarrow.mono narrow within
  | reading stack scan =>
      cases scan with
      | word rest value => exact ⟨forall_mono narrow.1 within, narrow.2.mono within⟩
      | _ => exact forall_mono narrow within

theorem IsNarrow.frames {scan : Scan} (narrow : (reading stack scan).IsNarrow bound) :
    ∀ frame ∈ stack, frame.IsNarrow bound := by
  cases scan with
  | word rest value => exact narrow.1
  | _ => exact narrow

theorem isNarrow_closeAll (narrow : ∀ frame ∈ stack, frame.IsNarrow bound)
    (narrowValue : value.IsNarrow (bound + 1)) : (closeAll value stack).IsNarrow (bound + 1) := by
  induction stack generalizing value with
  | nil => exact narrowValue
  | cons frame stack ih =>
      rw [List.forall_mem_cons] at narrow
      exact ih narrow.2 (narrow.1.add narrowValue).close

theorem isNarrow_fail (narrow : ∀ frame ∈ stack, frame.IsNarrow bound) :
    (fail stack).IsNarrow (bound + 1) :=
  isNarrow_closeAll narrow (.other (fun _ => Json.noConfusion) fun _ => Json.noConfusion)

theorem isNarrow_push (narrow : ∀ frame ∈ stack, frame.IsNarrow bound)
    (narrowValue : value.IsNarrow (bound + 1)) : (push value stack).IsNarrow (bound + 1) := by
  cases stack with
  | nil => exact narrowValue
  | cons frame stack =>
      rw [List.forall_mem_cons] at narrow
      refine List.forall_mem_cons.2 ⟨narrow.1.add narrowValue, fun other member => ?_⟩
      exact (narrow.2 other member).mono (Nat.le_succ bound)

theorem isNarrow_pop (narrow : ∀ frame ∈ stack, frame.IsNarrow bound) :
    (pop stack).IsNarrow (bound + 1) := by
  cases stack with
  | nil => exact isNarrow_fail narrow
  | cons frame stack =>
      rw [List.forall_mem_cons] at narrow
      exact isNarrow_push narrow.2 (narrow.1.close.mono (Nat.le_succ bound))

theorem isNarrow_stepAfter (narrow : ∀ frame ∈ stack, frame.IsNarrow bound) (c : Char) :
    (stepAfter stack c).IsNarrow (bound + 1) := by
  have wider := forall_mono narrow (Nat.le_succ bound)
  simp only [stepAfter]
  split
  next => exact wider
  next =>
    split
    next => exact wider
    next => exact isNarrow_pop narrow
    next => exact wider
    next => exact isNarrow_pop narrow
    next => exact isNarrow_fail narrow

theorem isNarrow_pushThen (narrow : ∀ frame ∈ stack, frame.IsNarrow bound)
    (narrowValue : value.IsNarrow (bound + 1)) (c : Char) :
    (pushThen value stack c).IsNarrow (bound + 2) := by
  simp only [pushThen]
  split
  next => exact narrowValue.mono (Nat.le_succ _)
  next frame below =>
    rw [List.forall_mem_cons] at narrow
    exact isNarrow_stepAfter (List.forall_mem_cons.2 ⟨narrow.1.add narrowValue,
      forall_mono narrow.2 (Nat.le_succ bound)⟩) c

theorem isNarrow_startValue (narrow : ∀ frame ∈ stack, frame.IsNarrow bound) (c : Char) :
    (startValue stack c).IsNarrow (bound + 1) := by
  have wider := forall_mono narrow (Nat.le_succ bound)
  have plain {value : Json} (noList : ∀ items, value ≠ .list items)
      (noObject : ∀ members, value ≠ .object members) : value.IsNarrow (bound + 1) :=
    .other noList noObject
  simp only [startValue]
  split
  next => exact List.forall_mem_cons.2 ⟨by simp [Frame.IsNarrow], wider⟩
  next => exact List.forall_mem_cons.2 ⟨by simp [Frame.IsNarrow], wider⟩
  next => exact wider
  next => exact ⟨wider, plain (by simp) (by simp)⟩
  next => exact ⟨wider, plain (by simp) (by simp)⟩
  next => exact ⟨wider, plain (by simp) (by simp)⟩
  next => exact wider
  next => exact wider
  next =>
    split
    next => exact wider
    next => exact isNarrow_fail narrow

theorem isNarrow_number (literal : NumberText) : literal.value.IsNarrow bound := by
  simp only [NumberText.value]
  repeat' split
  all_goals exact .other (by simp) (by simp)

theorem isNarrow_quotedValue (scanned : Quoted) : scanned.value.IsNarrow bound := by
  simp only [Quoted.value]
  split
  next => exact .other (by simp) (by simp)
  next => exact .other (by simp) (by simp)

theorem isNarrow_stepNumber (narrow : ∀ frame ∈ stack, frame.IsNarrow bound)
    (part : NumberPart) (literal : NumberText) (c : Char) :
    (stepNumber stack part literal c).IsNarrow (bound + 2) := by
  have wider := forall_mono narrow (Nat.le_add_right bound 2)
  have fails := isNarrow_fail (forall_mono narrow (Nat.le_succ bound))
  have finishes := isNarrow_pushThen narrow (isNarrow_number (inOrder literal)) c
  simp only [stepNumber]
  repeat' split
  all_goals first | exact wider | exact fails | exact finishes

theorem isNarrow_stepQuoted (narrow : ∀ frame ∈ stack, frame.IsNarrow bound)
    (isKey : Bool) (scanned : Quoted) (c : Char) :
    (stepQuoted stack isKey scanned c).IsNarrow (bound + 1) := by
  have wider := forall_mono narrow (Nat.le_succ bound)
  have fails := isNarrow_fail narrow
  have finishes : (finishQuoted stack isKey scanned).IsNarrow (bound + 1) := by
    simp only [finishQuoted]
    split
    next =>
      split
      next =>
        rw [List.forall_mem_cons] at wider
        exact List.forall_mem_cons.2 wider
      next => exact fails
    next => exact isNarrow_push narrow (isNarrow_quotedValue scanned)
  simp only [stepQuoted]
  repeat' split
  all_goals first | exact wider | exact fails | exact finishes

theorem isNarrow_stepKey (narrow : ∀ frame ∈ stack, frame.IsNarrow bound) (c : Char) :
    (stepKey stack c).IsNarrow (bound + 1) := by
  have wider := forall_mono narrow (Nat.le_succ bound)
  have fails := isNarrow_fail narrow
  simp only [stepKey]
  repeat' split
  all_goals first | exact wider | exact fails

/-- Reading a character adds two items at most: one that ends before the character, and
one for it. -/
theorem isNarrow_step {reader : Reader} (narrow : reader.IsNarrow bound) (c : Char) :
    (reader.step c).IsNarrow (bound + 2) := by
  have within : bound + 1 ≤ bound + 2 := Nat.le_succ (bound + 1)
  have stays := narrow.mono (Nat.le_add_right bound 2)
  cases reader with
  | complete value trailing => exact stays
  | reading stack scan =>
      cases scan with
      | word rest value =>
          cases rest with
          | nil => exact isNarrow_pushThen narrow.1 (narrow.2.mono (Nat.le_succ bound)) c
          | cons expected rest =>
              simp only [step]
              split
              next =>
                split
                next =>
                  exact (isNarrow_push narrow.1 (narrow.2.mono (Nat.le_succ bound))).mono within
                next => exact stays
              next => exact (isNarrow_fail narrow.1).mono within
      | number part literal => exact isNarrow_stepNumber narrow part literal c
      | quoted isKey scanned => exact (isNarrow_stepQuoted narrow isKey scanned c).mono within
      | after => exact (isNarrow_stepAfter narrow c).mono within
      | key => exact (isNarrow_stepKey narrow c).mono within
      | value =>
          simp only [step]
          split
          next => exact stays
          next => exact (isNarrow_startValue narrow c).mono within
      | colon =>
          simp only [step]
          split
          next => exact stays
          next =>
            split
            next => exact stays
            next => exact (isNarrow_fail narrow).mono within
      | firstItem =>
          simp only [step]
          split
          next => exact stays
          next =>
            split
            next => exact (isNarrow_pop narrow).mono within
            next => exact (isNarrow_startValue narrow c).mono within
      | firstKey =>
          simp only [step]
          split
          next => exact stays
          next =>
            split
            next => exact (isNarrow_pop narrow).mono within
            next => exact (isNarrow_stepKey narrow c).mono within

theorem isNarrow_foldl {reader : Reader} (narrow : reader.IsNarrow bound)
    (characters : List Char) :
    (characters.foldl step reader).IsNarrow (bound + 2 * characters.length) := by
  induction characters generalizing bound reader with
  | nil => exact narrow
  | cons c characters ih =>
      have rest := ih (isNarrow_step narrow c)
      rwa [Nat.add_assoc, Nat.add_comm 2, ← Nat.mul_succ] at rest

theorem isNarrow_finish {reader : Reader} (narrow : reader.IsNarrow bound) :
    reader.finish.1.IsNarrow (bound + 2) := by
  have ended : reader.endNumber.IsNarrow (bound + 1) := by
    have stays := narrow.mono (Nat.le_succ bound)
    simp only [endNumber]
    split
    next =>
      split
      next => exact isNarrow_push narrow (isNarrow_number _)
      next => exact isNarrow_fail narrow
    next => exact stays
  simp only [finish]
  split
  next value trailing same =>
    rw [same] at ended
    exact Json.IsNarrow.mono ended (Nat.le_succ _)
  next stack scan same =>
    rw [same] at ended
    exact isNarrow_closeAll (IsNarrow.frames ended) (.other (by simp) (by simp))

end Reader

/-- What is read from a text is narrow. -/
theorem isNarrow_read (characters : List Char) :
    (read characters).1.IsNarrow (2 * characters.length + 2) := by
  have start : (Reader.reading [] .value).IsNarrow 0 := List.forall_mem_nil _
  have finished := Reader.isNarrow_finish (Reader.isNarrow_foldl start characters)
  rwa [Nat.zero_add] at finished

/-! ## Lists that are understood -/

theorem mem_of_pickMembers {fields : List Field} {members picked : List (String × Json)}
    {seen : List String} (read : pickMembers fields seen members = .ok picked) :
    ∀ member ∈ picked, member ∈ members := by
  induction members generalizing seen picked with
  | nil =>
      cases read
      simp
  | cons member members ih =>
      obtain ⟨key, value⟩ := member
      simp only [pickMembers] at read
      split at read
      next =>
        split at read
        next => cases read
        next => exact fun other inside => List.mem_cons_of_mem _ (ih read other inside)
      next =>
        split at read
        next => cases read
        next =>
          obtain ⟨-, -, read⟩ := Store.bind_eq_ok.1 read
          obtain ⟨rest, readRest, read⟩ := Store.bind_eq_ok.1 read
          cases read
          rintro other (_ | ⟨_, inside⟩)
          · exact List.mem_cons_self
          · exact List.mem_cons_of_mem _ (ih readRest other inside)

theorem mem_of_pickItems {excess : Misfit} {fields : List Field} {items : List Json}
    {picked : Fields} (read : pickItems excess fields items = .ok picked) :
    ∀ member ∈ picked, member.2 ∈ items := by
  induction fields generalizing items picked with
  | nil =>
      cases items with
      | nil =>
          cases read
          simp
      | cons item items => cases read
  | cons field fields ih =>
      cases items with
      | nil =>
          simp only [pickItems] at read
          split at read
          next => exact ih read
          next => cases read
      | cons item items =>
          obtain ⟨-, -, read⟩ := Store.bind_eq_ok.1 read
          obtain ⟨rest, readRest, read⟩ := Store.bind_eq_ok.1 read
          cases read
          rintro other (_ | ⟨_, inside⟩)
          · exact List.mem_cons_self
          · exact List.mem_cons_of_mem _ (ih readRest other inside)

/-- The fields of a narrow record are narrow. -/
theorem isNarrow_of_asRecord {bound : Nat} {fields : List Field} {value : Json}
    {picked : Fields} (narrow : value.IsNarrow bound)
    (read : asRecord fields value = .ok picked) :
    ∀ member ∈ picked, member.2.IsNarrow bound := by
  cases narrow with
  | list short all => exact fun member inside => all _ (mem_of_pickItems read member inside)
  | object all => exact fun member inside => all _ (mem_of_pickMembers read member inside)
  | other noList noObject =>
      rw [asRecord.eq_3 fields value noObject noList] at read
      cases read

theorem length_of_asList {α : Type} {bound : Nat} {decode : Decoder α} {value : Json}
    {results : List α} (narrow : value.IsNarrow bound)
    (read : asList decode value = .ok results) : results.length ≤ bound := by
  cases narrow with
  | list short all => exact (Store.mapM_eq_ok.1 read).length_eq.symm.trans_le short
  | object all => cases read
  | other noList noObject =>
      rw [asList.eq_2 decode value noList] at read
      cases read

end Json

/-- The ids in a body are fewer than the numbers of transformations. -/
theorem Service.length_of_readBody {mediaType : Option String} {body : String}
    {ids : List String} (understood : readBody mediaType body asOrder = .ok ids) :
    ids.length < UInt32.size - 1 := by
  obtain ⟨short, read⟩ := decode_of_readBody understood
  have narrow := Json.isNarrow_read body.toList
  obtain ⟨fields, readFields, read⟩ := Store.bind_eq_ok.1 read
  simp only [Json.Fields.required] at read
  split at read
  next value found =>
    simp only [Json.member?, Option.map_eq_some_iff] at found
    obtain ⟨member, found, rfl⟩ := found
    have inside := List.mem_of_find?_eq_some found
    have length := Json.length_of_asList (Json.isNarrow_of_asRecord narrow readFields member inside)
      read
    have within := Text.length_le body
    have size : UInt32.size = 4294967296 := rfl
    have most : longestBody = 2097152 := rfl
    omega
  next => cases read

end ColumnChain
