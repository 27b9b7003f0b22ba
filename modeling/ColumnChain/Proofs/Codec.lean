import ColumnChain.Ledger
import ColumnChain.Proofs.Keyed
import ColumnChain.Proofs.Layout
import ColumnChain.Proofs.Operations
import ColumnChain.Proofs.Stamps

/-!
# Ledgers read back

The contents of a ledger file are the ledger: what is written is read again, record by
record and in order. The only thing asked of a ledger is that its times are times of some
day, which is so for every ledger that was read from a file.
-/

namespace ColumnChain

namespace Text

theorem toList_loop (bytes : ByteArray) (place : Nat) (reversed : List UInt8) :
    ByteArray.toList.loop bytes place reversed =
      reversed.reverse ++ bytes.data.toList.drop place := by
  induction place, reversed using ByteArray.toList.loop.induct bytes with
  | case1 place reversed inside ih =>
      have next : bytes.data.toList.drop place =
          bytes.get! place :: bytes.data.toList.drop (place + 1) := by
        have current : bytes.get! place = bytes.data[place] :=
          getElem!_pos bytes.data place inside
        rw [List.drop_eq_getElem_cons (by simpa using inside), current, Array.getElem_toList]
      rw [ByteArray.toList.loop, if_pos inside, ih, next]
      simp
  | case2 place reversed outside =>
      have ended : bytes.data.toList.drop place = [] := by
        rw [List.drop_eq_nil_iff]
        exact Nat.le_of_not_lt outside
      rw [ByteArray.toList.loop, if_neg outside, ended, List.append_nil]

/-- A text is read back from its bytes. -/
theorem decode?_encode (text : String) : decode? (encode text) = some text := by
  have bytes : ByteArray.mk (encode text).toArray = text.toUTF8 := by
    rw [encode, ByteArray.toList, toList_loop]
    simp
  have valid : text.toUTF8.IsValidUTF8 := text.isValidUTF8
  rw [decode?, bytes, String.fromUTF8?, dif_pos valid]
  rfl

end Text

/-! ## Records -/

/-- Times of a record are times of some day. -/
structure Transformation.IsTimed (t : Transformation) : Prop where
  created : t.created.IsTime
  updated : ∀ instant ∈ t.updated, instant.IsTime

theorem Output.isPlain_toJson (output : Output) : output.toJson.IsPlain := by
  cases output <;> exact .object (by simp [Json.IsPlain.text])

theorem Transformation.isPlain_toJson (t : Transformation) : t.toJson.IsPlain := by
  have number : (Json.ofNat t.sequence.toNat).IsPlain :=
    .integer (t.sequence.toNat_lt.trans (by decide))
  refine .object fun member inside => ?_
  rcases List.mem_append.1 inside with always | sometimes
  · simp only [List.mem_cons, List.not_mem_nil, or_false] at always
    rcases always with rfl | rfl | rfl | rfl | rfl | rfl | rfl | rfl | rfl
    all_goals first | exact .text _ | exact number | exact t.output.isPlain_toJson
  · split at sometimes
    next => cases sometimes
    next =>
      rw [List.mem_singleton.1 sometimes]
      exact .text _

namespace Json

theorem asStatus_toJson (status : Status) : asStatus status.toJson = .ok status := by
  simp [asStatus, Status.toJson, asWord, Status.ofLabel?_label]

theorem asCategory_label (category : Category) :
    asCategory (.text category.label) = .ok category := by
  simp [asCategory, asWord, Category.ofLabel?_label]

theorem asNatural_ofNat {bound n : Nat} (small : n < bound) :
    asNatural bound (Json.ofNat n) = .ok n := by
  have inside : (0 : Int) ≤ n ∧ (n : Int) < bound := by omega
  rw [Json.ofNat, asNatural, if_pos inside, Int.toNat_natCast]

theorem asSequence_ofNat (sequence : UInt32) :
    asSequence (Json.ofNat sequence.toNat) = .ok sequence := by
  rw [asSequence, asNatural_ofNat sequence.toNat_lt, Except.map, UInt32.ofNat_toNat]

theorem asInstant_toJson {instant : Instant} (isTime : instant.IsTime) :
    asInstant instant.toJson = .ok instant := by
  simp [asInstant, Instant.toJson, asMeaning, Instant.read?_stamp isTime]

theorem asOutput_toJson (within : Nat) (output : Output) :
    asOutput within output.toJson = .ok output := by
  cases output with
  | overwrite => rfl
  | column name => rfl

section Fields

variable {α : Type} {decode : Decoder α} {value : Json} {result : α}

@[simp] theorem name_field (name : String) (decode : Decoder α) :
    (field name decode).name = name := rfl

@[simp] theorem name_fieldOr (name : String) (decode : Decoder α) :
    (fieldOr name decode).name = name := rfl

theorem check_field (read : decode value = .ok result) (name : String) :
    (field name decode).check value = .ok () := by
  simp only [field, read]
  rfl

theorem check_fieldOr (read : decode value = .ok result) (name : String) :
    (fieldOr name decode).check value = .ok () :=
  check_field read name

theorem asOptional_eq_ok (read : decode value = .ok result) (present : value ≠ .null) :
    asOptional decode value = .ok (some result) := by
  simp only [asOptional, read]
  rfl

@[simp] theorem asText_text (value : String) : asText (.text value) = .ok value := rfl

@[simp] theorem check_field_asText (name value : String) :
    (field name asText).check (.text value) = .ok () := rfl

theorem required_eq_ok {fields : Fields} {name : String}
    (found : member? fields name = some value) (read : decode value = .ok result) :
    fields.required name decode = .ok result := by
  simp only [Fields.required, found, read]

theorem withDefault_eq_ok {fields : Fields} {name : String} {default : α}
    (found : member? fields name = some value) (read : decode value = .ok result) :
    fields.withDefault name decode default = .ok result := by
  simp only [Fields.withDefault, found, read]

theorem exists_of_required_eq_ok {fields : Fields} {name : String}
    (read : fields.required name decode = .ok result) : ∃ value, decode value = .ok result := by
  simp only [Fields.required] at read
  split at read
  next value found => exact ⟨value, read⟩
  next => cases read

theorem eq_or_exists_of_withDefault_eq_ok {fields : Fields} {name : String} {default : α}
    (read : fields.withDefault name decode default = .ok result) :
    result = default ∨ ∃ value, decode value = .ok result := by
  simp only [Fields.withDefault] at read
  split at read
  next value found => exact Or.inr ⟨value, read⟩
  next =>
    cases read
    exact Or.inl rfl

end Fields

/-- Members are picked as they are, where each is a field of its own that is in order. -/
theorem pickMembers_eq_ok {fields : List Field} {members : List (String × Json)}
    (seen : List String) (distinct : (members.map Prod.fst).Nodup)
    (fresh : ∀ member ∈ members, member.1 ∉ seen)
    (known : ∀ member ∈ members, ∃ field,
      fields.find? (fun field => field.name == member.1) = some field ∧
        field.check member.2 = .ok ()) :
    pickMembers fields seen members = .ok members := by
  induction members generalizing seen with
  | nil => rfl
  | cons member members ih =>
      obtain ⟨key, value⟩ := member
      simp only [List.map_cons, List.nodup_cons, List.mem_map] at distinct
      obtain ⟨field, found, checked⟩ := known (key, value) List.mem_cons_self
      have notSeen : seen.contains key = false := by
        simpa using fresh (key, value) List.mem_cons_self
      have others := ih (key :: seen) distinct.2
        (fun member inside => by
          rw [List.mem_cons, not_or]
          exact ⟨fun same => distinct.1 ⟨member, inside, same⟩,
            fresh member (List.mem_cons_of_mem (key, value) inside)⟩)
        (fun member inside => known member (List.mem_cons_of_mem (key, value) inside))
      simp only [pickMembers, found, notSeen, checked, others]
      rfl

/-- A record is read from its fields. -/
theorem asTransformation_toJson (within : Nat) {t : Transformation} (timed : t.IsTimed) :
    asTransformation within t.toJson = .ok t := by
  have category := asCategory_label t.category
  have status := asStatus_toJson t.status
  have sequence := asSequence_ofNat t.sequence
  have created := asInstant_toJson timed.created
  have output := asOutput_toJson (within + 1) t.output
  simp only [asTransformation, Transformation.toJson, asRecord]
  -- Of the members only the last one can be missing.
  refine Store.bind_eq_ok.2 ⟨_, pickMembers_eq_ok [] ?distinct (by simp) ?known, ?_⟩
  case distinct => cases t.updated <;> simp
  case known =>
    cases updated : t.updated with
    | none =>
        simp [check_field category "functionType", check_field status "status",
          check_field sequence "sequenceNumber", check_field created "createdAt",
          check_fieldOr output "output"]
    | some instant =>
        have changed := asOptional_eq_ok (asInstant_toJson (timed.updated instant updated))
          Json.noConfusion
        simp [check_field category "functionType", check_field status "status",
          check_field sequence "sequenceNumber", check_field created "createdAt",
          check_fieldOr output "output", check_fieldOr changed "updatedAt"]
  refine Store.bind_eq_ok.2 ⟨_, required_eq_ok rfl (asText_text t.id), ?_⟩
  refine Store.bind_eq_ok.2 ⟨_, required_eq_ok rfl (asText_text t.dataset), ?_⟩
  refine Store.bind_eq_ok.2 ⟨_, required_eq_ok rfl (asText_text t.column), ?_⟩
  refine Store.bind_eq_ok.2 ⟨_, required_eq_ok rfl (asText_text t.expression), ?_⟩
  refine Store.bind_eq_ok.2 ⟨_, required_eq_ok rfl category, ?_⟩
  refine Store.bind_eq_ok.2 ⟨_, required_eq_ok rfl status, ?_⟩
  refine Store.bind_eq_ok.2 ⟨_, required_eq_ok rfl sequence, ?_⟩
  refine Store.bind_eq_ok.2 ⟨_, required_eq_ok rfl created, ?_⟩
  refine Store.bind_eq_ok.2 ⟨_, withDefault_eq_ok rfl output, ?_⟩
  refine Store.bind_eq_ok.2 ⟨t.updated, ?_, rfl⟩
  cases updated : t.updated with
  | none => rfl
  | some instant =>
      exact withDefault_eq_ok rfl
        (asOptional_eq_ok (asInstant_toJson (timed.updated instant updated)) Json.noConfusion)

/-! ## Times that are read -/

theorem isTime_of_asInstant {value : Json} {instant : Instant}
    (read : asInstant value = .ok instant) : instant.IsTime := by
  simp only [asInstant, asMeaning] at read
  split at read
  next =>
    split at read
    next meant =>
      cases read
      exact Instant.isTime_of_read? meant
    next => cases read
  next => cases read

theorem isTimed_of_asTransformation {within : Nat} {value : Json} {t : Transformation}
    (read : asTransformation within value = .ok t) : t.IsTimed := by
  obtain ⟨fields, -, read⟩ := Store.bind_eq_ok.1 read
  obtain ⟨id, -, read⟩ := Store.bind_eq_ok.1 read
  obtain ⟨dataset, -, read⟩ := Store.bind_eq_ok.1 read
  obtain ⟨column, -, read⟩ := Store.bind_eq_ok.1 read
  obtain ⟨expression, -, read⟩ := Store.bind_eq_ok.1 read
  obtain ⟨category, -, read⟩ := Store.bind_eq_ok.1 read
  obtain ⟨status, -, read⟩ := Store.bind_eq_ok.1 read
  obtain ⟨sequence, -, read⟩ := Store.bind_eq_ok.1 read
  obtain ⟨created, readCreated, read⟩ := Store.bind_eq_ok.1 read
  obtain ⟨output, -, read⟩ := Store.bind_eq_ok.1 read
  obtain ⟨updated, readUpdated, read⟩ := Store.bind_eq_ok.1 read
  cases read
  constructor
  case created =>
    obtain ⟨value, meant⟩ := exists_of_required_eq_ok readCreated
    exact isTime_of_asInstant meant
  case updated =>
    rintro instant rfl
    rcases eq_or_exists_of_withDefault_eq_ok readUpdated with missing | ⟨value, meant⟩
    · cases missing
    · simp only [asOptional] at meant
      split at meant
      next => cases meant
      next =>
        cases instantRead : asInstant value with
        | error misfit =>
            rw [instantRead] at meant
            cases meant
        | ok other =>
            rw [instantRead] at meant
            cases meant
            exact isTime_of_asInstant instantRead

end Json

/-! ## Ledgers -/

namespace Ledger

/-- Times of a ledger are times of some day. -/
structure IsTimed (ledger : Ledger) : Prop where
  updated : ledger.updated.IsTime
  records : ∀ t ∈ ledger.records, t.IsTimed

theorem isPlain_toJson (ledger : Ledger) : ledger.toJson.IsPlain := by
  have records : Json.IsPlain (.list (ledger.records.map Transformation.toJson)) := by
    refine .list fun item member => ?_
    obtain ⟨t, -, rfl⟩ := List.mem_map.1 member
    exact t.isPlain_toJson
  refine .object fun member inside => ?_
  simp only [List.mem_cons, List.not_mem_nil, or_false] at inside
  rcases inside with rfl | rfl | rfl
  · exact .text ledger.version
  · exact .text ledger.updated.stamp
  · exact records

/-- A ledger is read from its fields, and its records one by one. -/
theorem ofJson_toJson {ledger : Ledger} (timed : ledger.IsTimed) :
    ofJson ledger.toJson = .ok ledger := by
  have updated := Json.asInstant_toJson timed.updated
  have each (records : List Transformation) (all : ∀ t ∈ records, t.IsTimed) :
      (records.map Transformation.toJson).mapM (Json.asTransformation 2) = .ok records := by
    induction records with
    | nil => rfl
    | cons t records ih =>
        rw [List.map_cons, List.mapM_cons,
          Json.asTransformation_toJson 2 (all t List.mem_cons_self),
          ih fun other member => all other (List.mem_cons_of_mem t member)]
        rfl
  have records : Json.asList (Json.asTransformation 2)
      (.list (ledger.records.map Transformation.toJson)) = .ok ledger.records :=
    each ledger.records timed.records
  simp only [ofJson, toJson, Json.asRecord]
  refine Store.bind_eq_ok.2 ⟨_, Json.pickMembers_eq_ok [] (by simp) (by simp) ?known, ?_⟩
  case known =>
    intro member inside
    simp only [List.mem_cons, List.not_mem_nil, or_false] at inside
    rcases inside with rfl | rfl | rfl
    · exact ⟨_, by simp, Json.check_field_asText "version" ledger.version⟩
    · exact ⟨_, by simp, Json.check_field updated "updated_at"⟩
    · exact ⟨_, by simp, Json.check_field records "transformations"⟩
  refine Store.bind_eq_ok.2 ⟨_, Json.required_eq_ok rfl (Json.asText_text ledger.version), ?_⟩
  refine Store.bind_eq_ok.2 ⟨_, Json.required_eq_ok rfl updated, ?_⟩
  exact Store.bind_eq_ok.2 ⟨_, Json.required_eq_ok rfl records, rfl⟩

/-- A ledger is read back from the contents of its file. -/
theorem decode?_encode {ledger : Ledger} (timed : ledger.IsTimed) :
    decode? ledger.encode = some ledger := by
  simp only [decode?, encode, Text.decode?_encode, Option.bind_eq_bind, Option.bind_some,
    String.toList_ofList, Json.read_pretty ledger.isPlain_toJson, ofJson_toJson timed]
  rfl

/-- A ledger that was read is one that can be written and read again. -/
theorem isTimed_of_decode? {bytes : Bytes} {ledger : Ledger}
    (read : decode? bytes = some ledger) : ledger.IsTimed := by
  obtain ⟨text, -, read⟩ := Option.bind_eq_some_iff.1 read
  simp only [Option.bind_eq_bind] at read
  obtain ⟨other, readOther, read⟩ := Option.bind_eq_some_iff.1 read
  split at read
  next => cases read
  next =>
    cases read
    cases readJson : ofJson (Json.read text.toList).1 with
    | error misfit =>
        rw [readJson] at readOther
        cases readOther
    | ok found =>
        rw [readJson] at readOther
        cases readOther
        obtain ⟨fields, -, readJson⟩ := Store.bind_eq_ok.1 readJson
        obtain ⟨version, -, readJson⟩ := Store.bind_eq_ok.1 readJson
        obtain ⟨updated, readUpdated, readJson⟩ := Store.bind_eq_ok.1 readJson
        obtain ⟨records, readRecords, readJson⟩ := Store.bind_eq_ok.1 readJson
        cases readJson
        obtain ⟨value, meantUpdated⟩ := Json.exists_of_required_eq_ok readUpdated
        obtain ⟨list, meantRecords⟩ := Json.exists_of_required_eq_ok readRecords
        refine ⟨Json.isTime_of_asInstant meantUpdated, fun t member => ?_⟩
        simp only [Json.asList] at meantRecords
        split at meantRecords
        next =>
          obtain ⟨item, -, meant⟩ := Store.exists_of_mem_mapM meantRecords t member
          exact Json.isTimed_of_asTransformation meant
        next => cases meantRecords

end Ledger

/-! ## Stores -/

/-- Times of the records of a store are times of some day. -/
def Store.IsTimed (store : Store) : Prop :=
  ∀ t ∈ store.entries, t.IsTimed

namespace Ledger

theorem isTimed_ofStore {store : Store} (timed : store.IsTimed) {now : Instant}
    (isTime : now.IsTime) : (ofStore store now).IsTimed :=
  ⟨isTime, timed⟩

theorem IsTimed.store {ledger : Ledger} (timed : ledger.IsTimed) : ledger.store.IsTimed := by
  intro t member
  rcases Keyed.mem_of_mem_foldl_put member with none | recorded
  · cases none
  · exact timed.records t recorded

@[simp] theorem store_ofStore (store : Store) (now : Instant) :
    (ofStore store now).store = store :=
  Keyed.ofList_entries store

end Ledger

end ColumnChain
