import ColumnChain.Delimited.File
import ColumnChain.Proofs.Operations

/-!
# Loaded datasets

A dataset that is loaded from delimited text has rows, and its columns have different
names, so that a column is known by its name and has one chain.
-/

namespace ColumnChain

namespace Dataset

/-- A table has rows, and its columns have different names. -/
structure IsTable (data : Dataset) : Prop where
  filled : data.rows ≠ []
  distinct : data.columnNames.Nodup

theorem hasColumn_eq_true_iff {data : Dataset} {name : String} :
    data.hasColumn name = true ↔ name ∈ data.columnNames := by
  simp [hasColumn, column?, columnNames]

theorem nodup_addNames {names : List String} (distinct : names.Nodup) (more : List String) :
    (addNames names more).Nodup := by
  induction more generalizing names with
  | nil => exact distinct
  | cons name more ih =>
      rw [addNames, List.foldl_cons]
      apply ih
      split
      next => exact distinct
      next absent =>
        rw [List.contains_iff_mem] at absent
        refine List.nodup_append.2 ⟨distinct, List.nodup_singleton name, ?_⟩
        intro other member same sameMember equal
        rw [List.mem_singleton.1 sameMember] at equal
        exact absent (equal ▸ member)

theorem nodup_namesOf (rows : List Row) : (namesOf rows).Nodup := by
  rw [namesOf]
  generalize known : ([] : List String) = names
  have distinct : names.Nodup := known ▸ List.nodup_nil
  clear known
  induction rows generalizing names with
  | nil => exact distinct
  | cons row rows ih => exact ih _ (nodup_addNames distinct row.keys)

theorem mem_addNames {names more : List String} {name : String} :
    name ∈ addNames names more ↔ name ∈ names ∨ name ∈ more := by
  induction more generalizing names with
  | nil => simp [addNames]
  | cons first more ih =>
      rw [addNames, List.foldl_cons]
      refine ih.trans ?_
      split
      next known =>
        rw [List.contains_iff_mem] at known
        rw [List.mem_cons]
        constructor
        · rintro (earlier | later)
          · exact Or.inl earlier
          · exact Or.inr (Or.inr later)
        · rintro (earlier | rfl | later)
          · exact Or.inl earlier
          · exact Or.inl known
          · exact Or.inr later
      next =>
        rw [List.mem_append, List.mem_singleton, List.mem_cons, or_assoc]

/-- The names of rows are those that some row has. -/
theorem mem_namesOf {rows : List Row} {name : String} :
    name ∈ namesOf rows ↔ ∃ row ∈ rows, name ∈ row.keys := by
  have folded : ∀ names, name ∈ rows.foldl (fun names row => addNames names row.keys) names ↔
      name ∈ names ∨ ∃ row ∈ rows, name ∈ row.keys := by
    induction rows with
    | nil => simp
    | cons row rows ih =>
        intro names
        rw [List.foldl_cons, ih, mem_addNames, or_assoc]
        simp
  rw [namesOf, folded]
  simp

theorem columnNames_ofRows (id : String) (rows : List Row) :
    (ofRows id rows).columnNames = namesOf rows := by
  simp [columnNames, ofRows, Function.comp_def]

theorem isTable_ofRows (id : String) {rows : List Row} (filled : rows ≠ []) :
    (ofRows id rows).IsTable where
  filled := filled
  distinct := by
    rw [columnNames_ofRows]
    exact nodup_namesOf rows

theorem IsTable.typed {data : Dataset} (table : data.IsTable) : data.typed.IsTable where
  filled := by
    simp only [Dataset.typed, ne_eq, List.map_eq_nil_iff]
    exact table.filled
  distinct := table.distinct

end Dataset

namespace Delimited

/-- The dataset as it is loaded: with types its cells are coerced. -/
def Options.finish (options : Options) (plain : Dataset) : Dataset :=
  if options.typed then plain.typed else plain

theorem rowOf_eq_ok {header : List String} {record : List Bytes} {row : Row} :
    (do return rowOf header (← decodeRecord record) : Except Fault Row) = .ok row ↔
      ∃ fields, decodeRecord record = .ok fields ∧ row = rowOf header fields := by
  rw [Store.bind_eq_ok]
  exact exists_congr fun fields => and_congr_right fun _ =>
    ⟨fun made => (Except.ok.inj made).symm, fun same => congrArg Except.ok same.symm⟩

/-- What a text is loaded as: there is a first record, which names a column, each further one
within the limit is read as a row, and there is a row. -/
theorem loadWith_eq_ok {options : Options} {id : String} {bytes : Bytes} {delimiter : UInt8}
    {data : Dataset} :
    loadWith options id bytes delimiter = .ok data ↔
      ∃ first others header rows, records delimiter bytes = first :: others ∧
        decodeRecord first = .ok header ∧ header.all String.isEmpty = false ∧
        List.Forall₂
          (fun record row => ∃ fields, decodeRecord record = .ok fields ∧ row = rowOf header fields)
          (limited options others) rows ∧
        rows ≠ [] ∧ data = options.finish (Dataset.ofRows id rows) := by
  simp only [loadWith, ← rowOf_eq_ok, ← Store.mapM_eq_ok]
  constructor
  · intro loaded
    obtain ⟨header, decoded, loaded⟩ := Store.bind_eq_ok.1 loaded
    split at loaded
    next => cases loaded
    next named =>
      rw [Bool.not_eq_true] at named
      obtain ⟨rows, made, loaded⟩ := Store.bind_eq_ok.1 loaded
      split at loaded
      next => cases loaded
      next filled =>
        cases cut : records delimiter bytes with
        | nil =>
            rw [cut] at decoded
            cases decoded
            cases named
        | cons first others =>
            rw [cut] at decoded made
            exact ⟨first, others, header, rows, rfl, decoded, named, made,
              mt List.isEmpty_iff.2 filled, (Except.ok.inj loaded).symm⟩
  · rintro ⟨first, others, header, rows, cut, decoded, named, made, filled, rfl⟩
    rw [cut]
    refine Store.bind_eq_ok.2 ⟨header, decoded, ?_⟩
    rw [named]
    refine Store.bind_eq_ok.2 ⟨rows, made, ?_⟩
    rw [List.isEmpty_eq_false_iff.2 filled]
    rfl

/-- What is loaded from text is a table. -/
theorem isTable_of_loadWith {options : Options} {id : String} {bytes : Bytes}
    {delimiter : UInt8} {data : Dataset}
    (loaded : loadWith options id bytes delimiter = .ok data) : data.IsTable := by
  obtain ⟨_, _, _, _, -, -, -, -, filled, rfl⟩ := loadWith_eq_ok.1 loaded
  have table := Dataset.isTable_ofRows id filled
  rw [Options.finish]
  split
  next => exact table.typed
  next => exact table

/-- What is loaded from a file is a table. -/
theorem isTable_of_ofFile {options : Options} {path : String} {bytes : Bytes} {now : Instant}
    {data : Dataset} (loaded : ofFile options path bytes now = .ok data) : data.IsTable := by
  obtain ⟨delimiter, -, loaded⟩ := Store.bind_eq_ok.1 loaded
  obtain ⟨content, loadedContent, loaded⟩ := Store.bind_eq_ok.1 loaded
  have table := isTable_of_loadWith loadedContent
  cases loaded
  exact ⟨table.filled, table.distinct⟩

theorem keys_rowOf_ne_nil {headers : List String} (filled : headers ≠ []) (fields : List String) :
    (rowOf headers fields).keys ≠ [] := by
  rw [Keyed.keys, ne_eq, List.map_eq_nil_iff]
  exact Keyed.entries_ofList_ne_nil (by simpa using filled)

theorem columnNames_finish (options : Options) (plain : Dataset) :
    (options.finish plain).columnNames = plain.columnNames := by
  rw [Options.finish]
  split <;> rfl

/-- What is loaded from text has a column. -/
theorem columnNames_ne_nil_of_loadWith {options : Options} {id : String} {bytes : Bytes}
    {delimiter : UInt8} {data : Dataset}
    (loaded : loadWith options id bytes delimiter = .ok data) : data.columnNames ≠ [] := by
  obtain ⟨_, _, header, rows, -, -, named, made, filled, rfl⟩ := loadWith_eq_ok.1 loaded
  have headed : header ≠ [] := by
    rintro rfl
    cases named
  obtain ⟨row, inside⟩ := List.exists_mem_of_ne_nil rows filled
  obtain ⟨_, -, fields, -, rfl⟩ := Store.exists_of_mem_forall₂ made row inside
  obtain ⟨name, member⟩ := List.exists_mem_of_ne_nil _ (keys_rowOf_ne_nil headed fields)
  rw [columnNames_finish, Dataset.columnNames_ofRows]
  exact List.ne_nil_of_mem (Dataset.mem_namesOf.2 ⟨_, inside, member⟩)

theorem columnNames_ne_nil_of_ofFile {options : Options} {path : String} {bytes : Bytes}
    {now : Instant} {data : Dataset} (loaded : ofFile options path bytes now = .ok data) :
    data.columnNames ≠ [] := by
  obtain ⟨delimiter, -, loaded⟩ := Store.bind_eq_ok.1 loaded
  obtain ⟨content, loadedContent, loaded⟩ := Store.bind_eq_ok.1 loaded
  have filled := columnNames_ne_nil_of_loadWith loadedContent
  cases loaded
  exact filled

end Delimited
end ColumnChain
