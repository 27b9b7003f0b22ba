import ColumnChain.Proofs.Exporting

/-!
# The shape of loaded tables

A table that is loaded from delimited text is a rectangle. Its columns are the different names
of the header, every row has exactly these columns, and there is one row for each record within
the limit. A row has under each name the field of its record in the last place of the name. A
lower limit cuts rows off and changes nothing else, apart from the types that cells are coerced
to, which are those of the rows that are left.
-/

namespace ColumnChain

/-! ## Rectangles -/

/-- A table whose columns are the different names of a header, in the order in which they first
occur, and whose rows all have exactly these columns. -/
structure Dataset.IsRectangular (data : Dataset) (header : List String) : Prop where
  columns : data.columnNames = header.eraseDups
  rows : ∀ row ∈ data.rows, row.keys = data.columnNames
  filled : data.rows ≠ []

/-- A row has under each name of a header the field of a record in the last place of the name.
Where the record ends before that place, there is nothing. -/
def Row.Holds (row : Row) (header fields : List String) : Prop :=
  ∀ before name after, header = before ++ name :: after → name ∉ after →
    Row.get? row name = some ((fields[before.length]?).elim .null Cell.ofField)

namespace Delimited

theorem keys_rowOf (header fields : List String) :
    (rowOf header fields).keys = header.eraseDups := by
  have names : (header.mapIdx fun place name =>
      (name, Cell.ofField (fields.getD place ""))).map Prod.fst = header := by
    apply List.ext_getElem
    · simp
    · intro place _ _
      simp
  rw [rowOf, Row.ofPairs, Keyed.keys_ofList, names]

theorem holds_rowOf (header fields : List String) : (rowOf header fields).Holds header fields := by
  rintro before name after rfl last
  have field : Cell.ofField (fields.getD before.length "") =
      (fields[before.length]?).elim .null Cell.ofField := by
    rw [List.getD_eq_getElem?_getD]
    cases fields[before.length]? <;> rfl
  rw [rowOf, List.mapIdx_append, List.mapIdx_cons, Nat.zero_add, field, Row.get?, Row.ofPairs]
  -- The pairs after the last one of the name are those of the other names.
  rw [Keyed.find?_ofList_of_last, Option.map_some]
  intro later
  obtain ⟨pair, member, same⟩ := List.mem_map.1 later
  obtain ⟨place, inside, rfl⟩ := List.mem_mapIdx.1 member
  change after[place] = name at same
  rw [← same] at last
  exact last (List.getElem_mem inside)

end Delimited

namespace Dataset

theorem length_rows_finish (options : Delimited.Options) (plain : Dataset) :
    (options.finish plain).rows.length = plain.rows.length := by
  rw [Delimited.Options.finish]
  split
  next => exact List.length_map _
  next => rfl

/-- Coercing cells leaves the shape of a table. -/
theorem IsRectangular.finish {plain : Dataset} {header : List String}
    (rectangular : plain.IsRectangular header) (options : Delimited.Options) :
    (options.finish plain).IsRectangular header := by
  rw [Delimited.Options.finish]
  split
  next =>
    refine ⟨rectangular.columns, fun row inside => ?_, mt List.map_eq_nil_iff.1 ?_⟩
    · obtain ⟨source, listed, rfl⟩ := List.mem_map.1 inside
      exact (Keyed.keys_mapEntries source _ _).trans (rectangular.rows source listed)
    · exact rectangular.filled
  next => exact rectangular

theorem isRectangular_ofRows (id : String) {header : List String} {rows : List Row}
    (filled : rows ≠ []) (alike : ∀ row ∈ rows, row.keys = header.eraseDups) :
    (ofRows id rows).IsRectangular header := by
  obtain ⟨first, inside⟩ := List.exists_mem_of_ne_nil rows filled
  have distinct : header.eraseDups.Nodup := alike first inside ▸ first.distinct
  have columns : (ofRows id rows).columnNames = header.eraseDups := by
    rw [columnNames_ofRows, namesOf_of_forall_keys filled distinct alike]
  exact ⟨columns, fun row member => (alike row member).trans columns.symm, filled⟩

end Dataset

namespace Delimited

/-! ## Limits -/

theorem limited_isPrefix {α : Type} (options : Options) (records : List α) :
    limited options records <+: records := by
  rw [limited]
  split
  next => exact List.prefix_rfl
  next most _ => exact List.take_prefix most records

theorem length_limited {α : Type} (options : Options) (records : List α) :
    (limited options records).length =
      options.maxRows.elim records.length fun most => min most records.length := by
  rw [limited]
  split
  next unlimited => rw [unlimited, Option.elim_none]
  next most given => rw [given, Option.elim_some, List.length_take]

/-! ## Loaded tables -/

section Rows

variable {options : Options} {header : List String} {others : List (List Bytes)}
  {rows : List Row}
  (made : List.Forall₂
    (fun record row => ∃ fields, decodeRecord record = .ok fields ∧ row = rowOf header fields)
    (limited options others) rows)

include made

theorem keys_of_made : ∀ row ∈ rows, row.keys = header.eraseDups := by
  intro row inside
  obtain ⟨_, -, fields, -, rfl⟩ := Store.exists_of_mem_forall₂ made row inside
  exact keys_rowOf header fields

/-- A limit cuts off at the end only, so a row stands in the place of its record. -/
theorem exists_record_of_made {place : Nat} {row : Row} (here : rows[place]? = some row) :
    ∃ record fields, others[place]? = some record ∧ decodeRecord record = .ok fields ∧
      row.Holds header fields := by
  obtain ⟨inRows, rfl⟩ := List.getElem?_eq_some_iff.1 here
  have inLimit : place < (limited options others).length := made.length_eq ▸ inRows
  obtain ⟨fields, readable, same⟩ := made.get inLimit inRows
  change rows[place] = rowOf header fields at same
  refine ⟨(limited options others)[place], fields, ?_, readable, ?_⟩
  · exact List.prefix_iff_getElem?.1 (limited_isPrefix options others) place inLimit
  · rw [same]
    exact holds_rowOf header fields

end Rows

section Tables

variable (options : Options) (id : String) (bytes : Bytes) (delimiter : UInt8)

/-- A table that is loaded is a rectangle over its header with a row for each record within the
limit, and before its cells are coerced each row holds the fields of its record. Where a text
loads without a limit, it loads with any limit but zero, and before cells are coerced this gives
the first of the same rows. -/
theorem isRectangular_of_loadWith :
    (∀ data, loadWith options id bytes delimiter = .ok data →
      ∃ first others header plain,
        records delimiter bytes = first :: others ∧ decodeRecord first = .ok header ∧
        loadWith { options with typed := false } id bytes delimiter = .ok plain ∧
        data = options.finish plain ∧ data.IsRectangular header ∧
        data.rows.length =
          options.maxRows.elim others.length (fun most => min most others.length) ∧
        ∀ (place : Nat) (row : Row), plain.rows[place]? = some row →
          ∃ record fields, others[place]? = some record ∧ decodeRecord record = .ok fields ∧
            row.Holds header fields) ∧
    ∀ whole most, loadWith { options with maxRows := none } id bytes delimiter = .ok whole →
      1 ≤ most →
        ∃ plain part,
          loadWith { options with maxRows := none, typed := false } id bytes delimiter =
            .ok plain ∧
          whole = options.finish plain ∧
          loadWith { options with maxRows := some most, typed := false } id bytes delimiter =
            .ok part ∧
          part.rows = plain.rows.take most ∧
          loadWith { options with maxRows := some most } id bytes delimiter =
            .ok (options.finish part) := by
  constructor
  · intro data loaded
    obtain ⟨first, others, header, rows, cut, decoded, named, made, filled, rfl⟩ :=
      loadWith_eq_ok.1 loaded
    have rectangular := Dataset.isRectangular_ofRows id filled (keys_of_made made)
    refine ⟨first, others, header, Dataset.ofRows id rows, cut, decoded, ?plain, rfl,
      rectangular.finish options, ?count, fun place row here => exists_record_of_made made here⟩
    case plain =>
      exact loadWith_eq_ok.2
        ⟨first, others, header, rows, cut, decoded, named, made, filled, rfl⟩
    case count =>
      rw [Dataset.length_rows_finish, ← length_limited]
      exact made.length_eq.symm
  · intro whole most loaded positive
    obtain ⟨first, others, header, rows, cut, decoded, named, made, filled, rfl⟩ :=
      loadWith_eq_ok.1 loaded
    have madePart := List.forall₂_take most made
    have filledPart : rows.take most ≠ [] := by
      rw [ne_eq, List.take_eq_nil_iff, not_or]
      exact ⟨Nat.ne_of_gt positive, filled⟩
    refine ⟨Dataset.ofRows id rows, Dataset.ofRows id (rows.take most), ?_, rfl, ?_, rfl, ?_⟩
    · exact loadWith_eq_ok.2
        ⟨first, others, header, rows, cut, decoded, named, made, filled, rfl⟩
    · exact loadWith_eq_ok.2
        ⟨first, others, header, _, cut, decoded, named, madePart, filledPart, rfl⟩
    · exact loadWith_eq_ok.2
        ⟨first, others, header, _, cut, decoded, named, madePart, filledPart, rfl⟩

end Tables

/-- Measurements under a header that repeats a name. -/
def readingHeader : List String :=
  ["site", "value", "value"]

/-- The text of the measurements; one record is shorter than the header and one is longer. -/
def readingBytes : Bytes :=
  Text.encode "site,value,value\nA,1,2\nB,3\nC,4,5,6\n"

/-- The cells of the measurements with types. -/
def readings : List (List (String × Cell)) :=
  [[("site", .text "A"), ("value", .number 2)], [("site", .text "B"), ("value", .null)],
    [("site", .text "C"), ("value", .number 5)]]

theorem isRectangular_of_loadWith_readings :
    ∃ whole part, loadWith { typed := true } "readings" readingBytes 44 = .ok whole ∧
      whole.rows.map Keyed.entries = readings ∧ whole.IsRectangular readingHeader ∧
      loadWith { maxRows := some 2, typed := true } "readings" readingBytes 44 = .ok part ∧
      part.rows.length = 2 := by
  have shown : (loadWith { typed := true } "readings" readingBytes 44).map
      (fun whole => whole.rows.map Keyed.entries) = .ok readings := by
    decide +kernel
  have cut : records 44 readingBytes =
      [readingHeader, ["A", "1", "2"], ["B", "3"], ["C", "4", "5", "6"]].map
        (List.map Text.encode) := by
    decide +kernel
  cases loaded : loadWith { typed := true } "readings" readingBytes 44 with
  | error fault =>
      rw [loaded] at shown
      cases shown
  | ok whole =>
      rw [loaded] at shown
      obtain ⟨ofWhole, limits⟩ :=
        isRectangular_of_loadWith { typed := true } "readings" readingBytes 44
      obtain ⟨first, others, header, _, split, decoded, -, -, rectangular, -⟩ :=
        ofWhole whole loaded
      obtain ⟨_, part, -, -, -, -, partLoaded⟩ := limits whole 2 loaded (by decide)
      obtain ⟨ofPart, -⟩ := isRectangular_of_loadWith { maxRows := some 2, typed := true }
        "readings" readingBytes 44
      obtain ⟨_, _, _, _, splitPart, -, -, -, -, count, -⟩ := ofPart _ partLoaded
      rw [split, List.map_cons, List.cons.injEq] at cut
      rw [split, List.cons.injEq] at splitPart
      obtain ⟨rfl, rfl⟩ := cut
      obtain ⟨-, rfl⟩ := splitPart
      rw [decodeRecord_encode] at decoded
      cases decoded
      exact ⟨whole, _, rfl, Except.ok.inj shown, rectangular, partLoaded, count⟩

end Delimited
end ColumnChain
