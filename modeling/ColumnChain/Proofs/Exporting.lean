import ColumnChain.Delimited.Writing
import ColumnChain.Proofs.Codec
import ColumnChain.Proofs.Loading

/-!
# Exported tables read back

Delimited text that was written is read again field by field. Quotes hide from the reader
whatever would end a field or a record, and a record without a byte is never written, so the
reader meets each record where the writer began it. Loaded as a table, an export has the
columns it was written with, in their order, and the texts of its cells.
-/

namespace ColumnChain

namespace Text

/-- The mark that may precede text in UTF-8, as a character. -/
def mark : Char := '\uFEFF'

theorem encode_eq_data (text : String) : encode text = text.toByteArray.data.toList := by
  rw [encode, ByteArray.toList, toList_loop]
  rfl

/-- Only a text that starts with the mark has the bytes of the mark at its start. -/
theorem head?_of_encode_eq_mark {text : String} {rest : Bytes}
    (encoded : encode text = 0xEF :: 0xBB :: 0xBF :: rest) : text.toList.head? = some mark := by
  have joined : [mark].utf8Encode ++ rest.toByteArray = text.toList.utf8Encode := by
    rw [String.utf8Encode_toList]
    apply ByteArray.ext
    apply Array.ext'
    rw [← encode_eq_data, encoded]
    simp [List.utf8Encode, mark, String.utf8EncodeChar]
  obtain ⟨others, split⟩ := List.isPrefix_of_utf8Encode_append_eq_utf8Encode _ joined
  rw [← split]
  rfl

end Text

namespace Delimited

/-- What makes a byte fit to delimit fields: it is no part of the quoting, of the ends of
lines, or of a character that is not ASCII. -/
structure Delimits (delimiter : UInt8) : Prop where
  notQuote : delimiter ≠ quote
  inLine : endsLine delimiter = false
  ascii : delimiter < 0x80

theorem delimits_of_mem_candidates {c : Char} (candidate : c ∈ candidates) :
    Delimits (Text.byte c) := by
  simp only [candidates, List.mem_cons, List.not_mem_nil, or_false] at candidate
  rcases candidate with rfl | rfl | rfl | rfl
  all_goals exact ⟨by decide, by decide, by decide⟩

section Fields

variable {delimiter : UInt8}

/-- Where a field ends: at a delimiter or at the end of the line. -/
def EndsField (delimiter b : UInt8) : Prop :=
  b = delimiter ∨ b = Text.byte '\n'

theorem EndsField.ne_quote (delimits : Delimits delimiter) {b : UInt8}
    (ends : EndsField delimiter b) : b ≠ quote := by
  rcases ends with rfl | rfl
  · exact delimits.notQuote
  · decide

theorem recordsFrom_doubled (fields : List Bytes) (before field rest : Bytes) :
    recordsFrom delimiter ⟨.quoted, fields, before⟩ (doubled field ++ rest) =
      recordsFrom delimiter ⟨.quoted, fields, field.reverse ++ before⟩ rest := by
  induction field generalizing before with
  | nil => rfl
  | cons b field ih =>
      rw [doubled, List.flatMap_cons, ← doubled, List.append_assoc, List.reverse_cons,
        List.append_assoc, List.singleton_append, ← ih]
      split
      next isQuote =>
        rw [isQuote]
        rfl
      next other =>
        rw [List.singleton_append, recordsFrom]
        simp only [Scan.step, if_neg other, Scan.add]

theorem recordsFrom_plain (fields : List Bytes) (before : Bytes) {field : Bytes}
    (unquoted : needsQuotes delimiter field = false) (rest : Bytes) :
    recordsFrom delimiter ⟨.plain, fields, before⟩ (field ++ rest) =
      recordsFrom delimiter ⟨.plain, fields, field.reverse ++ before⟩ rest := by
  induction field generalizing before with
  | nil => rfl
  | cons b field ih =>
      rw [needsQuotes, List.any_cons, Bool.or_eq_false_iff, Bool.or_eq_false_iff,
        Bool.or_eq_false_iff, beq_eq_false_iff_ne, beq_eq_false_iff_ne] at unquoted
      obtain ⟨⟨⟨notDelimiter, -⟩, inLine⟩, others⟩ := unquoted
      rw [List.cons_append, recordsFrom, List.reverse_cons, List.append_assoc,
        List.singleton_append, ← ih (b :: before) others]
      simp only [Scan.step, Scan.stepPlain, if_neg notDelimiter, inLine, Scan.add]
      rfl

/-- A field that was written is read up to what ends it. Before a record this takes a byte of
the record, since a line without one is passed over. -/
theorem recordsFrom_writeField (delimits : Delimits delimiter) {place : Place}
    (fields : List Bytes) {field : Bytes} {b : UInt8} (ends : EndsField delimiter b)
    (starts : place = .fieldStart ∨ place = .outside ∧ (field = [] → b = delimiter))
    (rest : Bytes) :
    recordsFrom delimiter ⟨place, fields, []⟩ (writeField delimiter field ++ b :: rest) =
      recordsFrom delimiter ⟨.plain, fields, field.reverse⟩ (b :: rest) := by
  have notQuote := ends.ne_quote delimits
  rw [writeField]
  split
  next =>
    have opened : recordsFrom delimiter ⟨place, fields, []⟩
          ((quote :: (doubled field ++ [quote])) ++ b :: rest) =
        recordsFrom delimiter ⟨.quoted, fields, []⟩ (doubled field ++ quote :: b :: rest) := by
      rw [List.cons_append, List.append_assoc, List.singleton_append, recordsFrom]
      rcases starts with rfl | ⟨rfl, -⟩ <;> rfl
    rw [opened, recordsFrom_doubled, List.append_nil, recordsFrom]
    have closed : Scan.step delimiter ⟨.quoted, fields, field.reverse⟩ quote =
        (none, ⟨.afterQuote, fields, field.reverse⟩) := rfl
    simp only [closed]
    simp only [recordsFrom, Scan.step, if_neg notQuote]
    rfl
  next unquoted =>
    rw [Bool.not_eq_true] at unquoted
    cases field with
    | nil =>
        rw [List.nil_append, List.reverse_nil]
        rcases starts with rfl | ⟨rfl, delimiting⟩
        · simp only [recordsFrom, Scan.step, if_neg notQuote]
          rfl
        · rw [delimiting rfl]
          simp only [recordsFrom, Scan.step, delimits.inLine, if_neg delimits.notQuote]
          rfl
    | cons first field =>
        have parts := unquoted
        rw [needsQuotes, List.any_cons, Bool.or_eq_false_iff, Bool.or_eq_false_iff,
          Bool.or_eq_false_iff, beq_eq_false_iff_ne, beq_eq_false_iff_ne] at parts
        obtain ⟨⟨⟨notDelimiter, plain⟩, inLine⟩, others⟩ := parts
        have entered : recordsFrom delimiter ⟨place, fields, []⟩
              (first :: field ++ b :: rest) =
            recordsFrom delimiter ⟨.plain, fields, []⟩ (first :: field ++ b :: rest) := by
          simp only [List.cons_append, recordsFrom]
          rcases starts with rfl | ⟨rfl, -⟩
          · simp only [Scan.step, if_neg plain]
            rfl
          · simp only [Scan.step, if_neg plain, inLine]
            rfl
        rw [entered, recordsFrom_plain fields [] unquoted, List.append_nil]

theorem recordsFrom_delimiter (fields : List Bytes) (field rest : Bytes) :
    recordsFrom delimiter ⟨.plain, fields, field.reverse⟩ (delimiter :: rest) =
      recordsFrom delimiter ⟨.fieldStart, field :: fields, []⟩ rest := by
  simp [recordsFrom, Scan.step, Scan.stepPlain]

theorem recordsFrom_lineEnd (delimits : Delimits delimiter) (fields : List Bytes)
    (field rest : Bytes) :
    recordsFrom delimiter ⟨.plain, fields, field.reverse⟩ (Text.byte '\n' :: rest) =
      (field :: fields).reverse :: recordsFrom delimiter Scan.fresh rest := by
  have notDelimiter : Text.byte '\n' ≠ delimiter := by
    rintro rfl
    exact Bool.noConfusion delimits.inLine
  simp only [recordsFrom, Scan.step, Scan.stepPlain, if_neg notDelimiter, Scan.record,
    List.reverse_reverse]
  rfl

/-- The fields of a line are read one after the other, and the end of the line gives the
record. -/
theorem recordsFrom_line (delimits : Delimits delimiter) (place : Place) (before : List Bytes)
    (field : Bytes) (more : List Bytes)
    (starts : place = .fieldStart ∨ place = .outside ∧ (field = [] → more ≠ []))
    (rest : Bytes) :
    recordsFrom delimiter ⟨place, before, []⟩
        ([delimiter].intercalate ((field :: more).map (writeField delimiter)) ++
          Text.byte '\n' :: rest) =
      (before.reverse ++ field :: more) :: recordsFrom delimiter Scan.fresh rest := by
  induction more generalizing place before field with
  | nil =>
      have starts : place = .fieldStart ∨
          place = .outside ∧ (field = [] → Text.byte '\n' = delimiter) :=
        starts.imp_right fun ⟨outside, filled⟩ =>
          ⟨outside, fun empty => absurd rfl (filled empty)⟩
      rw [List.map_singleton, List.intercalate_singleton,
        recordsFrom_writeField delimits before (Or.inr rfl) starts,
        recordsFrom_lineEnd delimits, List.reverse_cons]
  | cons next more ih =>
      have starts : place = .fieldStart ∨
          place = .outside ∧ (field = [] → delimiter = delimiter) :=
        starts.imp_right fun ⟨outside, _⟩ => ⟨outside, fun _ => rfl⟩
      rw [List.map_cons, List.map_cons, List.intercalate_cons_cons, ← List.map_cons,
        List.append_assoc, List.append_assoc, List.singleton_append,
        recordsFrom_writeField delimits before (Or.inl rfl) starts, recordsFrom_delimiter,
        ih .fieldStart (field :: before) next (Or.inl rfl), List.reverse_cons,
        List.append_assoc, List.singleton_append]

/-- A record that was written is read again. -/
theorem recordsFrom_writeRecord (delimits : Delimits delimiter) {fields : List Bytes}
    (filled : fields ≠ []) (rest : Bytes) :
    recordsFrom delimiter Scan.fresh (writeRecord delimiter fields ++ rest) =
      fields :: recordsFrom delimiter Scan.fresh rest := by
  obtain ⟨field, more, rfl⟩ := List.exists_cons_of_ne_nil filled
  by_cases blank : field = [] ∧ more = []
  · obtain ⟨rfl, rfl⟩ := blank
    exact recordsFrom_lineEnd delimits [] [] rest
  · have visible : ([delimiter].intercalate
        ((field :: more).map (writeField delimiter))).isEmpty = false := by
      cases more with
      | nil =>
          have nonempty : field ≠ [] := fun empty => blank ⟨empty, rfl⟩
          rw [List.map_singleton, List.intercalate_singleton, writeField]
          split
          next => rfl
          next => simpa using nonempty
      | cons next more => simp [List.intercalate_cons_cons]
    rw [writeRecord, visible, List.append_assoc]
    exact recordsFrom_line delimits .outside [] field more
      (Or.inr ⟨rfl, fun empty last => blank ⟨empty, last⟩⟩) rest

theorem recordsFrom_writeRecords (delimits : Delimits delimiter) {table : List (List Bytes)}
    (filled : ∀ fields ∈ table, fields ≠ []) :
    recordsFrom delimiter Scan.fresh (table.flatMap (writeRecord delimiter)) = table := by
  induction table with
  | nil => rfl
  | cons fields table ih =>
      rw [List.flatMap_cons, recordsFrom_writeRecord delimits (filled fields List.mem_cons_self),
        ih fun other member => filled other (List.mem_cons_of_mem fields member)]

end Fields

/-! ## The mark of the encoding -/

theorem withoutMark_eq_self {bytes : Bytes}
    (unmarked : ∀ rest, bytes ≠ 0xEF :: 0xBB :: 0xBF :: rest) : withoutMark bytes = bytes := by
  rw [withoutMark.eq_def]
  split
  next rest => exact absurd rfl (unmarked rest)
  next => rfl

/-- A record that is written with the bytes of the mark at its start has them in its first
field: quotes, delimiters and ends of lines are ASCII. -/
theorem exists_of_writeRecord_eq_mark {delimiter : UInt8} (delimits : Delimits delimiter)
    {field : Bytes} {more : List Bytes} {others rest : Bytes}
    (written : writeRecord delimiter (field :: more) ++ others = 0xEF :: 0xBB :: 0xBF :: rest) :
    ∃ rest, field = 0xEF :: 0xBB :: 0xBF :: rest := by
  have started : ∃ b tail, writeField delimiter field ++ b :: tail =
      0xEF :: 0xBB :: 0xBF :: rest ∧ b < 0x80 := by
    have lineEnd : Text.byte '\n' < 0x80 := by decide
    rw [writeRecord] at written
    split at written
    next => cases written
    next =>
      cases more with
      | nil =>
          rw [List.map_singleton, List.intercalate_singleton, List.append_assoc] at written
          exact ⟨_, others, written, lineEnd⟩
      | cons next more =>
          rw [List.map_cons, List.map_cons, List.intercalate_cons_cons, List.append_assoc,
            List.append_assoc, List.append_assoc] at written
          exact ⟨delimiter, _, written, delimits.ascii⟩
  obtain ⟨b, tail, written, ascii⟩ := started
  rw [writeField] at written
  split at written
  next => cases written
  next =>
    match field with
    | [] | [_] | [_, _] =>
        cases written
        exact absurd ascii (by decide)
    | first :: second :: third :: field =>
        cases written
        exact ⟨field, rfl⟩

/-! ## Tables -/

theorem write_eq_flatMap (columns : List String) (rows : List Row) (delimiter : UInt8) :
    write columns rows delimiter =
      ((columns :: rows.map (fieldsOf columns)).map (List.map Text.encode)).flatMap
        (writeRecord delimiter) := by
  rw [write, List.flatMap_map]

/-- From its first byte on an export has the names of its columns and the texts of its rows. -/
theorem recordsFrom_write {columns : List String} {delimiter : UInt8}
    (delimits : Delimits delimiter) (filled : columns ≠ []) (rows : List Row) :
    recordsFrom delimiter Scan.fresh (write columns rows delimiter) =
      (columns :: rows.map (fieldsOf columns)).map (List.map Text.encode) := by
  rw [write_eq_flatMap]
  refine recordsFrom_writeRecords delimits fun fields member => ?_
  obtain ⟨texts, written, rfl⟩ := List.mem_map.1 member
  rw [ne_eq, List.map_eq_nil_iff]
  rcases List.mem_cons.1 written with rfl | ofRow
  · exact filled
  · obtain ⟨row, -, rfl⟩ := List.mem_map.1 ofRow
    rw [fieldsOf, List.map_eq_nil_iff]
    exact filled

/-- The records of an export are the names of its columns and the texts of its rows. -/
theorem records_write {columns : List String} {delimiter : UInt8}
    (delimits : Delimits delimiter) (filled : columns ≠ [])
    (unmarked : ∀ name ∈ columns.head?, name.toList.head? ≠ some Text.mark)
    (rows : List Row) :
    records delimiter (write columns rows delimiter) =
      (columns :: rows.map (fieldsOf columns)).map (List.map Text.encode) := by
  have whole : withoutMark (write columns rows delimiter) = write columns rows delimiter := by
    refine withoutMark_eq_self fun rest marked => ?_
    obtain ⟨name, names, rfl⟩ := List.exists_cons_of_ne_nil filled
    rw [write_eq_flatMap, List.map_cons, List.flatMap_cons, List.map_cons] at marked
    obtain ⟨rest, encoded⟩ := exists_of_writeRecord_eq_mark delimits marked
    exact unmarked name rfl (Text.head?_of_encode_eq_mark encoded)
  rw [records, whole, recordsFrom_write delimits filled]

theorem decodeRecord_encode (fields : List String) :
    decodeRecord (fields.map Text.encode) = .ok fields := by
  induction fields with
  | nil => rfl
  | cons field fields ih =>
      rw [decodeRecord] at ih ⊢
      rw [List.map_cons, List.mapM_cons, Text.decode?_encode, ih]
      rfl

theorem entries_rowOf {columns : List String} (distinct : columns.Nodup) (row : Row) :
    (rowOf columns (fieldsOf columns row)).entries =
      columns.map fun column => (column, Cell.ofField (Row.get row column).toText) := by
  have pairs : (columns.mapIdx fun place header =>
        (header, Cell.ofField ((fieldsOf columns row).getD place ""))) =
      columns.map fun column => (column, Cell.ofField (Row.get row column).toText) := by
    apply List.ext_getElem
    · simp
    · intro place inside _
      rw [List.length_mapIdx] at inside
      simp [fieldsOf, inside]
  rw [rowOf, pairs]
  refine Keyed.entries_foldl_put Keyed.empty ?_
  simpa [Keyed.empty, Function.comp_def] using distinct

end Delimited

namespace Dataset

theorem addNames_of_subset {names more : List String} (known : ∀ name ∈ more, name ∈ names) :
    addNames names more = names := by
  induction more with
  | nil => rfl
  | cons name more ih =>
      have present : names.contains name = true :=
        List.contains_iff_mem.2 (known name List.mem_cons_self)
      rw [addNames, List.foldl_cons, if_pos present]
      exact ih fun other member => known other (List.mem_cons_of_mem name member)

theorem addNames_of_nodup {names more : List String} (distinct : (names ++ more).Nodup) :
    addNames names more = names ++ more := by
  induction more generalizing names with
  | nil => simp [addNames]
  | cons name more ih =>
      have absent : names.contains name = false := by
        rw [Bool.eq_false_iff, ne_eq, List.contains_iff_mem]
        intro present
        rw [List.nodup_append] at distinct
        exact distinct.2.2 name present name List.mem_cons_self rfl
      rw [List.append_cons] at distinct
      rw [addNames, List.foldl_cons, absent, List.append_cons names name more, ← ih distinct]
      rfl

/-- Rows that all have the same columns have these columns. -/
theorem namesOf_of_forall_keys {rows : List Row} {columns : List String} (filled : rows ≠ [])
    (distinct : columns.Nodup) (alike : ∀ row ∈ rows, row.keys = columns) :
    namesOf rows = columns := by
  obtain ⟨first, rows, rfl⟩ := List.exists_cons_of_ne_nil filled
  have started : addNames [] columns = columns := by
    rw [addNames_of_nodup (by simpa using distinct), List.nil_append]
  rw [namesOf, List.foldl_cons, alike first List.mem_cons_self, started]
  have others : ∀ row ∈ rows, row.keys = columns := fun row member =>
    alike row (List.mem_cons_of_mem first member)
  clear filled alike
  induction rows with
  | nil => rfl
  | cons row rows ih =>
      rw [List.foldl_cons, others row List.mem_cons_self, addNames_of_subset fun _ member => member]
      exact ih fun other member => others other (List.mem_cons_of_mem row member)

end Dataset

namespace Delimited

/-- An exported table loads: it has the same columns in the same order and a row for each
row, with the text of the cell in every column. Where that is empty, or there is no such
cell, the loaded cell holds nothing. -/
theorem loadWith_write {columns : List String} {rows : List Row} {delimiter : Char}
    (candidate : delimiter ∈ candidates) (named : ∃ name ∈ columns, name ≠ "")
    (distinct : columns.Nodup)
    (unmarked : ∀ name ∈ columns.head?, name.toList.head? ≠ some Text.mark)
    (filled : rows ≠ []) (known : Option UInt8) (id : String) :
    ∃ data, loadWith { delimiter := known } id
        (write columns rows (Text.byte delimiter)) (Text.byte delimiter) = .ok data ∧
      data.columnNames = columns ∧
      data.rows.map Keyed.entries = rows.map fun row =>
        columns.map fun column => (column, Cell.ofField (Row.get row column).toText) := by
  obtain ⟨name, member, visible⟩ := named
  have delimits := delimits_of_mem_candidates candidate
  have records := records_write delimits (List.ne_nil_of_mem member) unmarked rows
  have anyName : columns.all String.isEmpty = false := by
    rw [List.all_eq_false]
    exact ⟨name, member, by simpa using visible⟩
  have rowsRead : ((rows.map (fieldsOf columns)).map (List.map Text.encode)).mapM
      (fun record => do return rowOf columns (← decodeRecord record)) =
        Except.ok (rows.map fun row => rowOf columns (fieldsOf columns row)) := by
    rw [List.map_map, List.mapM_map]
    have each : (fun record => do return rowOf columns (← decodeRecord record)) ∘
        (List.map Text.encode ∘ fieldsOf columns) =
          fun row => (pure (rowOf columns (fieldsOf columns row)) : Except Fault Row) := by
      funext row
      rw [Function.comp_apply, Function.comp_apply, decodeRecord_encode]
      rfl
    rw [each, List.mapM_pure]
    rfl
  have anyRow : (rows.map fun row => rowOf columns (fieldsOf columns row)).isEmpty = false := by
    simpa using filled
  refine ⟨Dataset.ofRows id (rows.map fun row => rowOf columns (fieldsOf columns row)),
    ?loads, ?names, ?cells⟩
  case loads =>
    simp only [loadWith, records, List.map_cons, decodeRecord_encode]
    refine Store.bind_eq_ok.2 ⟨columns, rfl, ?_⟩
    rw [anyName]
    refine Store.bind_eq_ok.2 ⟨_, rowsRead, ?_⟩
    rw [anyRow]
    rfl
  case names =>
    rw [Dataset.columnNames_ofRows]
    refine Dataset.namesOf_of_forall_keys (by simpa using filled) distinct fun row inside => ?_
    obtain ⟨source, -, rfl⟩ := List.mem_map.1 inside
    rw [Keyed.keys, entries_rowOf distinct, List.map_map]
    exact List.map_id _
  case cells =>
    rw [Dataset.ofRows, List.map_map]
    exact List.map_congr_left fun row _ => entries_rowOf distinct row

/-- Rows of which one has a cell that would not be read without quotes, and the other has
only a cell without text. -/
def remarks : List Row :=
  [Row.ofPairs [("id", .text "1"), ("a\"remark", .text "one; \"two\"\r\nthree")],
    Row.single "id" (.text "")]

theorem loadWith_write_remarks :
    (';' ∈ candidates ∧ (∃ name ∈ ["a\"remark", "id"], name ≠ "") ∧
      ["a\"remark", "id"].Nodup ∧
      (∀ name ∈ ["a\"remark", "id"].head?, name.toList.head? ≠ some Text.mark) ∧
      remarks ≠ []) ∧
    ∃ data, loadWith {} "remarks" (write ["a\"remark", "id"] remarks (Text.byte ';'))
        (Text.byte ';') = .ok data ∧
      data.columnNames = ["a\"remark", "id"] ∧
      data.rows.map Keyed.entries =
        [[("a\"remark", .text "one; \"two\"\r\nthree"), ("id", .text "1")],
          [("a\"remark", .null), ("id", .null)]] := by
  have candidate : ';' ∈ candidates := by decide
  have named : ∃ name ∈ ["a\"remark", "id"], name ≠ "" := ⟨"id", by decide, by decide⟩
  have distinct : ["a\"remark", "id"].Nodup := by decide
  have unmarked : ∀ name ∈ ["a\"remark", "id"].head?,
      name.toList.head? ≠ some Text.mark := by
    rintro name ⟨⟩
    decide
  have filled : remarks ≠ [] := List.cons_ne_nil _ _
  exact ⟨⟨candidate, named, distinct, unmarked, filled⟩,
    loadWith_write candidate named distinct unmarked filled none "remarks"⟩

end Delimited
end ColumnChain
