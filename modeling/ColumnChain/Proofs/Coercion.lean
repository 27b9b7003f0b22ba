import ColumnChain.Proofs.Digits
import ColumnChain.Proofs.Loading
import ColumnChain.Proofs.Magnitude

/-!
# Cells with types

Loading a table with types changes no more than how cells are kept. A text becomes a number only
where the number is displayed as just this text, so nothing of it is lost and it denotes what it
denoted before; a text becomes a truth value only where it is the name of one in some letter
case. Columns, their types and the shape of the table are those of the table without types.
-/

namespace ColumnChain

namespace Number

/-! ## Numbers that are displayed as they were read -/

theorem comma_not_mem_naturalText (n : Nat) : ',' ∉ naturalText n := by
  intro member
  have digit := (areDigits_naturalText n).all ',' member
  exact absurd digit (by decide)

theorem comma_not_mem_integerText (n : Int) : ',' ∉ integerText n := by
  rw [integerText]
  split
  next =>
    intro member
    rcases List.mem_cons.1 member with sign | digit
    · exact absurd sign (by decide)
    · exact comma_not_mem_naturalText _ digit
  next => exact comma_not_mem_naturalText _

theorem comma_not_mem_withPoint {digits : List Char} (plain : ',' ∉ digits) (places : Nat) :
    ',' ∉ withPoint digits places := by
  have padded : ',' ∉ List.replicate (places + 1 - digits.length) '0' ++ digits := by
    intro member
    rcases List.mem_append.1 member with zero | digit
    · exact absurd (List.eq_of_mem_replicate zero) (by decide)
    · exact plain digit
  intro member
  rw [withPoint] at member
  rcases List.mem_append.1 member with before | after
  · exact padded (List.mem_of_mem_take before)
  · rcases List.mem_cons.1 after with point | fraction
    · exact absurd point (by decide)
    · exact padded (List.mem_of_mem_drop fraction)

theorem comma_not_mem_positional (d : Decimal) : ',' ∉ d.positional := by
  rw [Decimal.positional]
  split
  next =>
    intro member
    rcases List.mem_append.1 member with digit | zero
    · exact comma_not_mem_naturalText _ digit
    · exact absurd (List.eq_of_mem_replicate zero) (by decide)
  next => exact comma_not_mem_withPoint (comma_not_mem_naturalText _) _

/-- Numbers are displayed without commas. -/
theorem comma_not_mem_cellText (x : Float) : ',' ∉ (cellText x).toList := by
  have written : ',' ∉ (positional x).toList := by
    rw [positional]
    split
    next p _ =>
      rw [String.toList_ofList, withSign]
      split
      next =>
        intro member
        rcases List.mem_cons.1 member with sign | digit
        · exact absurd sign (by decide)
        · exact comma_not_mem_positional _ digit
      next => exact comma_not_mem_positional _
    next => split <;> [decide; split <;> decide]
  rw [cellText]
  split
  next p _ =>
    split
    next =>
      rw [String.toList_ofList]
      exact comma_not_mem_integerText _
    next => exact written
  next => exact written

/-- Both zeros are displayed as zero. -/
theorem cellText_of_beq_zero {x : Float} (zero : (x == 0.0) = true) : cellText x = "0" := by
  obtain ⟨sign, unpacked⟩ := exists_unpack_of_beq_zero zero
  rw [cellText, parts?, unpacked]
  cases sign <;> rfl

/-- A number that is displayed as it was read is kept as it is: the zero that has a sign is not
displayed with it. -/
theorem ofNumber_of_displayed {text : List Char} {x : Float} (read : read? text = some x)
    (displayed : (cellText x).toList = text) : Cell.ofNumber x = .number x := by
  rw [Cell.ofNumber]
  split
  next zero =>
    rw [cellText_of_beq_zero zero] at displayed
    have positive : read? "0".toList = some 0.0 := rfl
    rw [← displayed, positive] at read
    rw [Option.some.inj read]
  next => rfl

/-- Commas within a text that is displayed for a number are none that the number is read
without. -/
theorem textNumber?_of_displayed {value : String} {x : Float}
    (read : read? (Text.trim value.toList) = some x)
    (displayed : (cellText x).toList = Text.trim value.toList) :
    Cell.textNumber? value = Cell.finite? x := by
  have whole : (Text.trim value.toList).filter (· ≠ ',') = Text.trim value.toList := by
    rw [List.filter_eq_self]
    intro c member
    rw [decide_eq_true_eq]
    rintro rfl
    rw [← displayed] at member
    exact comma_not_mem_cellText x member
  rw [Cell.textNumber?, whole, read]
  rfl

end Number

/-! ## Cells -/

/-- What a cell of a column with a type may be kept as where nothing is lost. -/
inductive Cell.Restates (type : ColumnType) : Cell → Cell → Prop where
  | same (cell : Cell) : Restates type cell cell
  /-- A number that is displayed as the text without the blanks around it, and denotes what the
  text denoted. -/
  | number {x : Float} {value : String} (numeric : type.isNumeric = true)
      (displayed : (number x).toText = Text.trimmed value)
      (denotes : (number x).asNumber? = (text value).asNumber?) :
      Restates type (number x) (text value)
  /-- A truth value whose name has the letters of the text, in whatever case. -/
  | truth {truth : Bool} {value : String} (isBoolean : type = .boolean)
      (named : Text.lowercased (bool truth).toText = Text.lowercased (Text.trimmed value)) :
      Restates type (bool truth) (text value)

namespace ColumnType

theorem restates_of_toNumber? {type : ColumnType} (numeric : type.isNumeric = true)
    {value : String} {cell : Cell} (made : toNumber? (Text.trim value.toList) = some cell) :
    cell.Restates type (.text value) := by
  rw [toNumber?] at made
  obtain ⟨x, read, made⟩ := Option.bind_eq_some_iff.1 made
  split at made
  next displayed =>
    cases made
    rw [Number.ofNumber_of_displayed read displayed]
    refine .number numeric ?_ (Number.textNumber?_of_displayed read displayed).symm
    rw [Text.trimmed, ← displayed, String.ofList_toList]
    rfl
  next => cases made

theorem restates_of_toBoolean? {value : String} {cell : Cell}
    (made : toBoolean? (Text.trim value.toList) = some cell) :
    cell.Restates .boolean (.text value) := by
  have lowered : String.ofList (Text.lower (Text.trim value.toList)) =
      Text.lowercased (Text.trimmed value) := by
    rw [Text.lowercased, Text.trimmed, String.toList_ofList]
  rw [toBoolean?, lowered] at made
  split at made
  next isTrue =>
    cases made
    exact .truth rfl (Eq.trans (by decide +kernel) isTrue.symm)
  next =>
    split at made
    next isFalse =>
      cases made
      exact .truth rfl (Eq.trans (by decide +kernel) isFalse.symm)
    next => cases made

/-- A cell that is coerced to the type of its column loses nothing. -/
theorem restates_coerce (type : ColumnType) (cell : Cell) :
    (type.coerce cell).Restates type cell := by
  cases cell with
  | null => exact .same _
  | bool value => exact .same _
  | number value => exact .same _
  | text value =>
      have orSame {made : Option Cell}
          (restates : ∀ cell, made = some cell → cell.Restates type (.text value)) :
          (made.getD (.text value)).Restates type (.text value) := by
        cases made with
        | none => exact .same _
        | some cell => exact restates cell rfl
      cases type with
      | integer => exact orSame fun _ made => restates_of_toNumber? rfl made
      | float => exact orSame fun _ made => restates_of_toNumber? rfl made
      | boolean => exact orSame fun _ made => restates_of_toBoolean? made
      | date => exact .same _
      | text => exact .same _
      | unknown => exact .same _

end ColumnType

/-! ## Tables -/

/-- A row with the columns of a plain row, whose every cell restates the plain one. -/
structure Row.Restates (columns : List Column) (typed plain : Row) : Prop where
  keys : typed.keys = plain.keys
  cells : ∀ name cell, typed.get? name = some cell → ∃ column ∈ columns, column.name = name ∧
    ∃ source, plain.get? name = some source ∧ cell.Restates column.type source

/-- A table with the columns and types of a plain table, whose every row restates the plain
one. -/
structure Dataset.Restates (typed plain : Dataset) : Prop where
  id : typed.id = plain.id
  columns : typed.columns = plain.columns
  rows : List.Forall₂ (Row.Restates plain.columns) typed.rows plain.rows

namespace Dataset

theorem exists_column?_of_mem {data : Dataset} {name : String}
    (member : name ∈ data.columnNames) :
    ∃ column ∈ data.columns, column.name = name ∧ data.column? name = some column := by
  obtain ⟨column, found⟩ := Option.isSome_iff_exists.1 (hasColumn_eq_true_iff.2 member)
  have named := List.find?_some found
  exact ⟨column, List.mem_of_find?_eq_some found, by simpa using named, found⟩

/-- Coercing the cells of a table whose columns are the keys of its rows restates it. -/
theorem restates_typed {data : Dataset}
    (covered : ∀ row ∈ data.rows, ∀ name ∈ row.keys, name ∈ data.columnNames) :
    data.typed.Restates data where
  id := rfl
  columns := rfl
  rows := by
    refine List.forall₂_map_left_iff.2 (List.forall₂_same.2 fun row inside => ?_)
    constructor
    · simp [Keyed.keys, Keyed.mapEntries, Function.comp_def]
    · intro name cell found
      obtain ⟨entry, foundEntry, rfl⟩ := Option.map_eq_some_iff.1 found
      obtain ⟨member, rfl⟩ := Keyed.find?_eq_some_iff.1 foundEntry
      obtain ⟨source, inRow, rfl⟩ := List.mem_map.1 member
      obtain ⟨column, listed, named, known⟩ :=
        exists_column?_of_mem (covered row inside source.1 (List.mem_map_of_mem inRow))
      refine ⟨column, listed, named, source.2, ?_, ?_⟩
      · exact Option.map_eq_some_iff.2 ⟨source, Keyed.find?_eq_some_iff.2 ⟨inRow, rfl⟩, rfl⟩
      · simp only [known, Option.map_some, Option.getD_some]
        exact column.type.restates_coerce source.2

theorem restates_ofRows (id : String) (rows : List Row) :
    (ofRows id rows).typed.Restates (ofRows id rows) :=
  restates_typed fun row inside name member => by
    rw [columnNames_ofRows]
    exact mem_namesOf.2 ⟨row, inside, member⟩

end Dataset

namespace Delimited

/-- Loading with types is loading without them and then coercing the cells. -/
theorem loadWith_typed (options : Options) (id : String) (bytes : Bytes) (delimiter : UInt8) :
    loadWith { options with typed := true } id bytes delimiter =
      Dataset.typed <$> loadWith { options with typed := false } id bytes delimiter := by
  simp only [loadWith, limited, map_bind]
  refine bind_congr fun headers => ?_
  split
  next => rfl
  next =>
    rw [map_bind]
    refine bind_congr fun rows => ?_
    split <;> rfl

/-- Without types a table is loaded as the one of some rows. -/
theorem exists_ofRows_of_loadWith {options : Options} {id : String} {bytes : Bytes}
    {delimiter : UInt8} {plain : Dataset}
    (loaded : loadWith { options with typed := false } id bytes delimiter = .ok plain) :
    ∃ rows, plain = Dataset.ofRows id rows := by
  obtain ⟨_, _, _, rows, -, -, -, -, -, rfl⟩ := loadWith_eq_ok.1 loaded
  exact ⟨rows, rfl⟩

/-- A table is loaded with types exactly if it is loaded without them, and restates it then;
where the one fails, the other fails for the same reason. -/
theorem loadWith_typed_restates (options : Options) (id : String) (bytes : Bytes)
    (delimiter : UInt8) :
    ((∃ typed, loadWith { options with typed := true } id bytes delimiter = .ok typed) ↔
      ∃ plain, loadWith { options with typed := false } id bytes delimiter = .ok plain) ∧
    (∀ fault, loadWith { options with typed := true } id bytes delimiter = .error fault ↔
      loadWith { options with typed := false } id bytes delimiter = .error fault) ∧
    ∀ typed plain, loadWith { options with typed := true } id bytes delimiter = .ok typed →
      loadWith { options with typed := false } id bytes delimiter = .ok plain →
        typed.Restates plain := by
  rw [loadWith_typed]
  cases loaded : loadWith { options with typed := false } id bytes delimiter with
  | error fault => simp
  | ok table =>
      refine ⟨by simp, by simp, ?_⟩
      intro typed plain typedLoaded plainLoaded
      cases typedLoaded
      cases plainLoaded
      obtain ⟨rows, rfl⟩ := exists_ofRows_of_loadWith loaded
      exact Dataset.restates_ofRows id rows

/-- Parcels of which some numbers are written in other ways than they are displayed. -/
def parcelBytes : Bytes :=
  Text.encode "code,weight,sent\n007,1.50,TRUE\n 3 ,2.5,false\n"

/-- The cells of the parcels with types. -/
def parcels : List (List (String × Cell)) :=
  [[("code", .text "007"), ("weight", .text "1.50"), ("sent", .bool true)],
    [("code", .number 3), ("weight", .number 2.5), ("sent", .bool false)]]

theorem loadWith_typed_restates_parcels :
    ∃ typed plain, loadWith { typed := true } "parcels" parcelBytes 44 = .ok typed ∧
      typed.rows.map Keyed.entries = parcels ∧
      loadWith { typed := false } "parcels" parcelBytes 44 = .ok plain ∧
      typed.Restates plain := by
  have shown : (loadWith { typed := true } "parcels" parcelBytes 44).map
      (fun typed => typed.rows.map Keyed.entries) = .ok parcels := by
    decide +kernel
  obtain ⟨both, -, restates⟩ := loadWith_typed_restates {} "parcels" parcelBytes 44
  cases loaded : loadWith { typed := true } "parcels" parcelBytes 44 with
  | error fault =>
      rw [loaded] at shown
      cases shown
  | ok typed =>
      rw [loaded] at shown
      obtain ⟨plain, plainLoaded⟩ := both.1 ⟨typed, loaded⟩
      exact ⟨typed, plain, rfl, Except.ok.inj shown, plainLoaded,
        restates typed plain loaded plainLoaded⟩

end Delimited
end ColumnChain
