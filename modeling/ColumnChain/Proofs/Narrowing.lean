import ColumnChain.ColumnType
import ColumnChain.Proofs.Comparison
import ColumnChain.Proofs.Integers

/-!
# The narrowest type

The type of a column is the first of the types, from narrow to wide, that every cell fits; blank
cells fit all of them. One look at each cell is enough, since what the cells so far fit is all
that has to be known, and the order of the cells does not matter.
-/

namespace ColumnChain

namespace Number

theorem Parts.cast_whole {p : Parts} (isWhole : p.isWhole = true) :
    (p.significand : ℚ) * 2 ^ p.exponent = p.whole := by
  rw [Parts.isWhole, fraction, beq_iff_eq] at isWhole
  rw [whole]
  by_cases above : 0 ≤ p.exponent
  · obtain ⟨places, isPlaces⟩ := Int.eq_ofNat_of_zero_le above
    rw [if_pos above, isPlaces, Int.toNat_natCast, zpow_natCast]
    push_cast
    rfl
  · rw [if_neg above] at isWhole ⊢
    obtain ⟨places, isPlaces⟩ : ∃ places : ℕ, p.exponent = -places :=
      ⟨(-p.exponent).toNat, by omega⟩
    rw [isPlaces, neg_neg, Int.toNat_natCast] at isWhole ⊢
    rw [zpow_neg, zpow_natCast, Nat.cast_div (Nat.dvd_of_mod_eq_zero isWhole) (by positivity)]
    push_cast
    rfl

/-- Parts leave no fraction exactly when they make an integer. -/
theorem Parts.isWhole_iff (p : Parts) : p.isWhole = true ↔ ∃ n : ℤ, p.value = n := by
  rw [value]
  constructor
  · intro isWhole
    rw [cast_whole isWhole]
    exact ⟨(if p.negative then -1 else 1) * p.whole, by push_cast; rfl⟩
  · rintro ⟨n, exactly⟩
    refine (whole_eq (n := n.natAbs) ?_).1
    have distance : (0 : ℚ) ≤ p.significand * 2 ^ p.exponent := by positivity
    have unit : |if p.negative then (-1 : ℚ) else 1| = 1 := by split <;> simp
    rw [Nat.cast_natAbs, Int.cast_abs, ← exactly, abs_mul, unit, one_mul, abs_of_nonneg distance]

theorem isWhole_iff (x : Float) :
    isWhole x = true ↔ x.isFinite = true ∧ ∃ n : ℤ, value x = n := by
  rw [← isSome_parts?, isWhole, value]
  cases parts? x with
  | none => simp
  | some p => simp [Parts.isWhole_iff]

end Number

namespace ColumnType

/-- Whether a cell fits a type. -/
def Fits : ColumnType → Cell → Prop
  | .boolean, .bool _ => True
  | .boolean, .text value => readsAsBoolean (Text.trim value.toList) = true
  | .integer, .number x => x.isFinite = true ∧ ∃ n : ℤ, Number.value x = n
  | .integer, .text value => (Number.int64? (Text.trim value.toList)).isSome = true
  | .float, .number _ => True
  | .float, .text value => (Number.read? (Text.trim value.toList)).isSome = true
  | .date, .text value => (Calendar.readDate? (Text.trim value.toList)).isSome = true
  | .text, _ => True
  | _, _ => False

/-- Whether every cell of a column fits a type, as blank cells do. -/
def FitsAll (type : ColumnType) (cells : List Cell) : Prop :=
  ∀ cell ∈ cells, cell.isBlank = false → Fits type cell

/-- The types of columns that are not blank, from narrow to wide. -/
def widening : List ColumnType :=
  [boolean, integer, float, date, text]

/-! ## Evidence -/

namespace Evidence

/-- Whether the cells looked at so far all fit a type. -/
def allows (seen : Evidence) : ColumnType → Bool
  | .boolean => seen.boolean
  | .integer => seen.integer
  | .float => seen.float
  | .date => seen.date
  | .text => true
  | .unknown => false

/-- Evidence for everything. -/
def start : Evidence := ⟨true, true, true, true⟩

theorem allows_observe (seen : Evidence) {cell : Cell} (filled : cell ≠ .null)
    (type : ColumnType) :
    (seen.observe cell).allows type = true ↔ seen.allows type = true ∧ Fits type cell := by
  cases cell with
  | null => exact absurd rfl filled
  | bool value => cases type <;> simp [observe, allows, Fits]
  | number x => cases type <;> simp [observe, allows, Fits, Number.isWhole_iff]
  | text value => cases type <;> simp [observe, allows, Fits]

/-- What is allowed after some cells is what was allowed before and what each of them fits. -/
theorem allows_foldl (cells : List Cell) (filled : ∀ cell ∈ cells, cell ≠ .null)
    (seen : Evidence) (type : ColumnType) :
    (cells.foldl observe seen).allows type = true ↔
      seen.allows type = true ∧ ∀ cell ∈ cells, Fits type cell := by
  induction cells generalizing seen with
  | nil => simp
  | cons cell cells ih =>
      rw [List.forall_mem_cons] at filled
      rw [List.foldl_cons, ih filled.2, seen.allows_observe filled.1, List.forall_mem_cons,
        and_assoc]

/-- The type for which there is evidence is the first that is allowed. -/
theorem find?_allows (seen : Evidence) :
    widening.find? seen.allows = some (ofEvidence seen) := by
  rcases seen with ⟨_ | _, _ | _, _ | _, _ | _⟩ <;> rfl

theorem eq_of_allows {seen other : Evidence}
    (same : ∀ type ∈ widening, seen.allows type = other.allows type) : seen = other := by
  have boolean : seen.boolean = other.boolean := same .boolean (by decide)
  have integer : seen.integer = other.integer := same .integer (by decide)
  have float : seen.float = other.float := same .float (by decide)
  have date : seen.date = other.date := same .date (by decide)
  cases seen
  cases other
  simp_all

end Evidence

/-! ## Columns -/

variable {cells others : List Cell}

/-- The cells that are not blank. -/
def filledOf (cells : List Cell) : List Cell :=
  cells.filter fun cell => !cell.isBlank

theorem mem_filledOf {cell : Cell} :
    cell ∈ filledOf cells ↔ cell ∈ cells ∧ cell.isBlank = false := by
  simp [filledOf]

theorem ne_null_of_mem_filledOf : ∀ cell ∈ filledOf cells, cell ≠ .null := by
  rintro cell member rfl
  cases (mem_filledOf.1 member).2

theorem filledOf_eq_nil_iff : filledOf cells = [] ↔ ∀ cell ∈ cells, cell.isBlank = true := by
  simp [filledOf]

theorem infer_of_blank (blank : filledOf cells = []) : infer cells = unknown := by
  rw [filledOf] at blank
  rw [infer, blank]

theorem infer_of_filled (filled : filledOf cells ≠ []) :
    infer cells = ofEvidence ((filledOf cells).foldl Evidence.observe .start) := by
  rw [filledOf] at filled ⊢
  rw [infer]
  split
  next blank => exact absurd blank filled
  next => rfl

/-- The evidence of a column allows the types that all of it fits. -/
theorem allows_iff_fitsAll (cells : List Cell) {type : ColumnType} (member : type ∈ widening) :
    ((filledOf cells).foldl Evidence.observe .start).allows type = true ↔
      FitsAll type cells := by
  have started : Evidence.start.allows type = true := by
    simp only [widening, List.mem_cons, List.not_mem_nil, or_false] at member
    rcases member with rfl | rfl | rfl | rfl | rfl <;> rfl
  rw [Evidence.allows_foldl _ ne_null_of_mem_filledOf]
  simp only [started, true_and, mem_filledOf, and_imp, FitsAll]

theorem ofEvidence_ne_unknown (seen : Evidence) : ofEvidence seen ≠ unknown := by
  have member := List.mem_of_find?_eq_some seen.find?_allows
  intro isUnknown
  rw [isUnknown] at member
  simp [widening] at member

theorem infer_eq_unknown_iff :
    infer cells = unknown ↔ ∀ cell ∈ cells, cell.isBlank = true := by
  rw [← filledOf_eq_nil_iff]
  constructor
  · intro isUnknown
    by_contra filled
    rw [infer_of_filled filled] at isUnknown
    exact ofEvidence_ne_unknown _ isUnknown
  · exact infer_of_blank

/-- The first of the types that the cells of a column fit. -/
theorem exists_widening_eq (filled : filledOf cells ≠ []) :
    ∃ before after, widening = before ++ infer cells :: after ∧
      FitsAll (infer cells) cells ∧ ∀ type ∈ before, ¬ FitsAll type cells := by
  have first := Evidence.find?_allows ((filledOf cells).foldl Evidence.observe .start)
  rw [← infer_of_filled filled, List.find?_eq_some_iff_append] at first
  obtain ⟨allowed, before, after, parted, others⟩ := first
  have inside : infer cells ∈ widening := by simp [parted]
  refine ⟨before, after, parted, (allows_iff_fitsAll cells inside).1 allowed, ?_⟩
  intro type earlier fits
  have member : type ∈ widening := by simp [parted, earlier]
  have allowed := (allows_iff_fitsAll cells member).2 fits
  have notAllowed := others type earlier
  rw [allowed] at notAllowed
  cases notAllowed

theorem fitsAll_congr (same : ∀ cell, cell ∈ filledOf cells ↔ cell ∈ filledOf others)
    (type : ColumnType) : FitsAll type cells ↔ FitsAll type others := by
  simp only [mem_filledOf] at same
  constructor
  · intro fits cell member filled
    exact fits cell ((same cell).2 ⟨member, filled⟩).1 filled
  · intro fits cell member filled
    exact fits cell ((same cell).1 ⟨member, filled⟩).1 filled

/-- Columns in which the same cells occur that are not blank have one type. -/
theorem infer_congr (same : ∀ cell, cell ∈ filledOf cells ↔ cell ∈ filledOf others) :
    infer cells = infer others := by
  by_cases blank : filledOf others = []
  · have alsoBlank : filledOf cells = [] := by
      simpa [blank, List.eq_nil_iff_forall_not_mem] using same
    rw [infer_of_blank blank, infer_of_blank alsoBlank]
  · have alsoFilled : filledOf cells ≠ [] := by
      intro alsoBlank
      exact blank (by simpa [alsoBlank, List.eq_nil_iff_forall_not_mem] using same)
    rw [infer_of_filled blank, infer_of_filled alsoFilled]
    refine congrArg ofEvidence (Evidence.eq_of_allows fun type member => ?_)
    rw [Bool.eq_iff_iff, allows_iff_fitsAll cells member, allows_iff_fitsAll others member]
    exact fitsAll_congr same type

/-- The type of a column is unknown if there is nothing but blank cells in it, and otherwise the
first of the types from narrow to wide that all other cells fit. So it is not changed by putting
the cells in another order and blank ones anywhere among them. -/
theorem infer_eq_narrowest (cells : List Cell) :
    (infer cells = unknown ↔ ∀ cell ∈ cells, cell.isBlank = true) ∧
      ((∃ cell ∈ cells, cell.isBlank = false) →
        ∃ before after, widening = before ++ infer cells :: after ∧
          FitsAll (infer cells) cells ∧ ∀ type ∈ before, ¬ FitsAll type cells) ∧
      ∀ blanks others : List Cell, (∀ cell ∈ blanks, cell.isBlank = true) →
        others.Perm (cells ++ blanks) → infer others = infer cells := by
  refine ⟨infer_eq_unknown_iff, ?_, ?_⟩
  · rintro ⟨cell, member, filled⟩
    exact exists_widening_eq (List.ne_nil_of_mem (mem_filledOf.2 ⟨member, filled⟩))
  · intro blanks others blank permuted
    refine infer_congr fun cell => ?_
    rw [mem_filledOf, mem_filledOf, permuted.mem_iff, List.mem_append]
    constructor
    · rintro ⟨member | added, filled⟩
      · exact ⟨member, filled⟩
      · rw [blank cell added] at filled
        cases filled
    · rintro ⟨member, filled⟩
      exact ⟨Or.inl member, filled⟩

/-- A column of a number and a text. -/
def amounts : List Cell := [.number 3, .text " +12 "]

/-- The same cells in another order, with blank ones among them. -/
def scattered : List Cell := [.text "  ", .text " +12 ", .null, .number 3]

/-- The text keeps the column from being one of truth values, and a number without a fraction
leaves it one of integers. -/
theorem infer_eq_narrowest_amounts :
    (∃ cell ∈ amounts, cell.isBlank = false) ∧
      (∀ cell ∈ [Cell.null, .text "  "], cell.isBlank = true) ∧
      scattered.Perm (amounts ++ [.null, .text "  "]) ∧
      FitsAll integer amounts ∧ ¬ FitsAll boolean amounts ∧
      infer amounts = integer ∧ infer scattered = integer := by
  have filled : ∃ cell ∈ amounts, cell.isBlank = false := ⟨_, List.mem_cons_self, rfl⟩
  have blank : ∀ cell ∈ [Cell.null, .text "  "], cell.isBlank = true := by decide
  have permuted : scattered.Perm (amounts ++ [.null, .text "  "]) := by decide
  have type : infer amounts = integer := by decide
  obtain ⟨-, first, stays⟩ := infer_eq_narrowest amounts
  obtain ⟨before, after, parted, fits, earlier⟩ := first filled
  rw [type] at parted fits
  have notFirst : boolean ∈ before := by
    cases before with
    | nil => cases parted
    | cons type before =>
        obtain ⟨rfl, -⟩ := List.cons.inj parted
        exact List.mem_cons_self
  exact ⟨filled, blank, permuted, fits, earlier _ notFirst, type,
    (stays _ scattered blank permuted).trans type⟩

end ColumnType
end ColumnChain
