import ColumnChain.Text.Table

/-!
# Ranges of characters

Sets of characters as lists of the ranges of their codes. The operations give ranges in
order, none of which overlaps or touches the next, so that the size of a set can be read
off the list. Bringing ranges into this form keeps their members (`contains_normal`), and
so a union has the members of both sides (`contains_union`).
-/

namespace ColumnChain.Text

/-- A set of characters, as the ranges of their codes, with both ends included. -/
abbrev Ranges := List (Nat × Nat)

namespace Ranges

/-- Whether a code lies in one of the ranges. -/
def contains (ranges : Ranges) (code : Nat) : Bool :=
  ranges.any fun (first, last) => first ≤ code && code ≤ last

/-- Whether a character lies in one of the ranges. -/
def holds (ranges : Ranges) (c : Char) : Bool :=
  ranges.contains c.toNat

@[simp] theorem contains_append (left right : Ranges) (code : Nat) :
    contains (left ++ right) code = (left.contains code || right.contains code) := by
  simp [contains, List.any_append]

/-- The set of one character. -/
def single (c : Char) : Ranges :=
  [(c.toNat, c.toNat)]

theorem contains_single (c : Char) : (single c).contains c.toNat = true := by
  simp [single, contains]

/-- The set of some codes. -/
def ofCodes (codes : List Nat) : Ranges :=
  codes.map fun code => (code, code)

/-- The last code of a character. -/
def lastCode : Nat := 0x10FFFF

/-- Every character. -/
def everything : Ranges := [(0, lastCode)]

/-- Join ranges that overlap or touch; they are in the order of their first codes. -/
def joined : Ranges → Ranges
  | first :: second :: rest =>
      if second.1 ≤ first.2 + 1 then joined ((first.1, max first.2 second.2) :: rest)
      else first :: joined (second :: rest)
  | ranges => ranges
termination_by ranges => ranges.length

theorem contains_joined {ranges : Ranges} {code : Nat}
    (ordered : ranges.Pairwise fun left right => left.1 ≤ right.1) :
    (joined ranges).contains code = ranges.contains code := by
  fun_induction joined ranges with
  | case1 first second rest touches ih =>
      obtain ⟨least, others⟩ := List.pairwise_cons.1 ordered
      have start := least second (by simp)
      rw [ih (List.pairwise_cons.2 ⟨fun range member => least range (by simp [member]),
        (List.pairwise_cons.1 others).2⟩)]
      simp only [contains, List.any_cons, ← Bool.or_assoc]
      congr 1
      rw [Bool.eq_iff_iff]
      simp only [Bool.and_eq_true, Bool.or_eq_true, decide_eq_true_eq]
      omega
  | case2 first second rest _ ih =>
      have others := ih (List.pairwise_cons.1 ordered).2
      simp only [contains] at others
      simp [contains, others]
  | case3 => rfl

/-- The same set with its ranges in order and as few as possible. -/
def normal (ranges : Ranges) : Ranges :=
  joined (ranges.mergeSort fun left right => left.1 ≤ right.1)

theorem contains_normal (ranges : Ranges) (code : Nat) :
    (normal ranges).contains code = ranges.contains code := by
  rw [normal, contains_joined]
  · exact (List.mergeSort_perm ..).any_eq
  · have sorted := @List.pairwise_mergeSort _ (fun left right : Nat × Nat => left.1 ≤ right.1)
      (fun _ _ _ => by simp; omega) (fun _ _ => by simp; omega) ranges
    simpa using sorted

/-- The members of one of two sets. -/
def union (left right : Ranges) : Ranges :=
  normal (left ++ right)

@[simp] theorem contains_union (left right : Ranges) (code : Nat) :
    (union left right).contains code = (left.contains code || right.contains code) := by
  rw [union, contains_normal, contains_append]

/-- The codes from `next` on that lie between the ranges, which are in order. -/
def gaps (next : Nat) : Ranges → Ranges
  | [] => if next ≤ lastCode then [(next, lastCode)] else []
  | (first, last) :: rest =>
      if next < first then (next, first - 1) :: gaps (last + 1) rest
      else gaps (last + 1) rest

/-- The characters outside a set. The surrogates are codes of no character. -/
def complement (ranges : Ranges) : Ranges :=
  (gaps 0 (normal ranges)).filter fun (first, last) => !(0xD800 ≤ first && last ≤ 0xDFFF)

/-- The members of both of two sets. -/
def common (left right : Ranges) : Ranges :=
  complement (union (complement left) (complement right))

/-- The members of the first of two sets only. -/
def without (left right : Ranges) : Ranges :=
  common left (complement right)

/-- The members of exactly one of two sets. -/
def either (left right : Ranges) : Ranges :=
  union (without left right) (without right left)

/-- Whether every member is an ASCII character. -/
def isAscii (ranges : Ranges) : Bool :=
  ranges.all fun (_, last) => last < 128

/-- Read the first and the last code of a range; a single code is the range of itself. -/
def bounds? (text : List Char) : Option (Nat × Nat) :=
  match pieces '-' text with
  | [single] => (hexadecimal? single).map fun code => (code, code)
  | [first, last] => do
      let first ← hexadecimal? first
      let last ← hexadecimal? last
      return (first, last)
  | _ => none

/-- Every so many-th code of a range. -/
def stepped (first last step : Nat) : Ranges :=
  ofCodes ((List.range ((last - first) / step + 1)).map fun place => first + place * step)

/-- Read an entry of a table: a range, or a range with a step. -/
def ofEntry (text : List Char) : Ranges :=
  match pieces '/' text with
  | [range, step] =>
      match bounds? range with
      | some (first, last) => stepped first last (decimal step)
      | none => []
  | _ => (bounds? text).toList

/-- Read a table of ranges. -/
def ofTable (table : String) : Ranges :=
  (tableEntries table).flatMap ofEntry

end Ranges

end ColumnChain.Text
