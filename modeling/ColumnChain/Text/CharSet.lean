import ColumnChain.Text.Mapping

/-!
# Descriptions of character sets

Sets of characters as they are defined: by tables and by one another. The ranges of a set
are worked out where they are needed, so that naming many sets costs nothing.
-/

namespace ColumnChain.Text

/-- The description of a set of characters. -/
inductive CharSet where
  | ranges (members : Ranges)
  /-- The ranges written in a table. -/
  | table (text : String)
  /-- The characters that tables of runs and of expansions replace. -/
  | replaced (runs expansions : String)
  | union (left right : CharSet)
  | common (left right : CharSet)
  | without (left right : CharSet)
  | complement (set : CharSet)

namespace CharSet

instance : Union CharSet := ⟨union⟩
instance : Inter CharSet := ⟨common⟩
instance : SDiff CharSet := ⟨without⟩

/-- The characters from one code to another. -/
def range (first last : Nat) : CharSet :=
  ranges [(first, last)]

/-- The set without members. -/
def empty : CharSet :=
  ranges []

/-- The union of many sets. -/
def ofList (sets : List CharSet) : CharSet :=
  sets.foldl union empty

/-- The ranges of a set. -/
def toRanges : CharSet → Ranges
  | .ranges members => members.normal
  | .table text => (Ranges.ofTable text).normal
  | .replaced runs expansions =>
      Ranges.normal ((Run.ofTable runs).flatMap Run.sources ++
        Ranges.ofCodes ((Expansions.ofTable expansions).map Prod.fst))
  | .union left right => left.toRanges.union right.toRanges
  | .common left right => left.toRanges.common right.toRanges
  | .without left right => left.toRanges.without right.toRanges
  | .complement set => set.toRanges.complement

end CharSet

/-- Sets with all the names each of them goes by. -/
abbrev NamedSets := List (List String × CharSet)

end ColumnChain.Text
