import ColumnChain.Text.AgeTable
import ColumnChain.Text.CharSet

/-!
# Ages

The characters that an edition of the Unicode standard knows: those it assigned first and
those of the editions before it.
-/

namespace ColumnChain.Text

/-- The characters of editions, oldest first, where `before` are those known before. -/
def agesFrom (before : CharSet) : List (List String × String) → NamedSets
  | [] => []
  | (names, text) :: later =>
      let known := before ∪ .table text
      (names, known) :: agesFrom known later

/-- The characters known to the editions, by their names. -/
def ages : NamedSets :=
  agesFrom .empty AgeTable.ages

end ColumnChain.Text
