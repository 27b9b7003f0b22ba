import ColumnChain.Text.CategoryTable
import ColumnChain.Text.CharSet

/-!
# General categories

The category of a character says in one word what it is: a capital letter, a decimal
digit, a currency sign. Categories with a common first letter form a group.
-/

namespace ColumnChain.Text

/-- The category with this short name. -/
def category (name : String) : CharSet :=
  match CategoryTable.categories.find? fun (names, _) => names.head? == some name with
  | some (_, text) => .table text
  | none => .empty

/-- The characters of some categories. -/
def categoriesOf (names : List String) : CharSet :=
  .ofList (names.map category)

/-- Letters, also those without case. -/
def letters : CharSet :=
  categoriesOf ["Lu", "Ll", "Lt", "Lm", "Lo"]

/-- Marks on other characters. -/
def marks : CharSet :=
  categoriesOf ["Mn", "Mc", "Me"]

/-- The characters that have been given a category. -/
def assigned : CharSet :=
  .ofList (CategoryTable.categories.map fun (_, text) => .table text)

/-- The codes that have not been given a category. -/
def unassigned : CharSet :=
  .complement assigned

/-- The categories and their groups by name. -/
def categories : NamedSets :=
  [(["L", "Letter"], letters),
    (["LC", "Cased_Letter"], categoriesOf ["Lu", "Ll", "Lt"]),
    (["M", "Mark", "Combining_Mark"], marks),
    (["N", "Number"], categoriesOf ["Nd", "Nl", "No"]),
    (["P", "Punctuation", "punct"], categoriesOf ["Pc", "Pd", "Ps", "Pe", "Pi", "Pf", "Po"]),
    (["S", "Symbol"], categoriesOf ["Sm", "Sc", "Sk", "So"]),
    (["Z", "Separator"], categoriesOf ["Zs", "Zl", "Zp"]),
    (["C", "Other"], categoriesOf ["Cc", "Cf", "Co"] ∪ unassigned),
    (["Cn", "Unassigned"], unassigned),
    (["Assigned"], assigned),
    (["Any"], .range 0 Ranges.lastCode),
    (["ASCII"], .range 0 0x7F)] ++
  CategoryTable.categories.map fun (names, text) => (names, .table text)

end ColumnChain.Text
