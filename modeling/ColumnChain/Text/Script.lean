import ColumnChain.Text.CharSet
import ColumnChain.Text.ScriptTable

/-!
# Scripts

The script that a character belongs to, and the scripts that it is used in. A character
that particular scripts share counts for each of these, and no longer as common or
inherited.
-/

namespace ColumnChain.Text

/-- The scripts by name. -/
def scripts : NamedSets :=
  ScriptTable.scripts.map fun (names, text) => (names, .table text)

/-- The characters that particular scripts share. -/
def sharedCharacters : CharSet :=
  .ofList (ScriptTable.shared.map fun (_, text) => .table text)

/-- The characters in use in the scripts, by name. -/
def scriptExtensions : NamedSets :=
  ScriptTable.scripts.map fun (names, text) =>
    let own := CharSet.table text
    let name := names.headD ""
    if name = "Zyyy" ∨ name = "Zinh" then (names, own \ sharedCharacters)
    else match ScriptTable.shared.find? fun (other, _) => other == name with
      | some (_, more) => (names, own ∪ .table more)
      | none => (names, own)

end ColumnChain.Text
