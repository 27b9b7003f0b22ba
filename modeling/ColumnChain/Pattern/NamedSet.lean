import ColumnChain.Text.Age
import ColumnChain.Text.Boundary
import ColumnChain.Text.Casing
import ColumnChain.Text.Script

/-!
# Named sets of patterns

The sets of characters that a pattern can name. They are looked up by any of their names,
in which letter case, blanks, hyphens, underscores and a leading `is` do not count.
-/

namespace ColumnChain.Pattern

open Text (CharSet NamedSets Ranges)

/-- A name without what does not count in it. The name `isc` is not that of `c`. -/
def looseName (name : List Char) : List Char :=
  let bare (name : List Char) :=
    (name.filter fun c => c.toNat < 128 && c != ' ' && c != '_' && c != '-').map Char.toLower
  match name with
  | i :: s :: rest =>
      if i.toLower = 'i' ∧ s.toLower = 's' then
        if bare rest = ['c'] then ['i', 's', 'c'] else bare rest
      else bare name
  | _ => bare name

/-- A set by its loose names. Its ranges are worked out once, when they are first asked
for. -/
structure Entry where
  names : List (List Char)
  ranges : Thunk Ranges

/-- Entries for named sets. -/
def entries (sets : NamedSets) : List Entry :=
  sets.map fun (names, set) =>
    ⟨names.map fun name => looseName name.toList, ⟨fun _ => set.toRanges⟩⟩

/-- Find a set by one of its names. -/
def lookup? (entries : List Entry) (name : List Char) : Option Ranges :=
  let loose := looseName name
  (entries.find? fun entry => entry.names.contains loose).map fun entry => entry.ranges.get

/-- The sets with a name alone: of properties, categories and scripts. -/
def plainEntries : List Entry :=
  entries (Text.properties ++ Text.categories ++ Text.scripts)

/-- The set with a name alone. -/
def namedSet? (name : List Char) : Option Ranges :=
  lookup? plainEntries name

/-- The properties that have values, by name, and the sets of their values. -/
def valuedEntries : List (List (List Char) × List Entry) :=
  [(["gc", "generalcategory"], Text.categories),
    (["sc", "script"], Text.scripts),
    (["scx", "scriptextensions"], Text.scriptExtensions),
    (["age"], Text.ages),
    (["gcb", "graphemeclusterbreak"], Text.graphemeBreaks),
    (["wb", "wordbreak"], Text.wordBreaks),
    (["sb", "sentencebreak"], Text.sentenceBreaks)].map fun (names, sets) =>
      (names.map String.toList, entries sets)

/-- The set of a property with a value. -/
def valuedSet? (property value : List Char) : Option Ranges :=
  let loose := looseName property
  (valuedEntries.find? fun (names, _) => names.contains loose).bind fun (_, entries) =>
    lookup? entries value

/-- Decimal digits. -/
def digits : Ranges :=
  (Text.category "Nd").toRanges

/-- Blanks. -/
def blanks : Ranges :=
  Text.whiteSpace.toRanges

/-- The characters of words: letters, marks, decimal digits, connectors and joiners. -/
def wordCharacters : Ranges :=
  (Text.alphabetic ∪ Text.joinControl ∪ Text.marks ∪ Text.categoriesOf ["Nd", "Pc"]).toRanges

/-- The classes that can be named in brackets. They hold ASCII characters only. -/
def asciiClasses : List (String × Ranges) :=
  [("alnum", [(0x30, 0x39), (0x41, 0x5A), (0x61, 0x7A)]),
    ("alpha", [(0x41, 0x5A), (0x61, 0x7A)]),
    ("ascii", [(0x00, 0x7F)]),
    ("blank", [(0x09, 0x09), (0x20, 0x20)]),
    ("cntrl", [(0x00, 0x1F), (0x7F, 0x7F)]),
    ("digit", [(0x30, 0x39)]),
    ("graph", [(0x21, 0x7E)]),
    ("lower", [(0x61, 0x7A)]),
    ("print", [(0x20, 0x7E)]),
    ("punct", [(0x21, 0x2F), (0x3A, 0x40), (0x5B, 0x60), (0x7B, 0x7E)]),
    ("space", [(0x09, 0x0D), (0x20, 0x20)]),
    ("upper", [(0x41, 0x5A)]),
    ("word", [(0x30, 0x39), (0x41, 0x5A), (0x5F, 0x5F), (0x61, 0x7A)]),
    ("xdigit", [(0x30, 0x39), (0x41, 0x46), (0x61, 0x66)])]

/-- The members of the class with this name in brackets. -/
def asciiClass (name : String) : Ranges :=
  ((asciiClasses.find? fun (other, _) => other == name).map Prod.snd).getD []

end ColumnChain.Pattern
