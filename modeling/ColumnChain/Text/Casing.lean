import ColumnChain.Text.CaseTable
import ColumnChain.Text.CharClass

/-!
# Letter case

Full upper-case and lower-case mappings of text: a character may become several, and a
capital sigma at the end of a word becomes a final sigma. Characters are also grouped
into the classes that simple case folding identifies. ASCII needs no table.
-/

namespace ColumnChain.Text

/-- Runs and expansions of the upper-case mapping. -/
def upperRuns : List Run := Run.ofTable CaseTable.upperRuns

@[inherit_doc upperRuns]
def upperExpansions : Expansions := Expansions.ofTable CaseTable.upperExpansions

/-- Runs and expansions of the lower-case mapping. -/
def lowerRuns : List Run := Run.ofTable CaseTable.lowerRuns

@[inherit_doc lowerRuns]
def lowerExpansions : Expansions := Expansions.ofTable CaseTable.lowerExpansions

/-- Runs of simple case folding. -/
def foldRuns : List Run := Run.ofTable CaseTable.foldRuns

/-- Map a character beyond ASCII by its tables. -/
def mapByTables (runs : List Run) (expansions : Expansions) (c : Char) : List Char :=
  match runs.find? (·.covers c.toNat) with
  | some run => [Char.ofNat (run.apply c.toNat)]
  | none =>
      match expansions.find? (·.1 == c.toNat) with
      | some (_, replacement) => replacement
      | none => [c]

/-- The upper-case form of a character. -/
def upperChar (c : Char) : List Char :=
  if c.toNat < 128 then [c.toUpper] else mapByTables upperRuns upperExpansions c

/-- The lower-case form of a character outside its context. -/
def lowerChar (c : Char) : List Char :=
  if c.toNat < 128 then [c.toLower] else mapByTables lowerRuns lowerExpansions c

/-- Upper-case text. -/
def upper (text : List Char) : List Char :=
  text.flatMap upperChar

/-- Whether the nearest character that matters is a cased letter. -/
def startsCased (text : List Char) : Bool :=
  match text.dropWhile isCaseIgnorable with
  | c :: _ => isCased c
  | [] => false

/-- Lower-case text whose preceding characters, nearest first, are `before`. -/
def lowerAfter (before : List Char) : List Char → List Char
  | [] => []
  | c :: rest =>
      let mapped :=
        if c = 'Σ' then
          if startsCased before && !startsCased rest then ['ς'] else ['σ']
        else lowerChar c
      mapped ++ lowerAfter (c :: before) rest

/-- Lower-case text. -/
def lower (text : List Char) : List Char :=
  lowerAfter [] text

/-- `upper` on strings. -/
def uppercased (text : String) : String :=
  String.ofList (upper text.toList)

/-- `lower` on strings. -/
def lowercased (text : String) : String :=
  String.ofList (lower text.toList)

/-- The representative of a character under simple case folding. -/
def foldChar (c : Char) : Char :=
  match foldRuns.find? (·.covers c.toNat) with
  | some run => Char.ofNat (run.apply c.toNat)
  | none => c

/-- Every character that simple case folding identifies with this one. -/
def foldClass (c : Char) : List Char :=
  let target := foldChar c
  let sources := foldRuns.filterMap fun run =>
    let source := ((target.toNat : Int) - run.shift).toNat
    if run.covers source then some (Char.ofNat source) else none
  target :: sources

/-- Characters that simple case folding identifies, as pairs in the order of the first. -/
def foldNeighbours : List (Nat × Nat) :=
  let pairs := (foldRuns.flatMap Run.pairs).flatMap fun (source, target) =>
    (target, source) :: (((foldClass (Char.ofNat source)).map Char.toNat).filter
      (· != source)).map fun other => (source, other)
  pairs.mergeSort fun left right => left.1 ≤ right.1

/-- The pairs whose first code is a member of a set; pairs and ranges are in order. -/
def pairsWithin : List (Nat × Nat) → Ranges → List (Nat × Nat)
  | [], _ | _, [] => []
  | (code, other) :: pairs, (first, last) :: ranges =>
      if code < first then pairsWithin pairs ((first, last) :: ranges)
      else if code ≤ last then (code, other) :: pairsWithin pairs ((first, last) :: ranges)
      else pairsWithin ((code, other) :: pairs) ranges
termination_by pairs ranges => pairs.length + ranges.length

/-- A set with every character that simple case folding identifies with a member. -/
def foldClosed (set : Ranges) : Ranges :=
  let others := (pairsWithin foldNeighbours set.normal).map Prod.snd
  set.union (Ranges.ofCodes others)

/-- A set with both cases of every ASCII letter among its members. -/
def foldClosedAscii (set : Ranges) : Ranges :=
  set.union (Ranges.ofCodes ((List.range 26).flatMap fun place =>
    let capital := 'A'.toNat + place
    let small := 'a'.toNat + place
    if set.contains capital || set.contains small then [capital, small] else []))

/-- Equality of texts up to the case of ASCII letters. -/
def equalIgnoringAsciiCase (left right : List Char) : Bool :=
  left.map Char.toLower == right.map Char.toLower

end ColumnChain.Text
