import ColumnChain.Evaluation
import ColumnChain.Proofs.Integers

/-!
# The pieces of a text

A text is cut at a delimiter in one way, whether its pieces are wanted or something else is put
in the place of the delimiter: the pieces joined with the delimiter are the text, none of them
contains it, and joined with another text they are what replacing gives.
-/

namespace ColumnChain

namespace Text

variable {delimiter : List Char}

/-! ## Cutting step by step -/

theorem splitAfter_eq (delimiter : List Char) (skip : ℕ) (text : List Char) :
    splitAfter delimiter skip text = split delimiter (text.drop skip) := by
  induction text generalizing skip with
  | nil => cases skip <;> rfl
  | cons c rest ih =>
      cases skip with
      | zero => rfl
      | succ skip => exact ih skip

theorem replaceAfter_eq (delimiter replacement : List Char) (skip : ℕ) (text : List Char) :
    replaceAfter delimiter replacement skip text =
      replace delimiter replacement (text.drop skip) := by
  induction text generalizing skip with
  | nil => cases skip <;> rfl
  | cons c rest ih =>
      cases skip with
      | zero => rfl
      | succ skip => exact ih skip

/-- A text is empty, or starts with the delimiter, or starts with a character at which the
delimiter does not start. -/
theorem cutting_induction {motive : List Char → Prop} (apart : delimiter ≠ [])
    (nil : motive [])
    (found : ∀ rest, motive rest → motive (delimiter ++ rest))
    (kept : ∀ c rest, ¬ delimiter <+: c :: rest → motive rest → motive (c :: rest))
    (text : List Char) : motive text := by
  induction length : text.length using Nat.strong_induction_on generalizing text with
  | h n ih =>
      cases text with
      | nil => exact nil
      | cons c rest =>
          by_cases here : delimiter <+: c :: rest
          · obtain ⟨after, same⟩ := here
            have positive := List.length_pos_iff.2 apart
            have total := congrArg List.length same
            rw [List.length_append] at total
            rw [← same]
            exact found after (ih after.length (by omega) after rfl)
          · exact kept c rest here (ih rest.length (by simp [← length]) rest rfl)

section Steps

variable {c : Char} {rest : List Char} (replacement : List Char)

theorem split_found (apart : delimiter ≠ []) (rest : List Char) :
    split delimiter (delimiter ++ rest) = [] :: split delimiter rest := by
  cases delimiter with
  | nil => exact absurd rfl apart
  | cons d delimiter =>
      have here : (d :: delimiter).isPrefixOf (d :: (delimiter ++ rest)) = true := by simp
      rw [List.cons_append, split, splitAfter, if_pos here, splitAfter_eq]
      simp

theorem split_kept (notHere : ¬ delimiter <+: c :: rest) :
    split delimiter (c :: rest) = extendFirst c (split delimiter rest) := by
  rw [split, splitAfter, if_neg (by simpa using notHere)]
  rfl

theorem replace_found (apart : delimiter ≠ []) (rest : List Char) :
    replace delimiter replacement (delimiter ++ rest) =
      replacement ++ replace delimiter replacement rest := by
  cases delimiter with
  | nil => exact absurd rfl apart
  | cons d delimiter =>
      have here : (d :: delimiter).isPrefixOf (d :: (delimiter ++ rest)) = true := by simp
      rw [List.cons_append, replace, replaceAfter, if_pos here, replaceAfter_eq]
      simp

theorem replace_kept (notHere : ¬ delimiter <+: c :: rest) :
    replace delimiter replacement (c :: rest) =
      c :: replace delimiter replacement rest := by
  rw [replace, replaceAfter, if_neg (by simpa using notHere)]
  rfl

end Steps

/-! ## What the pieces are -/

theorem intercalate_extendFirst (separator : List Char) (c : Char) {pieces : List (List Char)}
    (some : pieces ≠ []) :
    separator.intercalate (extendFirst c pieces) = c :: separator.intercalate pieces := by
  cases pieces with
  | nil => exact absurd rfl some
  | cons piece pieces => cases pieces <;> simp [extendFirst]

section Pieces

variable (apart : delimiter ≠ [])
include apart

/-- Replacing puts something else between the pieces. -/
theorem replace_eq_intercalate (replacement text : List Char) :
    replace delimiter replacement text = replacement.intercalate (split delimiter text) := by
  induction text using cutting_induction apart with
  | nil => rfl
  | found rest ih =>
      rw [replace_found replacement apart, split_found apart,
        List.intercalate_cons_of_ne_nil (split_ne_nil delimiter rest), List.nil_append, ih]
  | kept c rest notHere ih =>
      rw [replace_kept replacement notHere, split_kept notHere,
        intercalate_extendFirst replacement c (split_ne_nil delimiter rest), ih]

/-- What is replaced by itself stays. -/
theorem replace_self (text : List Char) : replace delimiter delimiter text = text := by
  induction text using cutting_induction apart with
  | nil => rfl
  | found rest ih => rw [replace_found delimiter apart, ih]
  | kept c rest notHere ih => rw [replace_kept delimiter notHere, ih]

theorem intercalate_split (text : List Char) :
    delimiter.intercalate (split delimiter text) = text := by
  rw [← replace_eq_intercalate apart, replace_self apart]

/-- The first piece is what the text starts with, and no piece contains the delimiter. -/
theorem split_pieces (text : List Char) :
    (∀ piece ∈ (split delimiter text).head?, piece <+: text) ∧
      ∀ piece ∈ split delimiter text, ¬ delimiter <:+: piece := by
  have notInNil : ¬ delimiter <:+: [] := fun inside => apart (List.infix_nil.1 inside)
  induction text using cutting_induction apart with
  | nil => simp [split, splitAfter, apart]
  | found rest ih =>
      rw [split_found apart]
      exact ⟨by simp, List.forall_mem_cons.2 ⟨notInNil, ih.2⟩⟩
  | kept c rest notHere ih =>
      rw [split_kept notHere]
      cases pieces : split delimiter rest with
      | nil => exact absurd pieces (split_ne_nil delimiter rest)
      | cons piece others =>
          rw [pieces] at ih
          have first : c :: piece <+: c :: rest := List.cons_prefix_cons.2 ⟨rfl, ih.1 piece rfl⟩
          have notInFirst : ¬ delimiter <:+: c :: piece := by
            rw [List.infix_cons_iff]
            rintro (here | later)
            · exact notHere (here.trans first)
            · exact ih.2 piece List.mem_cons_self later
          refine ⟨?_, ?_⟩
          · rintro _ ⟨⟩
            exact first
          · rintro other (_ | ⟨_, member⟩)
            · exact notInFirst
            · exact ih.2 other (List.mem_cons_of_mem _ member)

end Pieces

/-! ## Pieces by their places -/

/-- The piece at a place, and nothing past the last one. -/
def piece (delimiter text : String) (place : ℕ) : String :=
  String.ofList ((split delimiter.toList text.toList).getD place [])

/-- The place of the last piece. -/
def lastPlace (delimiter text : String) : ℕ :=
  (split delimiter.toList text.toList).length - 1

/-- The pieces in their order. -/
def cut (delimiter text : String) : List String :=
  (List.range (lastPlace delimiter text + 1)).map (piece delimiter text)

section Places

variable (delimiter text : String)

theorem lastPlace_add_one :
    lastPlace delimiter text + 1 = (split delimiter.toList text.toList).length := by
  have some := List.length_pos_iff.2 (split_ne_nil delimiter.toList text.toList)
  rw [lastPlace]
  omega

theorem map_toList_cut :
    (cut delimiter text).map String.toList = split delimiter.toList text.toList := by
  apply List.ext_getElem
  · simp [cut, lastPlace_add_one]
  · intro place _ inside
    simp [cut, piece, inside]

theorem piece_of_lt {place : ℕ} (past : lastPlace delimiter text < place) :
    piece delimiter text place = "" := by
  have outside : (split delimiter.toList text.toList).length ≤ place := by
    rw [← lastPlace_add_one]
    exact past
  rw [piece, List.getD_eq_default _ _ outside]

variable (apart : delimiter ≠ "")
include apart

theorem not_infix_piece (place : ℕ) :
    ¬ delimiter.toList <:+: (piece delimiter text place).toList := by
  have some : delimiter.toList ≠ [] := by simpa using apart
  rw [piece, String.toList_ofList]
  by_cases inside : place < (split delimiter.toList text.toList).length
  · rw [List.getD_eq_getElem _ _ inside]
    exact (split_pieces some text.toList).2 _ (List.getElem_mem inside)
  · rw [List.getD_eq_default _ _ (Nat.le_of_not_lt inside), List.infix_nil]
    exact some

/-- The pieces joined with a text are what replacing by this text gives. -/
theorem intercalate_cut (replacement : String) :
    (replacement.intercalate (cut delimiter text)).toList =
      replace delimiter.toList replacement.toList text.toList := by
  have some : delimiter.toList ≠ [] := by simpa using apart
  rw [String.toList_intercalate, map_toList_cut, replace_eq_intercalate some]

theorem intercalate_cut_self : delimiter.intercalate (cut delimiter text) = text := by
  have some : delimiter.toList ≠ [] := by simpa using apart
  rw [← String.toList_inj, String.toList_intercalate, map_toList_cut, intercalate_split some]

end Places

end Text

/-! ## Splitting and replacing in cells -/

namespace Function

/-- A text that stands for a pattern: something between slashes, followed by flags. -/
def IsPattern (text : List Char) : Prop :=
  ∃ pattern flags : List Char,
    text = '/' :: (pattern ++ '/' :: flags) ∧ pattern ≠ [] ∧ ∀ c ∈ flags, c = 'i'

/-- What is split off the last slash is the text without this slash. -/
theorem eq_of_splitAtLastSlash? {text pattern flags : List Char}
    (found : splitAtLastSlash? text = some (pattern, flags)) :
    text = pattern ++ '/' :: flags := by
  have parted : text.reverse =
      text.reverse.takeWhile (· != '/') ++ text.reverse.dropWhile (· != '/') :=
    List.takeWhile_append_dropWhile.symm
  have first := List.head?_dropWhile_not (· != '/') text.reverse
  simp only [splitAtLastSlash?] at found
  generalize text.reverse.takeWhile (· != '/') = last at parted found
  generalize text.reverse.dropWhile (· != '/') = others at parted first
  have joined : text = others.reverse ++ last.reverse := by
    rw [← List.reverse_append, ← parted, List.reverse_reverse]
  split at found
  next shorter =>
    cases others with
    | nil => simp [joined] at shorter
    | cons c others =>
        obtain rfl : c = '/' := by simpa using first
        cases found
        have before : text.length - last.reverse.length - 1 = others.reverse.length := by
          rw [joined]
          simp
          omega
        rw [before, joined, List.reverse_cons, List.append_assoc, List.take_left]
        rfl
  next => cases found

theorem patternLiteral?_eq_none {text : List Char} (literal : ¬ IsPattern text) :
    patternLiteral? text = none := by
  rw [Option.eq_none_iff_forall_ne_some]
  rintro ⟨pattern, ignoreCase⟩ found
  rw [patternLiteral?.eq_def] at found
  split at found
  next body =>
    obtain ⟨⟨start, flags⟩, cut, kept⟩ := Option.bind_eq_some_iff.1 found
    dsimp only at kept
    split at kept
    next filled =>
      simp only [Bool.and_eq_true, Bool.not_eq_true', List.isEmpty_eq_false_iff,
        List.all_eq_true, beq_iff_eq] at filled
      exact literal ⟨start, flags, congrArg _ (eq_of_splitAtLastSlash? cut), filled.1, filled.2⟩
    next => cases kept
  next => cases found

variable {context : Context} {cell delimiter : Cell}

theorem text?_eq_some (filled : cell ≠ .null) : cell.text? = some cell.toText := by
  cases cell with
  | null => exact absurd rfl filled
  | bool value => rfl
  | number value => rfl
  | text value => rfl

theorem split_eq (filled : cell ≠ .null) (apart : delimiter.toText ≠ "") {place : Cell} {i : ℕ}
    (whole : place.integerPart? = some (i : ℤ)) :
    Function.split context cell [delimiter, place] =
      some (.text (Text.piece delimiter.toText cell.toText i)) := by
  have text : textAt? [delimiter, place] 0 = some delimiter.toText.toList := rfl
  have number : integerAt? [delimiter, place] 1 = place.integerPart? := rfl
  have count : countAt? [delimiter, place] 1 = some i := by
    rw [countAt?, number, whole]
    simp
  rw [Function.split, text, Option.bind_some, count, Option.bind_some,
    if_neg (by simpa using apart), mapText, text?_eq_some filled, Option.map_some]
  rfl

theorem replace_eq (filled : cell ≠ .null) (apart : delimiter.toText ≠ "")
    (literal : ¬ IsPattern delimiter.toText.toList) (replacement : Cell) :
    Function.replace context cell [delimiter, replacement] =
      some (.text (replacement.toText.intercalate
        (Text.cut delimiter.toText cell.toText))) := by
  have text : textAt? [delimiter, replacement] 0 = some delimiter.toText.toList := rfl
  have other : textAt? [delimiter, replacement] 1 = some replacement.toText.toList := rfl
  rw [Function.replace, text, Option.bind_some, if_neg (by simpa using apart), other,
    patternLiteral?_eq_none literal]
  simp only [mapText, text?_eq_some filled, Option.map_some, Option.getD_some, ofChars]
  rw [← Text.intercalate_cut delimiter.toText cell.toText apart, String.ofList_toList]

end Function

namespace Engine

open ColumnChain.Function

variable (engine : Engine) (token : Token 8) {cell delimiter : Cell}

/-- `SPLIT` and `REPLACE` cut the text of a cell at the same places: into the pieces that joined
with the delimiter are the text, that do not contain it, and that joined with the replacement are
what is made of the text. Past the last piece there is nothing. -/
theorem splits_and_replaces_alike (filled : cell ≠ .null) (apart : delimiter.toText ≠ "")
    (literal : ¬ IsPattern delimiter.toText.toList) :
    ∃ (k : ℕ) (part : ℕ → String),
      (∀ (place : Cell) (i : ℕ), place.integerPart? = some (i : ℤ) →
        engine.apply token "SPLIT" cell [delimiter, place] = .text (part i)) ∧
      delimiter.toText.intercalate ((List.range (k + 1)).map part) = cell.toText ∧
      (∀ i, k < i → part i = "") ∧
      (∀ i, ¬ delimiter.toText.toList <:+: (part i).toList) ∧
      (∀ replacement : Cell, engine.apply token "REPLACE" cell [delimiter, replacement] =
        .text (replacement.toText.intercalate ((List.range (k + 1)).map part))) ∧
      engine.apply token "REPLACE" cell [delimiter, delimiter] = .text cell.toText := by
  have replaced (replacement : Cell) :
      engine.apply token "REPLACE" cell [delimiter, replacement] =
        .text (replacement.toText.intercalate (Text.cut delimiter.toText cell.toText)) :=
    congrArg (Option.getD · cell) (replace_eq filled apart literal replacement)
  refine ⟨Text.lastPlace delimiter.toText cell.toText, Text.piece delimiter.toText cell.toText,
    fun place i whole => ?_, Text.intercalate_cut_self _ _ apart,
    fun i past => Text.piece_of_lt _ _ past, Text.not_infix_piece _ _ apart, replaced, ?_⟩
  · exact congrArg (Option.getD · cell) (split_eq filled apart whole)
  · rw [replaced, Text.intercalate_cut_self _ _ apart]

/-- A text with overlapping slashes. -/
def slashes : Cell := .text "a////b///"

/-- Two slashes are no pattern, since there is nothing between them. The last piece is the slash
that is left over, and past it there is nothing. -/
theorem splits_and_replaces_alike_slashes :
    slashes ≠ .null ∧ (Cell.text "//").toText ≠ "" ∧ ¬ IsPattern (Cell.text "//").toText.toList ∧
      ∀ (engine : Engine) (token : Token 8), ∃ (k : ℕ) (part : ℕ → String),
        engine.apply token "SPLIT" slashes [.text "//", .text "3.9"] = .text (part 3) ∧
          (List.range 5).map part = ["a", "", "b", "/", ""] ∧
          "//".intercalate ((List.range (k + 1)).map part) = "a////b///" ∧
          engine.apply token "REPLACE" slashes [.text "//", .text "-"] =
            .text ("-".intercalate ((List.range (k + 1)).map part)) ∧
          engine.apply token "REPLACE" slashes [.text "//", .text "//"] = slashes := by
  have filled : slashes ≠ .null := by decide
  have apart : (Cell.text "//").toText ≠ "" := by decide
  have literal : ¬ IsPattern (Cell.text "//").toText.toList := by
    rintro ⟨pattern, flags, same, some, -⟩
    cases pattern with
    | nil => exact some rfl
    | cons c pattern =>
        have length := congrArg List.length same
        simp [Cell.toText] at length
  refine ⟨filled, apart, literal, fun engine token => ?_⟩
  obtain ⟨k, part, splits, joined, -, -, replaces, self⟩ :=
    engine.splits_and_replaces_alike token filled apart literal
  refine ⟨k, part, splits _ 3 (by decide +kernel), ?_, joined, replaces _, self⟩
  have parts : ∀ i ∈ List.range 5, part i = Text.piece "//" "a////b///" i := by
    intro i member
    have small : i < 5 := List.mem_range.1 member
    have whole : (ofInteger i).integerPart? = some (i : ℤ) := integerPart?_ofInteger (by omega)
    exact Cell.text.inj ((splits _ i whole).symm.trans
      (congrArg (Option.getD · slashes) (split_eq filled apart whole)))
  rw [List.map_congr_left parts]
  decide

end Engine
end ColumnChain
