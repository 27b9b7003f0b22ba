import ColumnChain.Function.Basic
import ColumnChain.Pattern.Search
import ColumnChain.Text.Cutting

/-!
# Text functions

Functions on the text of a cell. Cells that are not text are worked on as displayed; an
empty cell has no text, and most functions have no answer for it. Lengths and places
count characters.
-/

namespace ColumnChain.Function

/-- A function on texts as a function on cells. -/
def mapText (f : List Char → List Char) (cell : Cell) : Option Cell :=
  cell.text?.map fun text => ofChars (f text.toList)

/-- `UPPERCASE`. -/
def uppercase : Scalar := fun _ cell _ =>
  mapText Text.upper cell

/-- `LOWERCASE`. -/
def lowercase : Scalar := fun _ cell _ =>
  mapText Text.lower cell

/-- The first character in upper case and the others in lower case, each by itself. -/
def capitalized : List Char → List Char
  | [] => []
  | c :: rest => Text.upperChar c ++ rest.flatMap Text.lowerChar

/-- `CAPITALIZE`. -/
def capitalize : Scalar := fun _ cell _ =>
  mapText capitalized cell

/-- Words capitalized; the flag tells whether a word may start here. -/
def titled : Bool → List Char → List Char
  | _, [] => []
  | starts, c :: rest =>
      if Text.isBlank c then c :: titled true rest
      else (if starts then Text.upperChar c else Text.lowerChar c) ++ titled false rest

/-- `TITLE_CASE`. -/
def titleCase : Scalar := fun _ cell _ =>
  mapText (titled true) cell

/-- `TRIM`. -/
def trim : Scalar := fun _ cell _ =>
  mapText Text.trim cell

/-- `REVERSE`. -/
def reverse : Scalar := fun _ cell _ =>
  mapText List.reverse cell

/-- `LENGTH`; an empty cell has length zero. -/
def length : Scalar := fun _ cell _ =>
  some (Cell.ofCount cell.toText.length)

/-- Whether a character can be seen or separates what can: neither a control character
nor one of the marks of direction, joining and byte order. -/
def isPrintable (c : Char) : Bool :=
  let code := c.toNat
  !(code < 0x20 || (0x7F ≤ code && code < 0xA0) || (0x200B ≤ code && code ≤ 0x200F) ||
    (0x2028 ≤ code && code ≤ 0x202E) || code == 0xFEFF)

/-- `CLEAN`. -/
def clean : Scalar := fun _ cell _ =>
  mapText (List.filter isPrintable) cell

/-- `REMOVE_SPACES`. -/
def removeSpaces : Scalar := fun _ cell _ =>
  mapText (List.filter fun c => !Text.isBlank c) cell

/-- `LEFT`. -/
def left : Scalar := fun _ cell args =>
  (countAt? args 0).bind fun count => mapText (List.take count) cell

/-- `RIGHT`. -/
def right : Scalar := fun _ cell args =>
  (countAt? args 0).bind fun count =>
    mapText (fun text => text.drop (text.length - count)) cell

/-- `SUBSTRING`. A length that is left out or blank is no limit. -/
def substring : Scalar := fun _ cell args =>
  (countAt? args 0).bind fun start =>
    match filledAt? args 1 with
    | none => mapText (List.drop start) cell
    | some _ =>
        (countAt? args 1).bind fun limit =>
          mapText (fun text => (text.drop start).take limit) cell

/-- Split off the last slash of a text. -/
def splitAtLastSlash? (text : List Char) : Option (List Char × List Char) :=
  let flags := (text.reverse.takeWhile (· != '/')).reverse
  if flags.length < text.length then
    some (text.take (text.length - flags.length - 1), flags)
  else none

/-- The pattern between slashes, and whether letter case is ignored: the flags after the
second slash can only be `i`. -/
def patternLiteral? : List Char → Option (List Char × Bool)
  | '/' :: body =>
      (splitAtLastSlash? body).bind fun (pattern, flags) =>
        if !pattern.isEmpty && flags.all (· == 'i') then some (pattern, !flags.isEmpty)
        else none
  | _ => none

/-- `REPLACE`. A text between slashes is a pattern. -/
def replace : Scalar := fun _ cell args =>
  (textAt? args 0).bind fun search =>
    if search.isEmpty then none
    else
      let replacement := (textAt? args 1).getD []
      match patternLiteral? search with
      | none => mapText (Text.replace search replacement) cell
      | some (pattern, ignoreCase) =>
          (Pattern.read? ignoreCase pattern).bind fun pattern =>
            mapText (Pattern.replaceAll pattern replacement) cell

/-- `SPLIT`. There is nothing at a place past the last part. -/
def split : Scalar := fun _ cell args =>
  (textAt? args 0).bind fun delimiter =>
    (countAt? args 1).bind fun place =>
      if delimiter.isEmpty then none
      else mapText (fun text => (Text.split delimiter text).getD place []) cell

/-- The largest width that texts are padded to. -/
def widest : Nat := 65535

/-- The width and the character of a padding. -/
def padding? (args : List Cell) : Option (Nat × Char) :=
  (countAt? args 0).bind fun width =>
    if width ≤ widest then
      ((textAt? args 1).bind List.head?).map fun fill => (width, fill)
    else none

/-- `PAD_LEFT`. -/
def padLeft : Scalar := fun _ cell args =>
  (padding? args).bind fun (width, fill) =>
    mapText (fun text => List.replicate (width - text.length) fill ++ text) cell

/-- `PAD_RIGHT`. -/
def padRight : Scalar := fun _ cell args =>
  (padding? args).bind fun (width, fill) =>
    mapText (fun text => text ++ List.replicate (width - text.length) fill) cell

/-- `CONCAT`: the cell and the arguments after the separator, the empty ones left out. -/
def concat : Scalar := fun _ cell args =>
  let separator := (textAt? args 0).getD []
  let parts := (cell :: args.drop 1).filterMap Cell.text?
  some (ofChars (separator.intercalate (parts.map String.toList)))

end ColumnChain.Function
