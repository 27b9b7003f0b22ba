/-!
# Cutting text at a delimiter

Splitting a text at the occurrences of a delimiter, and replacing them. Occurrences are
found from left to right and do not overlap. After an occurrence the characters of the
delimiter still to be passed are counted down, so both functions walk the text once.
-/

namespace ColumnChain.Text

/-- Put a character in front of the first piece. -/
def extendFirst (c : Char) : List (List Char) → List (List Char)
  | [] => [[c]]
  | piece :: others => (c :: piece) :: others

theorem extendFirst_ne_nil (c : Char) (pieces : List (List Char)) : extendFirst c pieces ≠ [] := by
  cases pieces <;> simp [extendFirst]

/-- The pieces between the occurrences of a delimiter, once `skip` characters of the
last occurrence have been passed. -/
def splitAfter (delimiter : List Char) : Nat → List Char → List (List Char)
  | _, [] => [[]]
  | skip + 1, _ :: rest => splitAfter delimiter skip rest
  | 0, c :: rest =>
      if delimiter.isPrefixOf (c :: rest) then
        [] :: splitAfter delimiter (delimiter.length - 1) rest
      else extendFirst c (splitAfter delimiter 0 rest)

/-- The pieces between the occurrences of a non-empty delimiter. -/
def split (delimiter text : List Char) : List (List Char) :=
  splitAfter delimiter 0 text

theorem splitAfter_ne_nil (delimiter : List Char) (skip : Nat) (text : List Char) :
    splitAfter delimiter skip text ≠ [] := by
  fun_induction splitAfter delimiter skip text with
  | case1 => simp
  | case2 skip c rest ih => exact ih
  | case3 => simp
  | case4 => exact extendFirst_ne_nil _ _

theorem split_ne_nil (delimiter text : List Char) : split delimiter text ≠ [] :=
  splitAfter_ne_nil delimiter 0 text

/-- The text with each occurrence replaced, once `skip` characters of the last
occurrence have been passed. -/
def replaceAfter (search replacement : List Char) : Nat → List Char → List Char
  | _, [] => []
  | skip + 1, _ :: rest => replaceAfter search replacement skip rest
  | 0, c :: rest =>
      if search.isPrefixOf (c :: rest) then
        replacement ++ replaceAfter search replacement (search.length - 1) rest
      else c :: replaceAfter search replacement 0 rest

/-- The text with each occurrence of a non-empty text replaced. -/
def replace (search replacement text : List Char) : List Char :=
  replaceAfter search replacement 0 text

end ColumnChain.Text
