import ColumnChain.Proofs.Grammar
import ColumnChain.Proofs.Randomness
import Mathlib

/-!
# Names of functions

A name has no blanks around it, and in upper case it is a name that calls the same function.
The name that an expression text starts with is the one that the expression names, so what
is known of a function by that name holds of the function that is called.
-/

namespace ColumnChain

namespace Expression.IsName

variable {name : List Char}

theorem isBlank_getLast? (isName : IsName name) :
    ∀ c ∈ name.getLast?, Text.isBlank c = false := fun _ member =>
  isBlank_eq_false_of_continuesName
    (continuesName_of_mem isName (List.mem_of_mem_getLast? member))

/-- Nothing of a name is trimmed. -/
theorem trim_eq (isName : IsName name) : Text.trim name = name := by
  have alone := Text.trim_append Text.isBlank_nil Text.isBlank_nil isName.isBlank_head?
    isName.isBlank_getLast? isName.ne_nil
  rwa [List.nil_append, List.append_nil] at alone

/-- A letter stays one in upper case, and other characters of names are left alone. -/
theorem isAlphanum_toUpper {c : Char} (continues : c.isAlphanum = true ∨ c = '_') :
    c.toUpper.isAlphanum = true ∨ c.toUpper = '_' := by
  by_cases lower : c.isLower = true
  · have letter : c.toUpper.isAlpha = true := by
      rw [Char.isAlpha_toUpper_eq_isAlpha, Char.isAlpha, lower, Bool.or_true]
    exact Or.inl (by rw [Char.isAlphanum, letter, Bool.true_or])
  · rw [Char.toUpper_eq_of_not_isLower lower]
    exact continues

theorem map_toUpper (isName : IsName name) : IsName (name.map Char.toUpper) := by
  cases name with
  | nil => exact isName
  | cons first rest =>
      refine ⟨?_, ?_⟩
      · rcases isName.1 with letter | rfl
        · exact Or.inl ((Char.isAlpha_toUpper_eq_isAlpha first).trans letter)
        · exact Or.inr rfl
      · intro c member
        obtain ⟨source, sourceMember, rfl⟩ := List.mem_map.1 member
        exact isAlphanum_toUpper (isName.2 source sourceMember)

theorem upper_upper (isName : IsName name) : Text.upper (Text.upper name) = Text.upper name := by
  rw [upper_of_isName isName, upper_of_isName isName.map_toUpper, List.map_map]
  exact List.map_congr_left fun c _ => Char.toUpper_toUpper_eq_toUpper c

end Expression.IsName

/-- A name calls what it calls in upper case. -/
theorem Catalog.find?_uppercased {name : String} (isName : Expression.IsName name.toList) :
    find? (Text.uppercased name) = find? name := by
  have upperName : Expression.IsName (Text.upper name.toList) := by
    rw [Expression.upper_of_isName isName]
    exact isName.map_toUpper
  rw [find?, find?]
  simp only [Text.uppercased, Text.trimmed, String.toList_ofList, upperName.trim_eq,
    isName.trim_eq, isName.upper_upper]

namespace Expression

/-- A blank ends a name, and so does the end of the text. -/
theorem continuesName_head?_of_isBlank {after : List Char} (blank : Text.IsBlank after) :
    ∀ c ∈ after.head?, continuesName c = false := fun c member =>
  continuesName_eq_false_of_isBlank (blank c (List.mem_of_mem_head? member))

theorem leadingName?_of_append {text : String} {before name rest : List Char}
    (whole : text.toList = before ++ (name ++ rest)) (blankBefore : Text.IsBlank before)
    (isName : IsName name) (ends : ∀ c ∈ rest.head?, continuesName c = false) :
    leadingName? text = some (String.ofList (Text.upper name)) := by
  have started : Text.trimStart text.toList = name ++ rest := by
    rw [whole]
    apply Text.trimStart_append blankBefore
    rw [List.head?_append_of_ne_nil _ isName.ne_nil]
    exact isName.isBlank_head?
  rw [leadingName?, started, splitName?_append isName ends, Option.map_some]

/-- A text that reads as a name or a call starts with the name that is read. -/
theorem leadingName?_of_structured? {text : String} {expression : Expression}
    (read : structured? text.toList = some expression) :
    leadingName? text = expression.functionName? := by
  rcases isName_or_isCall_of_structured? read with ⟨isName, rfl⟩ | ⟨call, isCall, rfl⟩
  · obtain ⟨before, after, blankBefore, blankAfter, whole⟩ :=
      Text.exists_eq_append_trim text.toList
    rw [List.append_assoc] at whole
    rw [leadingName?_of_append whole blankBefore isName
      (continuesName_head?_of_isBlank blankAfter), functionName?, Text.uppercased,
      String.toList_ofList]
  · generalize written : text.toList = characters at isCall
    obtain ⟨blankBefore, isName, blankGap, -, -⟩ := isCall
    rename_i before name gap list after args
    have ends : ∀ c ∈ (gap ++ '(' :: (list ++ ')' :: after)).head?,
        continuesName c = false := by
      cases gap with
      | nil =>
          rintro c ⟨⟩
          rfl
      | cons first gap =>
          rintro c ⟨⟩
          exact continuesName_eq_false_of_isBlank (blankGap first List.mem_cons_self)
    have whole : text.toList = before ++ (name ++ (gap ++ '(' :: (list ++ ')' :: after))) := by
      rw [written]
      simp
    rw [leadingName?_of_append whole blankBefore isName ends, functionName?,
      upper_of_isName isName]

/-- What a name or a call may call is the function with the name that the text starts with. -/
theorem callee?_of_structured? {text : String} {expression : Expression}
    (read : structured? text.toList = some expression) :
    expression.callee? = (leadingName? text).bind Catalog.find? := by
  rw [leadingName?_of_structured? read]
  rcases isName_or_isCall_of_structured? read with ⟨isName, rfl⟩ | ⟨call, -, rfl⟩
  · have named : IsName (String.ofList (Text.trim text.toList)).toList := by
      rwa [String.toList_ofList]
    rw [functionName?, Option.bind_some, Catalog.find?_uppercased named, callee?]
  · rw [functionName?, Option.bind_some, callee?]

end Expression
end ColumnChain
