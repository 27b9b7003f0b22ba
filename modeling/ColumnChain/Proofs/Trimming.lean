import ColumnChain.Text.Blank
import Mathlib.Data.List.Basic
import Mathlib.Data.List.TakeWhile

/-!
# Trimmed text

A text is its trimmed form with blanks around it, and the trimmed form has none at its
ends. These two facts tell the trimmed form apart from every other part of the text.
-/

namespace ColumnChain.Text

/-- A text of blanks. -/
def IsBlank (text : List Char) : Prop :=
  ∀ c ∈ text, isBlank c = true

theorem allBlank_eq_true_iff {text : List Char} : allBlank text = true ↔ IsBlank text := by
  simp [allBlank, IsBlank]

@[simp] theorem isBlank_nil : IsBlank [] := by
  simp [IsBlank]

@[simp] theorem isBlank_append {left right : List Char} :
    IsBlank (left ++ right) ↔ IsBlank left ∧ IsBlank right := by
  simp [IsBlank, or_imp, forall_and]

@[simp] theorem isBlank_reverse {text : List Char} : IsBlank text.reverse ↔ IsBlank text := by
  simp [IsBlank]

/-- Blanks in front of a text go, and nothing of a text that does not start with one. -/
theorem trimStart_append {before text : List Char} (blank : IsBlank before)
    (starts : ∀ c ∈ text.head?, isBlank c = false) : trimStart (before ++ text) = text := by
  induction before with
  | nil =>
      cases text with
      | nil => rfl
      | cons c rest => simp [trimStart, starts c rfl]
  | cons c before ih =>
      have first : isBlank c = true := blank c List.mem_cons_self
      have rest : IsBlank before := fun other member =>
        blank other (List.mem_cons_of_mem c member)
      rw [List.cons_append, trimStart, List.dropWhile_cons_of_pos first]
      exact ih rest

theorem exists_eq_append_trimStart (text : List Char) :
    ∃ before, IsBlank before ∧ text = before ++ trimStart text :=
  ⟨text.takeWhile isBlank, fun _ member => List.mem_takeWhile_imp member,
    (List.takeWhile_append_dropWhile).symm⟩

theorem head?_trimStart (text : List Char) :
    ∀ c ∈ (trimStart text).head?, isBlank c = false := by
  intro c member
  exact Bool.eq_false_iff.2 fun blank => by
    have kept := List.head?_dropWhile_not isBlank text
    rw [trimStart] at member
    rw [Option.mem_def.1 member] at kept
    simp [blank] at kept

theorem trimEnd_eq (text : List Char) : trimEnd text = (trimStart text.reverse).reverse := rfl

/-- Blanks around a text go, and nothing of a text that has none at its ends. -/
theorem trim_append {before text after : List Char} (blankBefore : IsBlank before)
    (blankAfter : IsBlank after) (starts : ∀ c ∈ text.head?, isBlank c = false)
    (ends : ∀ c ∈ text.getLast?, isBlank c = false) (filled : text ≠ []) :
    trim (before ++ text ++ after) = text := by
  have started : trimStart (before ++ text ++ after) = text ++ after := by
    rw [List.append_assoc]
    apply trimStart_append blankBefore
    rwa [List.head?_append_of_ne_nil _ filled]
  rw [trim, started, trimEnd_eq, List.reverse_append,
    trimStart_append (isBlank_reverse.2 blankAfter), List.reverse_reverse]
  rwa [List.head?_reverse]

theorem exists_eq_append_trim (text : List Char) :
    ∃ before after, IsBlank before ∧ IsBlank after ∧ text = before ++ trim text ++ after := by
  obtain ⟨before, blankBefore, front⟩ := exists_eq_append_trimStart text
  obtain ⟨after, blankAfter, back⟩ := exists_eq_append_trimStart (trimStart text).reverse
  refine ⟨before, after.reverse, blankBefore, isBlank_reverse.2 blankAfter, ?_⟩
  have whole : trimStart text = trim text ++ after.reverse := by
    rw [trim, trimEnd_eq, ← List.reverse_append, ← back, List.reverse_reverse]
  rw [List.append_assoc, ← whole, ← front]

/-- Nothing blank is left at the end of a trimmed text. -/
theorem eq_nil_of_trim_eq_append {text front back : List Char}
    (cut : trim text = front ++ back) (blank : IsBlank back) : back = [] := by
  cases reversed : back.reverse with
  | nil => simpa using reversed
  | cons c rest =>
      have last : (trimStart (trimStart text).reverse).head? = some c := by
        rw [← List.reverse_reverse (trimStart (trimStart text).reverse), ← trimEnd_eq,
          ← trim, cut, List.reverse_append, reversed]
        rfl
      have visible := head?_trimStart _ c last
      have hidden : isBlank c = true := by
        apply blank
        rw [← List.mem_reverse, reversed]
        exact List.mem_cons_self
      rw [hidden] at visible
      cases visible

theorem trim_eq_nil_iff {text : List Char} : trim text = [] ↔ IsBlank text := by
  constructor
  · intro empty
    obtain ⟨before, after, blankBefore, blankAfter, whole⟩ := exists_eq_append_trim text
    rw [whole, empty]
    simp [blankBefore, blankAfter]
  · intro blank
    refine eq_nil_of_trim_eq_append (List.nil_append (trim text)).symm ?_
    obtain ⟨before, after, -, -, whole⟩ := exists_eq_append_trim text
    intro c member
    apply blank
    rw [whole]
    simp [member]

end ColumnChain.Text
