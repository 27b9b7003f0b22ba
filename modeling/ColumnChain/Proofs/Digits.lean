import ColumnChain.Number.Reading
import ColumnChain.Number.Writing
import ColumnChain.Proofs.Trimming
import Mathlib.Data.List.Induction
import Mathlib.Data.List.TakeDrop

/-!
# Written digits

Natural numbers are written in digits, and digits are told apart from what comes after
them, and read back as the number.
-/

namespace ColumnChain.Number

/-- A text of at least one digit. -/
structure AreDigits (digits : List Char) : Prop where
  filled : digits ≠ []
  all : ∀ c ∈ digits, c.isDigit = true

theorem areDigits_naturalText (n : Nat) : AreDigits (naturalText n) where
  filled := Nat.toDigits_ne_nil
  all := fun _ member => Nat.isDigit_of_mem_toDigits (by decide) (by decide) member

@[simp] theorem ofDigits_naturalText (n : Nat) : ofDigits (naturalText n) = n :=
  Nat.ofDigitChars_ten_toDigits

theorem digitChar_ne_zero : ∀ n < 10, 0 < n → n.digitChar ≠ '0' := by
  decide

/-- A positive number does not start with a zero. -/
theorem exists_naturalText_eq_cons {n : Nat} (positive : 0 < n) :
    ∃ c others, naturalText n = c :: others ∧ c ≠ '0' := by
  induction n using Nat.strongRecOn with
  | ind n ih =>
      simp only [naturalText] at ih ⊢
      rcases Nat.lt_or_ge n 10 with single | more
      · exact ⟨n.digitChar, [], Nat.toDigits_of_lt_base single,
          digitChar_ne_zero n single positive⟩
      · obtain ⟨c, others, front, notZero⟩ :=
          ih (n / 10) (by omega) (by omega)
        refine ⟨c, others ++ [(n % 10).digitChar], ?_, notZero⟩
        rw [Nat.toDigits_of_base_le (by decide) more, front, List.cons_append]

theorem code_of_isDigit {c : Char} (digit : c.isDigit = true) :
    48 ≤ c.toNat ∧ c.toNat ≤ 57 := by
  simp only [Char.isDigit, Bool.and_eq_true, decide_eq_true_eq, UInt32.le_iff_toNat_le,
    ge_iff_le] at digit
  exact digit

theorem isBlank_eq_false_of_isDigit {c : Char} (digit : c.isDigit = true) :
    Text.isBlank c = false := by
  have code := code_of_isDigit digit
  rw [Bool.eq_false_iff]
  intro blank
  simp only [Text.isBlank, Bool.or_eq_true, Bool.and_eq_true, decide_eq_true_eq, beq_iff_eq]
    at blank
  omega

/-- So many digits are a number below that power of ten. -/
theorem ofDigits_lt {digits : List Char} (all : ∀ c ∈ digits, c.isDigit = true) :
    ofDigits digits < 10 ^ digits.length := by
  induction digits using List.reverseRecOn with
  | nil => decide
  | append_singleton digits c ih =>
      have code := code_of_isDigit (all c (by simp))
      have before := ih fun other member => all other (by simp [member])
      have last : ofDigits (digits ++ [c]) = 10 * ofDigits digits + (c.toNat - 48) := by
        simp [ofDigits]
      rw [last, List.length_append, List.length_singleton, Nat.pow_succ]
      omega

namespace AreDigits

variable {digits rest : List Char}

theorem exists_cons (are : AreDigits digits) :
    ∃ c others, digits = c :: others ∧ c.isDigit = true := by
  cases digits with
  | nil => exact absurd rfl are.filled
  | cons c others => exact ⟨c, others, rfl, are.all c List.mem_cons_self⟩

/-- Digits end where something else comes. -/
theorem spanDigits_append (are : AreDigits digits)
    (ends : ∀ c ∈ rest.head?, c.isDigit = false) :
    spanDigits (digits ++ rest) = (digits, rest) := by
  have stops : rest.takeWhile Char.isDigit = [] ∧ rest.dropWhile Char.isDigit = rest := by
    cases rest with
    | nil => exact ⟨rfl, rfl⟩
    | cons c others => simp [ends c rfl]
  rw [spanDigits, List.span_eq_takeWhile_dropWhile, List.takeWhile_append_of_pos are.all,
    List.dropWhile_append_of_pos are.all, stops.1, stops.2, List.append_nil]

/-- There are no blanks before digits. -/
theorem trimStart_append (are : AreDigits digits) (rest : List Char) :
    Text.trimStart (digits ++ rest) = digits ++ rest := by
  obtain ⟨c, others, rfl, digit⟩ := are.exists_cons
  refine Text.trimStart_append Text.isBlank_nil fun first same => ?_
  cases same
  exact isBlank_eq_false_of_isDigit digit

end AreDigits
end ColumnChain.Number
