import ColumnChain.Json.Reading
import ColumnChain.Json.Writing
import ColumnChain.Proofs.Digits

/-!
# JSON that is laid out reads back

A value is read while its text is walked through once, so reading back is shown for the
text of a value wherever it stands: after the characters of a value the reader is where it
would be if the value had been pushed as a whole. Numbers with a fraction are left out, and
so are the two values that stand for trouble.
-/

namespace ColumnChain.Json

/-- A value without trouble, and without numbers other than small naturals. -/
inductive IsPlain : Json → Prop where
  | null : IsPlain .null
  | bool (value : Bool) : IsPlain (.bool value)
  | integer {n : Nat} (small : n < 2 ^ 64) : IsPlain (.integer n)
  | text (value : String) : IsPlain (.text value)
  | list {items : List Json} (all : ∀ item ∈ items, IsPlain item) : IsPlain (.list items)
  | object {members : List (String × Json)} (all : ∀ member ∈ members, IsPlain member.2) :
      IsPlain (.object members)

namespace Reader

/-- The reader is where it would be if a value had been pushed, unless the character that
comes next could still be part of the value. -/
structure Holds (value : Json) (stack : List Frame) (reader : Reader) : Prop where
  step : ∀ c, c = ',' ∨ c = '\n' → reader.step c = (push value stack).step c
  finish : reader.finish = (push value stack).finish

theorem Holds.push (value : Json) (stack : List Frame) :
    Holds value stack (Reader.push value stack) :=
  ⟨fun _ _ => rfl, rfl⟩

/-- A text is read as a value, wherever it stands. -/
structure Reads (text : List Char) (value : Json) : Prop where
  /-- The text does not start like the end of a list or like a blank. -/
  starts : ∃ c rest, text = c :: rest ∧ isSpace c = false ∧ c ≠ ']'
  holds : ∀ stack, Holds value stack (text.foldl step (reading stack .value))

/-! ## Blanks -/

/-- Places of the reader that blanks do not change. -/
def Rests (reader : Reader) : Prop :=
  ∀ c, isSpace c = true → reader.step c = reader

theorem rests_value (stack : List Frame) : (reading stack .value).Rests := by
  intro c blank
  simp [step, blank]

theorem rests_firstItem (stack : List Frame) : (reading stack .firstItem).Rests := by
  intro c blank
  simp [step, blank]

theorem rests_firstKey (stack : List Frame) : (reading stack .firstKey).Rests := by
  intro c blank
  simp [step, blank]

theorem rests_key (stack : List Frame) : (reading stack .key).Rests := by
  intro c blank
  simp [step, stepKey, blank]

theorem rests_after (stack : List Frame) : (reading stack .after).Rests := by
  intro c blank
  simp [step, stepAfter, blank]

theorem Rests.foldl {reader : Reader} (rests : reader.Rests) {text : List Char}
    (blank : ∀ c ∈ text, isSpace c = true) : text.foldl step reader = reader := by
  induction text with
  | nil => rfl
  | cons c text ih =>
      rw [List.foldl_cons, rests c (blank c List.mem_cons_self)]
      exact ih fun other member => blank other (List.mem_cons_of_mem c member)

theorem Rests.newLine {reader : Reader} (rests : reader.Rests) (depth : Nat) :
    (Json.newLine depth).foldl step reader = reader := by
  apply rests.foldl
  intro c member
  rcases List.mem_cons.1 member with rfl | blank
  · rfl
  · rw [(List.mem_replicate.1 blank).2]
    rfl

/-! ## Texts -/

/-- A text so far, read without trouble; its characters are in reverse. -/
def quotedSoFar (reversed : List Char) : Quoted :=
  ⟨reversed, .outside, none, false⟩

theorem hexDigit?_digitChar : ∀ digit < 16, Text.hexDigit? (Nat.digitChar digit) = some digit := by
  decide

/-- A code below the surrogates is the code of a character. -/
theorem addCode_toNat {scanned : Quoted} {c : Char} (low : c.toNat < 0x20) :
    scanned.addCode c.toNat = scanned.add c := by
  have first : Quoted.isFirstHalf c.toNat = false := by
    simp only [Quoted.isFirstHalf, Bool.and_eq_false_iff, decide_eq_false_iff_not]
    omega
  have second : Quoted.isSecondHalf c.toNat = false := by
    simp only [Quoted.isSecondHalf, Bool.and_eq_false_iff, decide_eq_false_iff_not]
    omega
  simp [Quoted.addCode, first, second]

/-- A character is read from the way it is written. -/
theorem foldl_writeChar (stack : List Frame) (isKey : Bool) (reversed : List Char) (c : Char) :
    (writeChar c).foldl step (reading stack (.quoted isKey (quotedSoFar reversed))) =
      reading stack (.quoted isKey (quotedSoFar (c :: reversed))) := by
  simp only [writeChar]
  split
  all_goals try rfl
  next notQuote notBackslash _ _ _ _ _ =>
    split
    next control =>
      have zero : Text.hexDigit? '0' = some 0 := rfl
      have high := hexDigit?_digitChar (c.toNat / 16) (by omega)
      have low := hexDigit?_digitChar (c.toNat % 16) (by omega)
      have whole : 16 * (c.toNat / 16) + c.toNat % 16 = c.toNat := by omega
      simp [step, stepQuoted, quotedSoFar, zero, high, low, whole, addCode_toNat control,
        Quoted.add, Quoted.settle]
    next visible =>
      have skips : (quotedSoFar reversed).add c = quotedSoFar (c :: reversed) := rfl
      simp only [List.foldl_cons, List.foldl_nil, step, stepQuoted]
      rw [← skips]
      simp only [quotedSoFar, if_neg notQuote, if_neg notBackslash, if_neg visible]

/-- A text is read up to its closing quote. -/
theorem foldl_writeText (stack : List Frame) (isKey : Bool) (text : String) :
    (text.toList.flatMap writeChar ++ ['"']).foldl step
        (reading stack (.quoted isKey emptyText)) =
      finishQuoted stack isKey (quotedSoFar text.toList.reverse) := by
  have read (characters reversed : List Char) :
      (characters.flatMap writeChar).foldl step
          (reading stack (.quoted isKey (quotedSoFar reversed))) =
        reading stack (.quoted isKey (quotedSoFar (characters.reverse ++ reversed))) := by
    induction characters generalizing reversed with
    | nil => rfl
    | cons c characters ih =>
        rw [List.flatMap_cons, List.foldl_append, foldl_writeChar, ih, List.reverse_cons,
          List.append_assoc, List.singleton_append]
  have whole := read text.toList []
  rw [List.append_nil] at whole
  rw [List.foldl_append]
  exact (congrArg (List.foldl step · ['"']) whole).trans rfl

theorem value_quotedSoFar (text : String) :
    (quotedSoFar text.toList.reverse).value = .text text := by
  simp [quotedSoFar, Quoted.value, Quoted.settle]

theorem finishQuoted_value (stack : List Frame) (text : String) :
    finishQuoted stack false (quotedSoFar text.toList.reverse) = push (.text text) stack := by
  simp [finishQuoted, value_quotedSoFar]

theorem finishQuoted_key (members : List (String × Json)) (key : String) (below : List Frame)
    (text : String) :
    finishQuoted (.object members key :: below) true (quotedSoFar text.toList.reverse) =
      reading (.object members text :: below) .colon := by
  simp [finishQuoted, value_quotedSoFar]

theorem reads_writeText (text : String) : Reads (writeText text) (.text text) where
  starts := ⟨'"', _, rfl, by decide, by decide⟩
  holds := by
    intro stack
    have first : (reading stack .value).step '"' = reading stack (.quoted false emptyText) := rfl
    rw [writeText, List.cons_append, List.foldl_cons, first, foldl_writeText,
      finishQuoted_value]
    exact .push (.text text) stack

/-! ## Numbers -/

section Numbers

open NumberText (collect)

theorem le_ofDigits (value : Nat) (digits : List Nat) :
    value ≤ digits.foldl (fun value digit => 10 * value + digit) value := by
  induction digits generalizing value with
  | nil => exact Nat.le_refl value
  | cons digit digits ih => exact (by omega : value ≤ 10 * value + digit).trans (ih _)

/-- All digits of a number that fits are collected. -/
theorem collect_eq (value : Nat) (digits : List Nat)
    (small : digits.foldl (fun value digit => 10 * value + digit) value < 2 ^ 64) :
    collect value digits =
      (digits.foldl (fun value digit => 10 * value + digit) value, digits.length) := by
  induction digits generalizing value with
  | nil => rfl
  | cons digit digits ih =>
      have fits : 10 * value + digit < 2 ^ 64 := (le_ofDigits _ digits).trans_lt small
      simp only [collect, if_pos fits, ih _ small, List.foldl_cons, List.length_cons]

/-- A natural number whose digits have been read, most significant digit first. -/
def wholeNumber (digits : List Nat) : NumberText :=
  ⟨false, digits.reverse, [], false, []⟩

theorem value_wholeNumber {digits : List Nat}
    (small : NumberText.ofDigits digits < 2 ^ 64) :
    (inOrder (wholeNumber digits)).value = .integer (NumberText.ofDigits digits) := by
  simp only [NumberText.value, inOrder, wholeNumber, List.reverse_reverse,
    collect_eq 0 digits small]
  simp [NumberText.ofDigits]

/-- After the digits of a natural number the number may end. -/
theorem holds_wholeNumber {part : NumberPart} (ends : part = .zero ∨ part = .whole)
    (digits : List Nat) (small : NumberText.ofDigits digits < 2 ^ 64) (stack : List Frame) :
    Holds (.integer (NumberText.ofDigits digits)) stack
      (reading stack (.number part (wholeNumber digits))) where
  step := by
    intro c after
    have noDigit : Number.digit? c = none := by
      rcases after with rfl | rfl <;> rfl
    have finishes : (reading stack (.number part (wholeNumber digits))).step c =
        pushThen (inOrder (wholeNumber digits)).value stack c := by
      rcases ends with rfl | rfl <;> rcases after with rfl | rfl <;> rfl
    rw [finishes, value_wholeNumber small]
    cases stack <;> rfl
  finish := by
    have isEnd : isEnd part = true := by
      rcases ends with rfl | rfl <;> rfl
    have last : (reading stack (.number part (wholeNumber digits))).endNumber =
        push (.integer (NumberText.ofDigits digits)) stack := by
      simp only [endNumber, isEnd, if_true, value_wholeNumber small]
    have again : (push (.integer (NumberText.ofDigits digits)) stack).endNumber =
        push (.integer (NumberText.ofDigits digits)) stack := by
      cases stack <;> rfl
    rw [Reader.finish, Reader.finish, last, again]

/-- The value of a digit. -/
def digitValue (c : Char) : Nat :=
  c.toNat - '0'.toNat

theorem ofDigits_map_digitValue (digits : List Char) :
    NumberText.ofDigits (digits.map digitValue) = Number.ofDigits digits := by
  rw [NumberText.ofDigits, List.foldl_map]
  rfl

theorem digit?_eq {c : Char} (digit : c.isDigit = true) :
    Number.digit? c = some (digitValue c) := by
  simp [Number.digit?, digit, digitValue]

theorem foldl_digits (stack : List Frame) {digits : List Char}
    (all : ∀ c ∈ digits, c.isDigit = true) (before : List Nat) :
    digits.foldl step (reading stack (.number .whole (wholeNumber before))) =
      reading stack (.number .whole (wholeNumber (before ++ digits.map digitValue))) := by
  induction digits generalizing before with
  | nil => simp
  | cons c digits ih =>
      have next : (reading stack (.number .whole (wholeNumber before))).step c =
          reading stack (.number .whole (wholeNumber (before ++ [digitValue c]))) := by
        simp [step, stepNumber, digit?_eq (all c List.mem_cons_self), wholeNumber]
      rw [List.foldl_cons, next, ih fun other member => all other (List.mem_cons_of_mem c member)]
      simp

theorem startValue_digit (stack : List Frame) {c : Char} (digit : c.isDigit = true)
    (notZero : c ≠ '0') :
    startValue stack c = reading stack (.number .whole (wholeNumber [digitValue c])) := by
  simp only [startValue]
  split
  all_goals try cases digit
  next => exact absurd rfl notZero
  next =>
    rw [digit?_eq digit]
    rfl

/-- A digit is no blank and no end of a list. -/
theorem isSpace_eq_false_of_isDigit {c : Char} (digit : c.isDigit = true) :
    isSpace c = false ∧ c ≠ ']' := by
  constructor
  · rw [Bool.eq_false_iff]
    intro blank
    simp only [isSpace, Bool.or_eq_true, beq_iff_eq] at blank
    rcases blank with ((rfl | rfl) | rfl) | rfl <;> cases digit
  · rintro rfl
    cases digit

theorem reads_naturalText {n : Nat} (small : n < 2 ^ 64) :
    Reads (Number.naturalText n) (.integer n) := by
  have value : NumberText.ofDigits ((Number.naturalText n).map digitValue) = n := by
    rw [ofDigits_map_digitValue, Number.ofDigits_naturalText]
  have are := Number.areDigits_naturalText n
  constructor
  case starts =>
    obtain ⟨c, others, whole, digit⟩ := are.exists_cons
    exact ⟨c, others, whole, isSpace_eq_false_of_isDigit digit⟩
  case holds =>
    intro stack
    rcases Nat.eq_zero_or_pos n with rfl | positive
    · exact holds_wholeNumber (Or.inl rfl) [0] (by decide) stack
    · obtain ⟨c, others, whole, notZero⟩ := Number.exists_naturalText_eq_cons positive
      have all := are.all
      rw [whole] at all value ⊢
      have digit := all c List.mem_cons_self
      have first : (reading stack .value).step c =
          reading stack (.number .whole (wholeNumber [digitValue c])) := by
        simp only [step, (isSpace_eq_false_of_isDigit digit).1, Bool.false_eq_true, if_false]
        exact startValue_digit stack digit notZero
      have rest := foldl_digits stack
        (fun other member => all other (List.mem_cons_of_mem c member)) [digitValue c]
      rw [List.foldl_cons, first, rest, ← value]
      exact holds_wholeNumber (Or.inr rfl) _ (value ▸ small) stack

end Numbers

/-! ## Lists and objects -/

section Containers

variable {value : Json} {stack : List Frame} {reader : Reader} {text : List Char}

theorem rests_push (value : Json) (stack : List Frame) : (push value stack).Rests := by
  cases stack with
  | nil =>
      intro c blank
      simp [Reader.push, step, blank]
  | cons frame stack => exact rests_after (frame.add value :: stack)

/-- A new line ends a value. -/
theorem Holds.newLine (holds : Holds value stack reader) (depth : Nat) :
    (Json.newLine depth).foldl Reader.step reader = Reader.push value stack := by
  have rests := (rests_push value stack).newLine depth
  rw [Json.newLine, List.foldl_cons] at rests ⊢
  rw [holds.step '\n' (Or.inr rfl)]
  exact rests

/-- Before the first item of a list a value is read as it is before any other. -/
theorem Reads.foldl_firstItem (reads : Reads text value) (stack : List Frame) :
    text.foldl step (reading stack .firstItem) = text.foldl step (reading stack .value) := by
  obtain ⟨c, rest, rfl, visible, noEnd⟩ := reads.starts
  simp [step, visible, noEnd]

/-- Items are read up to the end of their list. -/
theorem foldl_layoutItems {depth : Nat} {items : List Json} (filled : items ≠ [])
    (reads : ∀ item ∈ items, Reads (item.layout depth) item) {scan : Scan}
    (begins : scan = .value ∨ scan = .firstItem) (before : List Json) (stack : List Frame)
    (outer : Nat) :
    (layoutItems depth items ++ newLine outer ++ [']']).foldl step
        (reading (.list before :: stack) scan) =
      push (.list (before.reverse ++ items)) stack := by
  induction items generalizing before scan with
  | nil => exact absurd rfl filled
  | cons item items ih =>
      have holds := (reads item List.mem_cons_self).holds (.list before :: stack)
      have first : (newLine depth ++ item.layout depth).foldl step
            (reading (.list before :: stack) scan) =
          (item.layout depth).foldl step (reading (.list before :: stack) .value) := by
        rw [List.foldl_append]
        rcases begins with rfl | rfl
        · rw [(rests_value _).newLine]
        · rw [(rests_firstItem _).newLine,
            (reads item List.mem_cons_self).foldl_firstItem]
      cases items with
      | nil =>
          rw [layoutItems, List.foldl_append, List.foldl_append, first, holds.newLine]
          simp [Reader.push, step, stepAfter, isSpace, pop, Frame.add, Frame.close]
      | cons next items =>
          have comma : ((item.layout depth).foldl step
                (reading (.list before :: stack) .value)).step ',' =
              reading (.list (item :: before) :: stack) .value := by
            rw [holds.step ',' (Or.inl rfl)]
            rfl
          have others := ih (List.cons_ne_nil next items)
            (fun other member => reads other (List.mem_cons_of_mem item member)) (Or.inl rfl)
            (item :: before)
          rw [layoutItems, List.append_assoc, List.append_assoc, List.cons_append,
            List.foldl_append, first, List.foldl_cons, comma]
          rw [List.append_assoc] at others
          rw [others, List.reverse_cons, List.append_assoc, List.singleton_append]
          exact List.cons_ne_nil next items

/-- The key of a member is read up to the value. -/
theorem foldl_writeKey {scan : Scan} (begins : scan = .key ∨ scan = .firstKey) (depth : Nat)
    (before : List (String × Json)) (last key : String) (stack : List Frame) :
    (newLine depth ++ writeText key ++ [':', ' ']).foldl step
        (reading (.object before last :: stack) scan) =
      reading (.object before key :: stack) .value := by
  have quote : (newLine depth ++ ['"']).foldl step (reading (.object before last :: stack) scan) =
      reading (.object before last :: stack) (.quoted true emptyText) := by
    rw [List.foldl_append]
    rcases begins with rfl | rfl
    · rw [(rests_key _).newLine]
      rfl
    · rw [(rests_firstKey _).newLine]
      rfl
  have parts : newLine depth ++ writeText key ++ [':', ' '] =
      (newLine depth ++ ['"']) ++ (key.toList.flatMap writeChar ++ ['"']) ++ [':', ' '] := by
    simp [writeText]
  rw [parts, List.foldl_append, List.foldl_append, quote, foldl_writeText, finishQuoted_key]
  rfl

/-- Members are read up to the end of their object. -/
theorem foldl_layoutMembers {depth : Nat} {members : List (String × Json)}
    (filled : members ≠ [])
    (reads : ∀ member ∈ members, Reads (member.2.layout depth) member.2) {scan : Scan}
    (begins : scan = .key ∨ scan = .firstKey) (before : List (String × Json)) (last : String)
    (stack : List Frame) (outer : Nat) :
    (layoutMembers depth members ++ newLine outer ++ ['\x7d']).foldl step
        (reading (.object before last :: stack) scan) =
      push (.object (before.reverse ++ members)) stack := by
  induction members generalizing before last scan with
  | nil => exact absurd rfl filled
  | cons member members ih =>
      obtain ⟨key, value⟩ := member
      have holds := (reads (key, value) List.mem_cons_self).holds (.object before key :: stack)
      have first := foldl_writeKey begins depth before last key stack
      cases members with
      | nil =>
          have parts : layoutMembers depth [(key, value)] ++ newLine outer ++ ['\x7d'] =
              (newLine depth ++ writeText key ++ [':', ' ']) ++
                (value.layout depth ++ (newLine outer ++ ['\x7d'])) := by
            simp [layoutMembers]
          rw [parts, List.foldl_append, first, List.foldl_append, List.foldl_append,
            holds.newLine]
          simp [Reader.push, step, stepAfter, isSpace, pop, Frame.add, Frame.close]
      | cons next members =>
          have comma : ((value.layout depth).foldl step
                (reading (.object before key :: stack) .value)).step ',' =
              reading (.object ((key, value) :: before) "" :: stack) .key := by
            rw [holds.step ',' (Or.inl rfl)]
            rfl
          have others := ih (List.cons_ne_nil next members)
            (fun other member => reads other (List.mem_cons_of_mem (key, value) member))
            (Or.inl rfl) ((key, value) :: before) ""
          have parts : layoutMembers depth ((key, value) :: next :: members) ++
                newLine outer ++ ['\x7d'] =
              (newLine depth ++ writeText key ++ [':', ' ']) ++
                (value.layout depth ++ ',' :: (layoutMembers depth (next :: members) ++
                  newLine outer ++ ['\x7d'])) := by
            simp [layoutMembers]
          rw [parts, List.foldl_append, first, List.foldl_append, List.foldl_cons, comma,
            others, List.reverse_cons, List.append_assoc, List.singleton_append]

end Containers

/-! ## Values -/

/-- A word is read as the value that it stands for. -/
theorem reads_word (text : List Char) (value : Json)
    (word : (text, value) = ("null".toList, .null) ∨ (text, value) = ("true".toList, .bool true) ∨
      (text, value) = ("false".toList, .bool false)) : Reads text value := by
  rcases word with same | same | same <;> cases same
  all_goals
    refine ⟨⟨_, _, rfl, by decide, by decide⟩, fun stack => ?_⟩
    exact .push _ stack

/-- A value that is laid out is read as itself. -/
theorem reads_layout {value : Json} (plain : IsPlain value) (depth : Nat) :
    Reads (value.layout depth) value := by
  induction plain generalizing depth with
  | null => exact reads_word _ _ (Or.inl rfl)
  | bool value =>
      cases value
      · exact reads_word _ _ (Or.inr (Or.inr rfl))
      · exact reads_word _ _ (Or.inr (Or.inl rfl))
  | @integer n small =>
      have written : layout depth (.integer n) = Number.naturalText n := by
        simp [layout, writeScalar, Number.integerText]
      rw [written]
      exact reads_naturalText small
  | text value => exact reads_writeText value
  | @list items all ih =>
      cases items with
      | nil => exact ⟨⟨'[', _, rfl, by decide, by decide⟩, fun stack => .push (.list []) stack⟩
      | cons item items =>
          rw [layout]
          refine ⟨⟨'[', _, rfl, by decide, by decide⟩, fun stack => ?_⟩
          have read := foldl_layoutItems (List.cons_ne_nil item items)
            (fun item member => ih item member (depth + 1)) (Or.inr rfl) [] stack depth
          have opens : (reading stack .value).step '[' =
              reading (.list [] :: stack) .firstItem := rfl
          rw [List.cons_append, List.cons_append, List.foldl_cons, opens, read]
          exact .push _ stack
  | @object members all ih =>
      cases members with
      | nil =>
          exact ⟨⟨'\x7b', _, rfl, by decide, by decide⟩, fun stack => .push (.object []) stack⟩
      | cons member members =>
          rw [layout]
          refine ⟨⟨'\x7b', _, rfl, by decide, by decide⟩, fun stack => ?_⟩
          have read := foldl_layoutMembers (List.cons_ne_nil member members)
            (fun member inside => ih member inside (depth + 1)) (Or.inr rfl) [] "" stack depth
          have opens : (reading stack .value).step '\x7b' =
              reading (.object [] "" :: stack) .firstKey := rfl
          rw [List.cons_append, List.cons_append, List.foldl_cons, opens, read]
          exact .push _ stack

end Reader

/-- A value that is laid out reads back, and nothing comes after it. -/
theorem read_pretty {value : Json} (plain : IsPlain value) :
    read value.pretty = (value, false) := by
  have holds := (Reader.reads_layout plain 0).holds []
  exact holds.finish

end ColumnChain.Json
