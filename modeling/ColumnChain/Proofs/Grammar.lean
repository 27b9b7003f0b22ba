import ColumnChain.Expression.Reading
import ColumnChain.Text.Casing
import ColumnChain.Proofs.Trimming

/-!
# The grammar of expressions

Which texts are names, calls and arguments, said without a scanner: a text is taken apart
into blanks, names, quotes and unquoted tokens, in whatever way that is possible. Reading
accepts exactly the texts that can be taken apart, with what their parts denote, and
leaves all others as they are.
-/

namespace ColumnChain.Expression

open Text (IsBlank)

/-! ## The grammar -/

/-- A name: an ASCII letter or an underscore, and after it those and digits. -/
def IsName : List Char → Prop
  | [] => False
  | first :: rest =>
      (first.isAlpha = true ∨ first = '_') ∧ ∀ c ∈ rest, c.isAlphanum = true ∨ c = '_'

/-- What is written between quotes for a content. A backslash makes the next character
literal, and without one the quote itself does not occur. -/
inductive Quotes (quote : Char) : (written content : List Char) → Prop where
  | nil : Quotes quote [] []
  | literal (c : Char) {written content : List Char} (rest : Quotes quote written content) :
      Quotes quote ('\\' :: c :: written) (c :: content)
  | plain {c : Char} {written content : List Char} (notBackslash : c ≠ '\\')
      (notQuote : c ≠ quote) (rest : Quotes quote written content) :
      Quotes quote (c :: written) (c :: content)

/-- The characters that open quotes. -/
def IsQuote (c : Char) : Prop :=
  c = '"' ∨ c = '\''

/-- The characters that are no part of unquoted text. -/
def IsDelimiter (c : Char) : Prop :=
  IsQuote c ∨ c = ',' ∨ c = '(' ∨ c = ')'

/-- The number that an unquoted token denotes: it starts like one, and what it reads as is
finite. -/
structure DenotesNumber (token : List Char) (n : Float) : Prop where
  starts : ∃ c ∈ token.head?, c.isDigit = true ∨ c = '+' ∨ c = '-' ∨ c = '.'
  reads : Number.read? token = some n
  finite : n.isFinite = true

/-- What stands between two commas for an argument: quotes, or unquoted text that is more
than blanks and denotes a number or a column. -/
inductive IsSlot : (slot : List Char) → Argument → Prop where
  | quoted {before written content after : List Char} {quote : Char}
      (blankBefore : IsBlank before) (isQuote : IsQuote quote)
      (quotes : Quotes quote written content) (blankAfter : IsBlank after) :
      IsSlot (before ++ quote :: written ++ quote :: after) (.text (String.ofList content))
  | number {slot : List Char} {n : Float} (unquoted : ∀ c ∈ slot, ¬ IsDelimiter c)
      (filled : ¬ IsBlank slot) (denotes : DenotesNumber (Text.trim slot) n) :
      IsSlot slot (.number n)
  | column {slot : List Char} (unquoted : ∀ c ∈ slot, ¬ IsDelimiter c)
      (filled : ¬ IsBlank slot) (noNumber : ¬ ∃ n, DenotesNumber (Text.trim slot) n) :
      IsSlot slot (.column (String.ofList (Text.trim slot)))

/-- Slots with commas between them. -/
inductive AreSlots : (list : List Char) → List Argument → Prop where
  | last {slot : List Char} {arg : Argument} (isSlot : IsSlot slot arg) :
      AreSlots slot [arg]
  | more {slot list : List Char} {arg : Argument} {args : List Argument}
      (isSlot : IsSlot slot arg) (rest : AreSlots list args) :
      AreSlots (slot ++ ',' :: list) (arg :: args)

/-- What stands between the parentheses of a call. -/
def AreArguments (list : List Char) (args : List Argument) : Prop :=
  (IsBlank list ∧ args = []) ∨ AreSlots list args

/-- A name and a list of arguments in parentheses, with blanks around every part. The
function is the name in upper case. -/
inductive IsCall : (text : List Char) → Call → Prop where
  | intro {before name gap list after : List Char} {args : List Argument}
      (blankBefore : IsBlank before) (isName : IsName name) (blankGap : IsBlank gap)
      (areArguments : AreArguments list args) (blankAfter : IsBlank after) :
      IsCall (before ++ name ++ gap ++ '(' :: list ++ ')' :: after)
        ⟨String.ofList (name.map Char.toUpper), args⟩

/-! ## Unquoted tokens -/

theorem tokenNumber?_eq_some_iff {token : List Char} {n : Float} :
    tokenNumber? token = some n ↔ DenotesNumber token n := by
  cases token with
  | nil =>
      constructor
      · intro none
        cases none
      · intro denotes
        obtain ⟨c, member, -⟩ := denotes.starts
        cases member
  | cons c rest =>
      constructor
      · intro found
        simp only [tokenNumber?] at found
        split at found
        next starts =>
          obtain ⟨x, reads, kept⟩ := Option.bind_eq_some_iff.1 found
          simp only [Cell.finite?] at kept
          split at kept
          next finite =>
            cases kept
            refine ⟨⟨c, rfl, ?_⟩, reads, finite⟩
            simp only [Bool.or_eq_true, beq_iff_eq] at starts
            tauto
          next => cases kept
        next => cases found
      · rintro ⟨⟨first, member, starts⟩, reads, finite⟩
        obtain rfl : c = first := Option.some.inj member
        have signed : (c.isDigit || c == '-' || c == '+' || c == '.') = true := by
          simp only [Bool.or_eq_true, beq_iff_eq]
          tauto
        simp [tokenNumber?, signed, reads, Cell.finite?, finite]

theorem isSlot_of_unquoted? {slot : List Char} {arg : Argument}
    (plain : ∀ c ∈ slot, ¬ IsDelimiter c) (found : unquoted? slot = some arg) :
    IsSlot slot arg := by
  simp only [unquoted?, List.isEmpty_iff] at found
  split at found
  next => cases found
  next filled =>
    rw [Text.trim_eq_nil_iff] at filled
    split at found
    next n number =>
      cases found
      exact .number plain filled (tokenNumber?_eq_some_iff.1 number)
    next noNumber =>
      cases found
      refine .column plain filled ?_
      rintro ⟨n, denotes⟩
      rw [tokenNumber?_eq_some_iff.2 denotes] at noNumber
      cases noNumber

theorem unquoted?_of_number {slot : List Char} {n : Float} (filled : ¬ IsBlank slot)
    (denotes : DenotesNumber (Text.trim slot) n) : unquoted? slot = some (.number n) := by
  simp [unquoted?, Text.trim_eq_nil_iff, filled, tokenNumber?_eq_some_iff.2 denotes]

theorem unquoted?_of_column {slot : List Char} (filled : ¬ IsBlank slot)
    (noNumber : ¬ ∃ n, DenotesNumber (Text.trim slot) n) :
    unquoted? slot = some (.column (String.ofList (Text.trim slot))) := by
  have none : tokenNumber? (Text.trim slot) = none := by
    cases number : tokenNumber? (Text.trim slot) with
    | none => rfl
    | some n => exact absurd ⟨n, tokenNumber?_eq_some_iff.1 number⟩ noNumber
  simp [unquoted?, Text.trim_eq_nil_iff, filled, none]

/-! ## What the scan accepts is in the grammar -/

namespace Slot

/-- What has been read of a slot keeps to the grammar so far. -/
def IsSound : Slot → Prop
  | .plain reversed => ∀ c ∈ reversed, ¬ IsDelimiter c
  | .quoted quote _ _ => IsQuote quote
  | .closed _ => True

theorem isSound_start : (Slot.plain []).IsSound := by
  simp [IsSound]

/-- The text completes what has been read to a slot for an argument. -/
def Completes (slot : Slot) (text : List Char) (arg : Argument) : Prop :=
  match slot with
  | .plain reversed => IsSlot (reversed.reverse ++ text) arg
  | .quoted quote false reversed =>
      ∃ written content after, text = written ++ quote :: after ∧
        Quotes quote written content ∧ IsBlank after ∧
        arg = .text (String.ofList (reversed.reverse ++ content))
  | .quoted quote true reversed =>
      ∃ c written content after, text = c :: written ++ quote :: after ∧
        Quotes quote written content ∧ IsBlank after ∧
        arg = .text (String.ofList (reversed.reverse ++ c :: content))
  | .closed content => IsBlank text ∧ arg = .text (String.ofList content)

theorem completes_nil {slot : Slot} {arg : Argument} (sound : slot.IsSound)
    (finished : slot.finish? = some arg) : slot.Completes [] arg := by
  cases slot with
  | plain reversed =>
      rw [Completes, List.append_nil]
      exact isSlot_of_unquoted? (fun c member => sound c (List.mem_reverse.1 member)) finished
  | quoted quote escaped reversed => cases finished
  | closed content =>
      cases finished
      exact ⟨Text.isBlank_nil, rfl⟩

/-- What reading one more character can do. -/
inductive Step (c : Char) : Slot → Slot → Prop where
  | opened {reversed : List Char} (isQuote : IsQuote c) (blank : IsBlank reversed) :
      Step c (.plain reversed) (.quoted c false [])
  | collected {reversed : List Char} (notQuote : ¬ IsQuote c) (notOpening : c ≠ '(') :
      Step c (.plain reversed) (.plain (c :: reversed))
  | literal {quote : Char} {reversed : List Char} :
      Step c (.quoted quote true reversed) (.quoted quote false (c :: reversed))
  | escaped {quote : Char} {reversed : List Char} (backslash : c = '\\') :
      Step c (.quoted quote false reversed) (.quoted quote true reversed)
  | closed {quote : Char} {reversed : List Char} (isEnd : c = quote) :
      Step c (.quoted quote false reversed) (.closed reversed.reverse)
  | quoted {quote : Char} {reversed : List Char} (notBackslash : c ≠ '\\')
      (notEnd : c ≠ quote) :
      Step c (.quoted quote false reversed) (.quoted quote false (c :: reversed))
  | passed {content : List Char} (blank : Text.isBlank c = true) :
      Step c (.closed content) (.closed content)

theorem step_of_step? {slot next : Slot} {c : Char} (stepped : slot.step? c = some next) :
    Step c slot next := by
  cases slot with
  | plain reversed =>
      simp only [step?] at stepped
      split at stepped
      next isQuote =>
        split at stepped
        next blank =>
          cases stepped
          exact .opened isQuote (Text.allBlank_eq_true_iff.1 blank)
        next => cases stepped
      next notQuote =>
        split at stepped
        next => cases stepped
        next notOpening =>
          cases stepped
          exact .collected notQuote notOpening
  | quoted quote escaped reversed =>
      cases escaped with
      | true => cases stepped; exact .literal
      | false =>
          simp only [step?] at stepped
          split at stepped
          next backslash => cases stepped; exact .escaped backslash
          next notBackslash =>
            split at stepped
            next isEnd => cases stepped; exact .closed isEnd
            next notEnd => cases stepped; exact .quoted notBackslash notEnd
  | closed content =>
      simp only [step?] at stepped
      split at stepped
      next blank => cases stepped; exact .passed blank
      next => cases stepped

variable {slot next : Slot} {c : Char}

theorem Step.isSound (step : Step c slot next) (sound : slot.IsSound)
    (separated : slot.isOpen = false → c ≠ ',' ∧ c ≠ ')') : next.IsSound := by
  cases step with
  | opened isQuote => exact isQuote
  | collected notQuote notOpening =>
      intro other member
      rcases List.mem_cons.1 member with rfl | member
      · rintro (isQuote | comma | opening | close)
        · exact notQuote isQuote
        · exact (separated rfl).1 comma
        · exact notOpening opening
        · exact (separated rfl).2 close
      · exact sound other member
  | literal | escaped | quoted => exact sound
  | closed | passed => trivial

theorem Step.completes {text : List Char} {arg : Argument} (step : Step c slot next)
    (completes : next.Completes text arg) : slot.Completes (c :: text) arg := by
  cases step with
  | @opened reversed isQuote blank =>
      obtain ⟨written, content, after, rfl, quotes, blankAfter, rfl⟩ := completes
      have slot := IsSlot.quoted (Text.isBlank_reverse.2 blank) isQuote quotes blankAfter
      simpa [Completes] using slot
  | collected => simpa [Completes] using completes
  | literal =>
      obtain ⟨written, content, after, rfl, quotes, blankAfter, rfl⟩ := completes
      exact ⟨c, written, content, after, rfl, quotes, blankAfter, by simp⟩
  | escaped backslash =>
      subst backslash
      obtain ⟨other, written, content, after, rfl, quotes, blankAfter, rfl⟩ := completes
      exact ⟨'\\' :: other :: written, other :: content, after, rfl, .literal other quotes,
        blankAfter, rfl⟩
  | closed isEnd =>
      subst isEnd
      obtain ⟨blankAfter, rfl⟩ := completes
      exact ⟨[], [], text, rfl, .nil, blankAfter, by simp⟩
  | quoted notBackslash notEnd =>
      obtain ⟨written, content, after, rfl, quotes, blankAfter, rfl⟩ := completes
      exact ⟨c :: written, c :: content, after, rfl, .plain notBackslash notEnd quotes,
        blankAfter, by simp⟩
  | passed blank =>
      obtain ⟨blankText, rfl⟩ := completes
      exact ⟨List.forall_mem_cons.2 ⟨blank, blankText⟩, rfl⟩

/-- A slot is vacant only after blanks. -/
theorem Step.isVacant (step : Step c slot next) (vacant : next.isVacant = true) :
    slot.isVacant = true ∧ Text.isBlank c = true := by
  cases step with
  | collected =>
      simp only [Slot.isVacant, Text.allBlank, List.all_cons, Bool.and_eq_true] at vacant
      exact ⟨vacant.2, vacant.1⟩
  | opened | literal | escaped | closed | quoted | passed => cases vacant

/-- The text completes what has been read to slots with commas between them. -/
inductive CompletesSlots (slot : Slot) : (list : List Char) → List Argument → Prop where
  | last {text : List Char} {arg : Argument} (completes : slot.Completes text arg) :
      CompletesSlots slot text [arg]
  | more {text list : List Char} {arg : Argument} {args : List Argument}
      (completes : slot.Completes text arg) (rest : AreSlots list args) :
      CompletesSlots slot (text ++ ',' :: list) (arg :: args)

theorem Step.completesSlots {list : List Char} {args : List Argument} (step : Step c slot next)
    (completes : next.CompletesSlots list args) : slot.CompletesSlots (c :: list) args := by
  cases completes with
  | last completes => exact .last (step.completes completes)
  | more completes rest => exact .more (step.completes completes) rest

theorem CompletesSlots.areSlots {list : List Char} {args : List Argument}
    (completes : (Slot.plain []).CompletesSlots list args) : AreSlots list args := by
  cases completes with
  | last completes => exact .last completes
  | more completes rest => exact .more completes rest

end Slot

/-- What the arguments are that a scan reads up to the closing parenthesis, from a slot on:
none where there are only blanks, and else those of the slots. -/
def Scans (before : List Argument) (slot : Slot) (list : List Char) (args : List Argument) :
    Prop :=
  (slot.isVacant = true ∧ before = [] ∧ IsBlank list ∧ args = []) ∨
    ∃ others, slot.CompletesSlots list others ∧ args = before.reverse ++ others

theorem Scans.cons {before args : List Argument} {slot next : Slot} {c : Char}
    {list : List Char} (step : Slot.Step c slot next)
    (scans : Scans before next list args) : Scans before slot (c :: list) args := by
  rcases scans with ⟨vacant, first, blank, none⟩ | ⟨others, completes, equal⟩
  · obtain ⟨vacant, blankFirst⟩ := step.isVacant vacant
    exact Or.inl ⟨vacant, first, List.forall_mem_cons.2 ⟨blankFirst, blank⟩, none⟩
  · exact Or.inr ⟨others, step.completesSlots completes, equal⟩

/-- What a scan accepts is a list of arguments and the closing parenthesis. -/
theorem exists_of_scanSlots? {before args : List Argument} {slot : Slot}
    {text trailing : List Char} (sound : slot.IsSound)
    (scanned : scanSlots? before slot text = some (args, trailing)) :
    ∃ list, text = list ++ ')' :: trailing ∧ Scans before slot list args := by
  induction text generalizing before slot with
  | nil => cases scanned
  | cons c rest ih =>
      rw [scanSlots?] at scanned
      split at scanned
      next isOpen =>
        obtain ⟨next, stepped, scanned⟩ := Option.bind_eq_some_iff.1 scanned
        have step := Slot.step_of_step? stepped
        obtain ⟨list, rfl, scans⟩ := ih (step.isSound sound (by simp [isOpen])) scanned
        exact ⟨c :: list, rfl, scans.cons step⟩
      next =>
        split at scanned
        next comma =>
          obtain ⟨arg, finished, scanned⟩ := Option.bind_eq_some_iff.1 scanned
          obtain ⟨list, rfl, scans⟩ := ih Slot.isSound_start scanned
          refine ⟨',' :: list, by rw [comma]; rfl, ?_⟩
          rcases scans with ⟨-, first, -⟩ | ⟨others, completes, rfl⟩
          · cases first
          · exact Or.inr ⟨arg :: others,
              .more (Slot.completes_nil sound finished) completes.areSlots, by simp⟩
        next notComma =>
          split at scanned
          next close =>
            subst close
            split at scanned
            next empty =>
              cases scanned
              simp only [Bool.and_eq_true, List.isEmpty_iff] at empty
              exact ⟨[], rfl, Or.inl ⟨empty.1, empty.2, Text.isBlank_nil, rfl⟩⟩
            next =>
              obtain ⟨arg, finished, equal⟩ := Option.map_eq_some_iff.1 scanned
              cases equal
              exact ⟨[], rfl,
                Or.inr ⟨[arg], .last (Slot.completes_nil sound finished), by simp⟩⟩
          next notClose =>
            obtain ⟨next, stepped, scanned⟩ := Option.bind_eq_some_iff.1 scanned
            have step := Slot.step_of_step? stepped
            obtain ⟨list, rfl, scans⟩ :=
              ih (step.isSound sound fun _ => ⟨notComma, notClose⟩) scanned
            exact ⟨c :: list, rfl, scans.cons step⟩

theorem areArguments_of_scanArguments? {text trailing : List Char} {args : List Argument}
    (scanned : scanArguments? text = some (args, trailing)) :
    ∃ list, text = list ++ ')' :: trailing ∧ AreArguments list args := by
  obtain ⟨list, cut, scans⟩ := exists_of_scanSlots? Slot.isSound_start scanned
  refine ⟨list, cut, ?_⟩
  rcases scans with ⟨-, -, blank, none⟩ | ⟨others, completes, rfl⟩
  · exact Or.inl ⟨blank, none⟩
  · exact Or.inr completes.areSlots

/-! ## What is in the grammar is accepted -/

section Driving

variable (before : List Argument)

/-- Inside quotes a scan collects the content up to the closing quote. -/
theorem scanSlots?_quotes {quote : Char} {written content : List Char}
    (quotes : Quotes quote written content) (reversed rest : List Char)
    (notBackslash : quote ≠ '\\') :
    scanSlots? before (.quoted quote false reversed) (written ++ quote :: rest) =
      scanSlots? before (.closed (reversed.reverse ++ content)) rest := by
  induction quotes generalizing reversed with
  | nil =>
      simp [scanSlots?, Slot.isOpen, Slot.step?, notBackslash]
  | literal c quotes ih =>
      simp [scanSlots?, Slot.isOpen, Slot.step?, ih]
  | plain notBackslash notQuote quotes ih =>
      simp [scanSlots?, Slot.isOpen, Slot.step?, ih, notBackslash, notQuote]

/-- After quotes a scan passes over blanks. -/
theorem scanSlots?_closed (content : List Char) {after : List Char} (blank : IsBlank after)
    (rest : List Char) :
    scanSlots? before (.closed content) (after ++ rest) =
      scanSlots? before (.closed content) rest := by
  induction after with
  | nil => rfl
  | cons c after ih =>
      have blankFirst : Text.isBlank c = true := blank c List.mem_cons_self
      have notComma : c ≠ ',' := by rintro rfl; cases blankFirst
      have notClose : c ≠ ')' := by rintro rfl; cases blankFirst
      have stepped := ih fun other member => blank other (List.mem_cons_of_mem c member)
      simp [scanSlots?, Slot.isOpen, Slot.step?, blankFirst, notComma, notClose, stepped]

/-- Outside quotes a scan collects what has no meaning of its own. -/
theorem scanSlots?_plain {slot : List Char} (unquoted : ∀ c ∈ slot, ¬ IsDelimiter c)
    (reversed rest : List Char) :
    scanSlots? before (.plain reversed) (slot ++ rest) =
      scanSlots? before (.plain (slot.reverse ++ reversed)) rest := by
  induction slot generalizing reversed with
  | nil => rfl
  | cons c slot ih =>
      have plain := unquoted c List.mem_cons_self
      simp only [IsDelimiter, IsQuote, not_or] at plain
      have stepped := ih (fun other member => unquoted other (List.mem_cons_of_mem c member))
        (c :: reversed)
      simp [scanSlots?, Slot.isOpen, Slot.step?, plain, stepped]

theorem not_isDelimiter_of_isBlank {c : Char} (blank : Text.isBlank c = true) :
    ¬ IsDelimiter c := by
  rintro ((rfl | rfl) | rfl | rfl | rfl) <;> cases blank

/-- A scan comes through a slot to a state from which its argument is finished. -/
theorem exists_scanSlots?_slot {slot : List Char} {arg : Argument} (isSlot : IsSlot slot arg) :
    ∃ reached : Slot, reached.isOpen = false ∧ reached.finish? = some arg ∧
      reached.isVacant = false ∧
      ∀ rest, scanSlots? before (.plain []) (slot ++ rest) = scanSlots? before reached rest := by
  cases isSlot with
  | @quoted front written content after quote blankBefore isQuote quotes blankAfter =>
      refine ⟨.closed content, rfl, rfl, rfl, fun rest => ?_⟩
      have notBackslash : quote ≠ '\\' := by rcases isQuote with rfl | rfl <;> decide
      have opened : scanSlots? before (.plain (front.reverse ++ []))
          (quote :: (written ++ quote :: (after ++ rest))) =
          scanSlots? before (.quoted quote false []) (written ++ quote :: (after ++ rest)) := by
        have vacant : Text.allBlank front.reverse = true :=
          Text.allBlank_eq_true_iff.2 (Text.isBlank_reverse.2 blankBefore)
        rcases isQuote with rfl | rfl <;>
          simp [scanSlots?, Slot.isOpen, Slot.step?, vacant]
      calc scanSlots? before (.plain [])
            (front ++ quote :: written ++ quote :: after ++ rest)
        _ = scanSlots? before (.plain [])
              (front ++ quote :: (written ++ quote :: (after ++ rest))) := by simp
        _ = scanSlots? before (.quoted quote false [])
              (written ++ quote :: (after ++ rest)) := by
            rw [scanSlots?_plain before
              (fun c member => not_isDelimiter_of_isBlank (blankBefore c member)), opened]
        _ = scanSlots? before (.closed content) rest := by
            rw [scanSlots?_quotes before quotes [] _ notBackslash,
              scanSlots?_closed before _ blankAfter]
            rfl
  | number unquoted filled denotes =>
      refine ⟨.plain slot.reverse, rfl, ?_, ?_, fun rest => ?_⟩
      · rw [Slot.finish?, List.reverse_reverse, unquoted?_of_number filled denotes]
      · rw [Slot.isVacant, Bool.eq_false_iff, Ne, Text.allBlank_eq_true_iff,
          Text.isBlank_reverse]
        exact filled
      · rw [scanSlots?_plain before unquoted, List.append_nil]
  | column unquoted filled noNumber =>
      refine ⟨.plain slot.reverse, rfl, ?_, ?_, fun rest => ?_⟩
      · rw [Slot.finish?, List.reverse_reverse, unquoted?_of_column filled noNumber]
      · rw [Slot.isVacant, Bool.eq_false_iff, Ne, Text.allBlank_eq_true_iff,
          Text.isBlank_reverse]
        exact filled
      · rw [scanSlots?_plain before unquoted, List.append_nil]

end Driving

theorem scanSlots?_of_areSlots {list : List Char} {args : List Argument}
    (areSlots : AreSlots list args) (before : List Argument) (trailing : List Char) :
    scanSlots? before (.plain []) (list ++ ')' :: trailing) =
      some (before.reverse ++ args, trailing) := by
  induction areSlots generalizing before with
  | last isSlot =>
      obtain ⟨reached, closed, finished, filled, scanned⟩ :=
        exists_scanSlots?_slot before isSlot
      rw [scanned, scanSlots?]
      simp [closed, finished, filled]
  | @more slot list arg args isSlot rest ih =>
      obtain ⟨reached, closed, finished, filled, scanned⟩ :=
        exists_scanSlots?_slot before isSlot
      rw [List.append_assoc, scanned, List.cons_append, scanSlots?]
      simp [closed, finished, ih]

theorem scanArguments?_of_areArguments {list : List Char} {args : List Argument}
    (areArguments : AreArguments list args) (trailing : List Char) :
    scanArguments? (list ++ ')' :: trailing) = some (args, trailing) := by
  rcases areArguments with ⟨blank, rfl⟩ | areSlots
  · rw [scanArguments?, scanSlots?_plain []
      (fun c member => not_isDelimiter_of_isBlank (blank c member)), scanSlots?]
    have vacant : Text.allBlank list.reverse = true :=
      Text.allBlank_eq_true_iff.2 (Text.isBlank_reverse.2 blank)
    simp [Slot.isOpen, Slot.isVacant, vacant]
  · exact scanSlots?_of_areSlots areSlots [] trailing

/-! ## Names -/

theorem startsName_eq_true_iff {c : Char} :
    startsName c = true ↔ c.isAlpha = true ∨ c = '_' := by
  simp [startsName]

theorem continuesName_eq_true_iff {c : Char} :
    continuesName c = true ↔ c.isAlphanum = true ∨ c = '_' := by
  simp [continuesName]

theorem splitName?_eq_some {text name rest : List Char}
    (split : splitName? text = some (name, rest)) : text = name ++ rest ∧ IsName name := by
  cases text with
  | nil => cases split
  | cons c text =>
      simp only [splitName?] at split
      split at split
      next starts =>
        cases split
        refine ⟨?_, startsName_eq_true_iff.1 starts, fun other member =>
          continuesName_eq_true_iff.1 (List.mem_takeWhile_imp member)⟩
        rw [List.cons_append, List.takeWhile_append_dropWhile]
      next => cases split

/-- A name is split off as a whole where something else follows it. -/
theorem splitName?_append {name rest : List Char} (isName : IsName name)
    (ends : ∀ c ∈ rest.head?, continuesName c = false) :
    splitName? (name ++ rest) = some (name, rest) := by
  cases name with
  | nil => exact absurd isName id
  | cons c name =>
      have starts : startsName c = true := startsName_eq_true_iff.2 isName.1
      have continues : ∀ other ∈ name, continuesName other = true := fun other member =>
        continuesName_eq_true_iff.2 (isName.2 other member)
      have nothing : rest.takeWhile continuesName = [] ∧
          rest.dropWhile continuesName = rest := by
        cases rest with
        | nil => exact ⟨rfl, rfl⟩
        | cons other rest => simp [ends other rfl]
      rw [List.cons_append, splitName?, if_pos starts,
        List.takeWhile_append_of_pos continues, List.dropWhile_append_of_pos continues,
        nothing.1, nothing.2, List.append_nil]

theorem continuesName_of_mem {name : List Char} (isName : IsName name) {c : Char}
    (member : c ∈ name) : continuesName c = true := by
  cases name with
  | nil => cases member
  | cons first name =>
      rw [continuesName_eq_true_iff]
      rcases List.mem_cons.1 member with rfl | member
      · exact isName.1.imp (fun letter => by simp [Char.isAlphanum, letter]) id
      · exact isName.2 c member

/-- The characters of names are letters, digits and underscores. -/
theorem code_of_continuesName {c : Char} (continues : continuesName c = true) :
    (65 ≤ c.toNat ∧ c.toNat ≤ 90) ∨ (97 ≤ c.toNat ∧ c.toNat ≤ 122) ∨
      (48 ≤ c.toNat ∧ c.toNat ≤ 57) ∨ c.toNat = 95 := by
  delta continuesName Char.isAlphanum Char.isAlpha Char.isUpper Char.isLower Char.isDigit
    at continues
  simp only [Bool.or_eq_true, beq_iff_eq, decide_eq_true_eq, Bool.and_eq_true,
    UInt32.le_iff_toNat_le, ge_iff_le] at continues
  rcases continues with (((⟨low, high⟩ | ⟨low, high⟩) | ⟨low, high⟩) | rfl)
  · exact Or.inl ⟨low, high⟩
  · exact Or.inr (Or.inl ⟨low, high⟩)
  · exact Or.inr (Or.inr (Or.inl ⟨low, high⟩))
  · decide

theorem isBlank_eq_false_of_continuesName {c : Char} (continues : continuesName c = true) :
    Text.isBlank c = false := by
  have code := code_of_continuesName continues
  rw [Bool.eq_false_iff]
  intro blank
  simp only [Text.isBlank, Bool.or_eq_true, Bool.and_eq_true, decide_eq_true_eq, beq_iff_eq]
    at blank
  omega

theorem continuesName_eq_false_of_isBlank {c : Char} (blank : Text.isBlank c = true) :
    continuesName c = false := by
  rw [Bool.eq_false_iff]
  intro continues
  rw [isBlank_eq_false_of_continuesName continues] at blank
  cases blank

theorem upper_of_isName {name : List Char} (isName : IsName name) :
    Text.upper name = name.map Char.toUpper := by
  rw [Text.upper, List.map_eq_flatMap]
  apply List.flatMap_congr
  intro c member
  have code := code_of_continuesName (continuesName_of_mem isName member)
  rw [Text.upperChar, if_pos (by omega)]

namespace IsName

variable {name : List Char}

theorem ne_nil (isName : IsName name) : name ≠ [] := by
  rintro rfl
  exact isName

theorem isBlank_head? (isName : IsName name) : ∀ c ∈ name.head?, Text.isBlank c = false :=
  fun _ member => isBlank_eq_false_of_continuesName
    (continuesName_of_mem isName (List.mem_of_mem_head? member))

end IsName

/-! ## Reading -/

section Structured

variable {text : List Char}

theorem structured?_eq (text : List Char) :
    structured? text = (splitName? (Text.trim text)).bind fun (name, rest) =>
      match Text.trimStart rest with
      | [] => some (.bare (String.ofList name))
      | '(' :: inner => (scanArguments? inner).bind fun (args, trailing) =>
          if Text.allBlank trailing then
            some (.call ⟨String.ofList (Text.upper name), args⟩)
          else none
      | _ => none := rfl

/-- A name is read as such. -/
theorem structured?_of_isName (isName : IsName (Text.trim text)) :
    structured? text = some (.bare (String.ofList (Text.trim text))) := by
  have whole : splitName? (Text.trim text ++ []) = some (Text.trim text, []) :=
    splitName?_append isName (fun _ member => by cases member)
  rw [List.append_nil] at whole
  rw [structured?_eq, whole]
  rfl

theorem trim_of_call {before name gap list after : List Char} (blankBefore : IsBlank before)
    (isName : IsName name) (blankAfter : IsBlank after) :
    Text.trim (before ++ name ++ gap ++ '(' :: list ++ ')' :: after) =
      name ++ (gap ++ '(' :: (list ++ [')'])) := by
  have cut : before ++ name ++ gap ++ '(' :: list ++ ')' :: after =
      before ++ (name ++ (gap ++ '(' :: (list ++ [')']))) ++ after := by
    simp
  rw [cut]
  apply Text.trim_append blankBefore blankAfter
  · rw [List.head?_append_of_ne_nil _ isName.ne_nil]
    exact isName.isBlank_head?
  · have last : (name ++ (gap ++ '(' :: (list ++ [')']))).getLast? = some ')' := by
      rw [← List.append_assoc, ← List.cons_append, ← List.append_assoc]
      exact List.getLast?_concat
    rw [last]
    rintro c ⟨⟩
    rfl
  · simp [isName.ne_nil]

/-- A call is read as such. -/
theorem structured?_of_isCall {call : Call} (isCall : IsCall text call) :
    structured? text = some (.call call) := by
  obtain ⟨blankBefore, isName, blankGap, areArguments, blankAfter⟩ := isCall
  rename_i before name gap list after args
  have nameEnds : ∀ c ∈ (gap ++ '(' :: (list ++ [')'])).head?, continuesName c = false := by
    intro c member
    cases gap with
    | nil => cases member; rfl
    | cons first gap =>
        obtain rfl : first = c := Option.some.inj member
        exact continuesName_eq_false_of_isBlank (blankGap first List.mem_cons_self)
  have opened : Text.trimStart (gap ++ '(' :: (list ++ [')'])) = '(' :: (list ++ [')']) :=
    Text.trimStart_append blankGap (by rintro c ⟨⟩; rfl)
  rw [structured?_eq, trim_of_call blankBefore isName blankAfter,
    splitName?_append isName nameEnds]
  simp only [Option.bind_some, opened, scanArguments?_of_areArguments areArguments []]
  simp [Text.allBlank, upper_of_isName isName]

/-- What is read is a name or a call. -/
theorem isName_or_isCall_of_structured? {expression : Expression}
    (read : structured? text = some expression) :
    (IsName (Text.trim text) ∧ expression = .bare (String.ofList (Text.trim text))) ∨
      ∃ call, IsCall text call ∧ expression = .call call := by
  rw [structured?_eq] at read
  obtain ⟨⟨name, rest⟩, split, read⟩ := Option.bind_eq_some_iff.1 read
  obtain ⟨cut, isName⟩ := splitName?_eq_some split
  obtain ⟨gap, blankGap, gapped⟩ := Text.exists_eq_append_trimStart rest
  simp only at read
  split at read
  next ended =>
    cases read
    rw [ended, List.append_nil] at gapped
    have nothing : rest = [] := Text.eq_nil_of_trim_eq_append cut (gapped ▸ blankGap)
    rw [nothing, List.append_nil] at cut
    rw [cut]
    exact Or.inl ⟨isName, rfl⟩
  next inner opened =>
    obtain ⟨⟨args, trailing⟩, scanned, read⟩ := Option.bind_eq_some_iff.1 read
    simp only at read
    split at read
    next blankTrailing =>
      cases read
      obtain ⟨list, rfl, areArguments⟩ := areArguments_of_scanArguments? scanned
      obtain ⟨before, after, blankBefore, blankAfter, whole⟩ := Text.exists_eq_append_trim text
      have isCall := IsCall.intro blankBefore isName blankGap areArguments
        (Text.isBlank_append.2 ⟨Text.allBlank_eq_true_iff.1 blankTrailing, blankAfter⟩)
      refine Or.inr ⟨_, ?_, rfl⟩
      rw [upper_of_isName isName]
      have sameText :
          text = before ++ name ++ gap ++ '(' :: list ++ ')' :: (trailing ++ after) := by
        rw [whole, cut, gapped, opened]
        simp
      rw [sameText]
      exact isCall
    next => cases read
  next => cases read

end Structured

/-- Reading accepts exactly the names and the calls of the grammar, and gives what they
denote; a text that is neither is left as it is. -/
theorem read_iff_grammar (text : String) :
    (∀ name, read text = .bare name ↔
      IsName (Text.trim text.toList) ∧ name = String.ofList (Text.trim text.toList)) ∧
    (∀ call, read text = .call call ↔ IsCall text.toList call) ∧
    (∀ content, read text = .opaqueText content ↔
      content = text ∧ ¬ IsName (Text.trim text.toList) ∧
        ¬ ∃ call, IsCall text.toList call) := by
  cases structured : structured? text.toList with
  | none =>
      have noName : ¬ IsName (Text.trim text.toList) := fun isName => by
        rw [structured?_of_isName isName] at structured
        cases structured
      have noCall : ∀ call, ¬ IsCall text.toList call := fun call isCall => by
        rw [structured?_of_isCall isCall] at structured
        cases structured
      simp [read, structured, noName, noCall, eq_comm]
  | some expression =>
      rcases isName_or_isCall_of_structured? structured with
        ⟨isName, rfl⟩ | ⟨call, isCall, rfl⟩
      · have noCall : ∀ call, ¬ IsCall text.toList call := fun call isCall => by
          rw [structured?_of_isCall isCall] at structured
          cases structured
        simp [read, structured, isName, noCall, eq_comm]
      · have noName : ¬ IsName (Text.trim text.toList) := fun isName => by
          rw [structured?_of_isName isName] at structured
          cases structured
        have unique : ∀ other, IsCall text.toList other ↔ call = other := by
          intro other
          constructor
          · intro isOther
            rw [structured?_of_isCall isOther] at structured
            cases structured
            rfl
          · rintro rfl
            exact isCall
        simp [read, structured, noName, unique]

end ColumnChain.Expression
