import Mathlib.Algebra.Group.Nat.Even
import ColumnChain.Delimited.Detection
import ColumnChain.Proofs.Exporting

/-!
# The delimiter that the lines agree on

A candidate that every sampled line has equally often outside quotes is guessed before any that
the lines do not agree on; of several the one that occurs more often, and a tab among equals.
Agreement is weighed against frequency, though, a thousand to one. So the guess goes astray where
the first line has some other candidate more than a thousand times, which takes a first line of
more than a thousand characters.
-/

namespace ColumnChain

namespace Text

/-- ASCII characters are encoded by one byte each. -/
theorem encode_of_ascii {text : List Char} (ascii : ∀ c ∈ text, c.toNat < 128) :
    encode (String.ofList text) = text.map byte := by
  have bytes : encode (String.ofList text) = text.flatMap String.utf8EncodeChar := by
    rw [encode_eq_data]
    simp [List.utf8Encode]
  rw [bytes, List.map_eq_flatMap]
  refine List.flatMap_congr fun c member => ?_
  have small : c.val ≤ 127 := Nat.le_of_lt_succ (ascii c member)
  rw [String.utf8EncodeChar_eq_singleton (Char.utf8Size_eq_one_iff.2 small)]
  rfl

theorem eq_of_byte_eq {c d : Char} (ascii : c.toNat < 128) (alsoAscii : d.toNat < 128)
    (same : byte c = byte d) : c = d := by
  have codes := congrArg UInt8.toNat same
  simp only [byte, Nat.toUInt8, UInt8.toNat_ofNat'] at codes
  exact Char.toNat_inj.1 (by omega)

end Text

namespace Delimited

/-! ## Counting -/

/-- How often a character stands in a text outside quotes, that is, at how many places it comes
after an even number of them. -/
def occurrences (c : Char) (text : List Char) : ℕ :=
  (List.range text.length).countP fun place =>
    text[place]? = some c ∧ Even ((text.take place).count '"')

theorem countOutside_eq {c : Char} (notQuote : c ≠ '"') (inside : Bool) (text : List Char) :
    countOutside c inside text =
      (List.range text.length).countP fun place =>
        text[place]? = some c ∧ Even ((text.take place).count '"' + inside.toNat) := by
  induction text generalizing inside with
  | nil => rfl
  | cons d rest ih =>
      rw [List.length_cons, List.range_succ_eq_map, List.countP_cons, List.countP_map]
      by_cases isQuote : d = '"'
      · subst isQuote
        rw [countOutside, if_pos rfl, ih]
        cases inside <;>
          simp [notQuote.symm, Function.comp_def, Nat.even_add_one, Nat.odd_add_one]
      · rw [countOutside, if_neg isQuote]
        by_cases found : d = c ∧ inside = false
        · obtain ⟨rfl, rfl⟩ := found
          simp [ih, Function.comp_def, isQuote]
        · rw [if_neg found, ih]
          have notFirst : ¬ (d = c ∧ Even inside.toNat) := by
            cases inside <;> simp_all
          simp [Function.comp_def, isQuote, notFirst]

theorem countOutside_eq_occurrences {c : Char} (candidate : c ∈ candidates) (line : List Char) :
    countOutside c false line = occurrences c line := by
  have notQuote : c ≠ '"' := by
    rintro rfl
    exact absurd candidate (by decide)
  exact countOutside_eq notQuote false line

/-- Two characters do not stand in one place. -/
theorem occurrences_add_le {c d : Char} (differ : c ≠ d) (text : List Char) :
    occurrences c text + occurrences d text ≤ text.length := by
  rw [← List.length_range (n := text.length), List.length_eq_countP_add_countP fun place =>
    decide (text[place]? = some c ∧ Even ((text.take place).count '"'))]
  refine Nat.add_le_add_left (List.countP_mono_left fun place _ here => ?_) _
  simp only [decide_eq_true_eq] at here
  simp [here.1, differ.symm]

/-! ## Scores -/

/-- Every line has a character outside quotes equally often, and at least once. -/
def Agree (lines : List (List Char)) (c : Char) (n : ℕ) : Prop :=
  0 < n ∧ ∀ line ∈ lines, occurrences c line = n

instance (lines : List (List Char)) (c : Char) (n : ℕ) : Decidable (Agree lines c n) :=
  inferInstanceAs (Decidable (_ ∧ _))

/-- What agreement on a number of occurrences is worth. -/
def weight (c : Char) (n : ℕ) : ℕ :=
  n * 1000 + if c = '\t' then 100 else 0

/-- The advantage of tabs is less than one occurrence. -/
theorem le_of_weight_le {c d : Char} {m n : ℕ} (least : weight d m ≤ weight c n) : m ≤ n := by
  simp only [weight] at least
  split at least <;> split at least <;> omega

section Scores

variable {first : List Char} {rest : List (List Char)} {c : Char}

theorem score_cons (candidate : c ∈ candidates) (first : List Char) (rest : List (List Char)) :
    score (first :: rest) c =
      if occurrences c first = 0 then 0
      else if ∀ line ∈ rest, occurrences c line = occurrences c first then
        weight c (occurrences c first)
      else occurrences c first := by
  simp [score, countOutside_eq_occurrences candidate, weight]

theorem score_of_agree (candidate : c ∈ candidates) {n : ℕ} (agree : Agree (first :: rest) c n) :
    score (first :: rest) c = weight c n := by
  obtain ⟨positive, same⟩ := agree
  rw [List.forall_mem_cons] at same
  obtain ⟨rfl, others⟩ := same
  rw [score_cons candidate, if_neg positive.ne', if_pos others]

theorem score_of_not_agree (candidate : c ∈ candidates)
    (differ : ∀ n, ¬ Agree (first :: rest) c n) :
    score (first :: rest) c = occurrences c first := by
  rw [score_cons candidate]
  split
  next none => exact none.symm
  next some =>
    refine if_neg fun others => differ (occurrences c first) ⟨Nat.pos_of_ne_zero some, ?_⟩
    exact List.forall_mem_cons.2 ⟨rfl, others⟩

end Scores

/-! ## The best candidate -/

/-- One candidate is taken before another: its score is higher, or the same and it is looked for
first. -/
def Precedes (lines : List (List Char)) (c d : Char) : Prop :=
  score lines d < score lines c ∨
    score lines d = score lines c ∧ candidates.idxOf c < candidates.idxOf d

theorem Precedes.asymm {lines : List (List Char)} {c d : Char} (precedes : Precedes lines c d) :
    ¬ Precedes lines d c := by
  simp only [Precedes] at *
  omega

/-- One step of the search for the best candidate. -/
def choose (lines : List (List Char)) : ℕ × Char → Char → ℕ × Char
  | (highest, found), c =>
      if highest < score lines c then (score lines c, c) else (highest, found)

theorem best_eq (lines : List (List Char)) :
    best lines = (candidates.foldl (choose lines) (0, ',')).2 :=
  rfl

/-- The first of the candidates seen so far with the highest score, if there is one that scores,
together with this score. -/
structure IsBest (lines : List (List Char)) (seen : List Char) (state : ℕ × Char) : Prop where
  highest : ∀ c ∈ seen, score lines c ≤ state.1
  first : state = (0, ',') ∨ state.1 = score lines state.2 ∧
    ∃ before after, seen = before ++ state.2 :: after ∧ ∀ c ∈ before, score lines c < state.1

variable {lines : List (List Char)}

theorem IsBest.choose {seen : List Char} {state : ℕ × Char} (best : IsBest lines seen state)
    (c : Char) : IsBest lines (seen ++ [c]) (choose lines state c) := by
  rw [Delimited.choose]
  split
  next higher =>
    have lower : ∀ d ∈ seen, score lines d < score lines c := fun d member =>
      (best.highest d member).trans_lt higher
    refine ⟨List.forall_mem_append.2 ⟨fun d member => (lower d member).le, by simp⟩,
      Or.inr ⟨rfl, seen, [], rfl, lower⟩⟩
  next notHigher =>
    refine ⟨List.forall_mem_append.2 ⟨best.highest, by simpa using notHigher⟩, ?_⟩
    refine best.first.imp_right fun ⟨reached, before, after, parted, lower⟩ => ?_
    exact ⟨reached, before, after ++ [c], by simp [parted], lower⟩

theorem isBest_foldl (lines : List (List Char)) (seen : List Char) :
    IsBest lines seen (seen.foldl (choose lines) (0, ',')) := by
  induction seen using List.reverseRecOn with
  | nil => exact ⟨by simp, Or.inl rfl⟩
  | append_singleton seen c ih =>
      rw [List.foldl_append]
      exact ih.choose c

theorem best_mem (lines : List (List Char)) : best lines ∈ candidates := by
  have chosen := isBest_foldl lines candidates
  rw [best_eq]
  generalize candidates.foldl (choose lines) (0, ',') = state at chosen ⊢
  rcases chosen.first with rfl | ⟨-, before, after, parted, -⟩
  · decide
  · rw [parted]
    exact List.mem_append_right _ List.mem_cons_self

/-- The best candidate is taken before all others, if there is one that scores. -/
theorem best_precedes {c d : Char} (candidate : c ∈ candidates) (scores : 0 < score lines c)
    (other : d ∈ candidates) (differ : d ≠ best lines) : Precedes lines (best lines) d := by
  have chosen := isBest_foldl lines candidates
  rw [best_eq] at differ ⊢
  generalize candidates.foldl (choose lines) (0, ',') = state at chosen differ ⊢
  have atMost := chosen.highest d other
  rcases chosen.first with rfl | ⟨reached, before, after, parted, lower⟩
  · exact absurd (chosen.highest c candidate) scores.not_ge
  · rw [Precedes, ← reached]
    by_cases earlier : d ∈ before
    · exact Or.inl (lower d earlier)
    · have notBefore : state.2 ∉ before := fun member => by
        have := lower _ member
        omega
      have place : candidates.idxOf state.2 = before.length := by
        rw [parted, List.idxOf_append_of_notMem notBefore, List.idxOf_cons_self, Nat.add_zero]
      have later : candidates.idxOf d = before.length + (after.idxOf d + 1) := by
        rw [parted, List.idxOf_append_of_notMem earlier, List.idxOf_cons_ne _ differ.symm]
      omega

/-! ## Agreement and frequency -/

/-- A candidate that the lines agree on as the guess is meant to be: no other that they agree on
occurs more often, and it is a tab if a tab occurs as often. -/
def Leads (lines : List (List Char)) (c : Char) : Prop :=
  ∃ n, Agree lines c n ∧ (∀ d ∈ candidates, ∀ m, Agree lines d m → m ≤ n) ∧
    (Agree lines '\t' n → c = '\t')

/-- The first line has one candidate so often that it is taken before another that the lines agree
on. -/
def Overtakes (first : List Char) (d c : Char) (n : ℕ) : Prop :=
  weight c n < occurrences d first ∨
    weight c n = occurrences d first ∧ candidates.idxOf d < candidates.idxOf c

instance (first : List Char) (d c : Char) (n : ℕ) : Decidable (Overtakes first d c n) :=
  inferInstanceAs (Decidable (_ ∨ _))

section Guess

variable {first : List Char} {rest : List (List Char)}

theorem overtakes_iff_precedes {c d : Char} (candidate : c ∈ candidates) (other : d ∈ candidates)
    {n : ℕ} (agree : Agree (first :: rest) c n) (differ : ∀ m, ¬ Agree (first :: rest) d m) :
    Overtakes first d c n ↔ Precedes (first :: rest) d c := by
  rw [Overtakes, Precedes, score_of_agree candidate agree, score_of_not_agree other differ]

theorem best_precedes_of_agree {c d : Char} (candidate : c ∈ candidates) {n : ℕ}
    (agree : Agree (first :: rest) c n) (other : d ∈ candidates)
    (differ : d ≠ best (first :: rest)) : Precedes (first :: rest) (best (first :: rest)) d := by
  refine best_precedes candidate ?_ other differ
  rw [score_of_agree candidate agree, weight]
  have := agree.1
  omega

/-- The best candidate leads if the lines agree on it. -/
theorem leads_of_agree {n : ℕ} (agree : Agree (first :: rest) (best (first :: rest)) n) :
    Leads (first :: rest) (best (first :: rest)) := by
  have member := best_mem (first :: rest)
  have atMost {d : Char} (other : d ∈ candidates) {m : ℕ} (agreed : Agree (first :: rest) d m) :
      weight d m ≤ weight (best (first :: rest)) n := by
    rw [← score_of_agree member agree, ← score_of_agree other agreed]
    by_cases same : d = best (first :: rest)
    · rw [same]
    · rcases best_precedes_of_agree member agree other same with lower | ⟨equal, -⟩
      · exact lower.le
      · exact equal.le
  refine ⟨n, agree, fun d other m agreed => ?_, fun agreed => ?_⟩
  · exact le_of_weight_le (atMost other agreed)
  · by_contra notTab
    have bound := atMost (by decide) agreed
    simp only [weight, if_neg notTab, if_pos] at bound
    omega

theorem best_leads_iff :
    Leads (first :: rest) (best (first :: rest)) ↔
      ¬ ∃ d ∈ candidates, (∀ m, ¬ Agree (first :: rest) d m) ∧
        ∀ c ∈ candidates, ∀ n, Agree (first :: rest) c n → Overtakes first d c n := by
  have member := best_mem (first :: rest)
  constructor
  · rintro ⟨n, agree, -⟩ ⟨d, other, differ, overtakes⟩
    have before := (overtakes_iff_precedes member other agree differ).1
      (overtakes _ member n agree)
    refine before.asymm (best_precedes_of_agree member agree other ?_)
    rintro rfl
    exact differ n agree
  · intro notOvertaken
    by_contra notLeading
    have differ (m : ℕ) : ¬ Agree (first :: rest) (best (first :: rest)) m := fun agree =>
      notLeading (leads_of_agree agree)
    refine notOvertaken ⟨_, member, differ, fun c candidate n agree => ?_⟩
    rw [overtakes_iff_precedes candidate member agree differ]
    refine best_precedes_of_agree candidate agree candidate ?_
    rintro rfl
    exact differ n agree

theorem eq_of_candidates_byte_eq {c d : Char} (candidate : c ∈ candidates)
    (other : d ∈ candidates) (same : Text.byte c = Text.byte d) : c = d := by
  have ascii {c : Char} (candidate : c ∈ candidates) : c.toNat < 128 := by
    simp only [candidates, List.mem_cons, List.not_mem_nil, or_false] at candidate
    rcases candidate with rfl | rfl | rfl | rfl <;> decide
  exact Text.eq_of_byte_eq (ascii candidate) (ascii other) same

variable {bytes : Bytes}

theorem detect_eq (sampled : sample bytes = first :: rest) :
    detect bytes = .ok (Text.byte (best (first :: rest))) := by
  rw [detect, sampled]

/-- The guess is the candidate that leads among those that the lines agree on, unless the first
line has one that they do not agree on so often that it overtakes all of these. -/
theorem detect_leads_iff (sampled : sample bytes = first :: rest) :
    (∃ c ∈ candidates, detect bytes = .ok (Text.byte c) ∧ Leads (sample bytes) c) ↔
      ¬ ∃ d ∈ candidates, (∀ m, ¬ Agree (sample bytes) d m) ∧
        ∀ c ∈ candidates, ∀ n, Agree (sample bytes) c n → Overtakes first d c n := by
  rw [detect_eq sampled, sampled, ← best_leads_iff]
  constructor
  · rintro ⟨c, candidate, same, leads⟩
    rw [eq_of_candidates_byte_eq (best_mem _) candidate (Except.ok.inj same)]
    exact leads
  · intro leads
    exact ⟨_, best_mem _, rfl, leads⟩

end Guess

/-! ## Lines in bytes -/

/-- The bytes of lines of ASCII characters. -/
def written (lines : List (List Char)) : Bytes :=
  lines.flatMap fun line => line.map Text.byte ++ [Text.byte '\n']

/-- A line that is sampled as it was written. -/
structure IsPlain (line : List Char) : Prop where
  ascii : ∀ c ∈ line, c.toNat < 128
  inLine : '\n' ∉ line
  noReturn : '\r' ∉ line
  filled : Text.allBlank line = false

instance (line : List Char) : Decidable (IsPlain line) :=
  decidable_of_iff (line.all (fun c => c.toNat < 128) = true ∧ '\n' ∉ line ∧ '\r' ∉ line ∧
      Text.allBlank line = false)
    ⟨fun ⟨ascii, inLine, noReturn, filled⟩ =>
        ⟨fun c member => of_decide_eq_true (List.all_eq_true.1 ascii c member), inLine, noReturn,
          filled⟩,
      fun plain => ⟨List.all_eq_true.2 fun c member => decide_eq_true (plain.ascii c member),
        plain.inLine, plain.noReturn, plain.filled⟩⟩

namespace IsPlain

variable {line : List Char} (plain : IsPlain line)
include plain

theorem byte_not_mem {c : Char} (ascii : c.toNat < 128) (absent : c ∉ line) :
    Text.byte c ∉ line.map Text.byte := by
  intro member
  obtain ⟨d, inside, same⟩ := List.mem_map.1 member
  rw [Text.eq_of_byte_eq (plain.ascii d inside) ascii same] at inside
  exact absent inside

theorem decode?_map_byte :
    Text.decode? (line.map Text.byte) = some (String.ofList line) := by
  rw [← Text.encode_of_ascii plain.ascii, Text.decode?_encode]

end IsPlain

theorem linesFrom_append {line : Bytes} (inLine : Text.byte '\n' ∉ line) (read rest : Bytes) :
    linesFrom read (line ++ Text.byte '\n' :: rest) =
      (withoutReturn (line.reverse ++ read)).reverse :: linesFrom [] rest := by
  induction line generalizing read with
  | nil => rw [List.nil_append, linesFrom, if_pos rfl, List.reverse_nil, List.nil_append]
  | cons b line ih =>
      rw [List.mem_cons, not_or] at inLine
      rw [List.cons_append, linesFrom, if_neg (Ne.symm inLine.1), ih inLine.2,
        List.reverse_cons, List.append_assoc, List.singleton_append]

theorem withoutReturn_eq_self {line : Bytes} (noReturn : Text.byte '\r' ∉ line) :
    withoutReturn line = line := by
  rw [withoutReturn.eq_def]
  split
  next => exact absurd List.mem_cons_self noReturn
  next => rfl

theorem linesFrom_written {lines : List (List Char)} (plain : ∀ line ∈ lines, IsPlain line) :
    linesFrom [] (written lines) = lines.map (List.map Text.byte) := by
  induction lines with
  | nil => rfl
  | cons line lines ih =>
      rw [List.forall_mem_cons] at plain
      have noReturn : Text.byte '\r' ∉ (line.map Text.byte).reverse ++ [] := by
        simpa using plain.1.byte_not_mem (by decide) plain.1.noReturn
      rw [written, List.flatMap_cons, List.append_assoc, List.singleton_append,
        linesFrom_append (plain.1.byte_not_mem (by decide) plain.1.inLine),
        withoutReturn_eq_self noReturn, List.append_nil, List.reverse_reverse, List.map_cons,
        ← ih plain.2]
      rfl

/-- Lines that were written are sampled. -/
theorem sample_written {lines : List (List Char)} (plain : ∀ line ∈ lines, IsPlain line)
    (few : lines.length ≤ sampleSize) : sample (written lines) = lines := by
  have kept : ∀ line ∈ lines, ((Text.decode? (line.map Text.byte)).map String.toList).filter
      (fun text => !Text.allBlank text) = some line := by
    intro line member
    simp [(plain line member).decode?_map_byte, (plain line member).filled]
  rw [sample, linesFrom_written plain, List.take_of_length_le (by simpa using few),
    List.filterMap_map]
  exact (List.filterMap_congr kept).trans List.filterMap_some

/-! ## Short and wide lines -/

/-- In a first line of a thousand characters nothing overtakes what the lines agree on. -/
theorem detect_leads_of_short {bytes : Bytes} {first : List Char} {rest : List (List Char)}
    (sampled : sample bytes = first :: rest)
    (agreed : ∃ c ∈ candidates, ∃ n, Agree (sample bytes) c n) (short : first.length ≤ 1000) :
    ∃ c ∈ candidates, detect bytes = .ok (Text.byte c) ∧ Leads (sample bytes) c := by
  rw [sampled] at agreed ⊢
  refine ⟨_, best_mem _, detect_eq sampled, best_leads_iff.2 ?_⟩
  rintro ⟨d, -, differ, overtakes⟩
  obtain ⟨c, candidate, n, agree⟩ := agreed
  have apart : c ≠ d := by
    rintro rfl
    exact differ n agree
  have together := occurrences_add_le apart first
  have positive := agree.1
  rw [agree.2 first List.mem_cons_self] at together
  have worth : n * 1000 ≤ weight c n := Nat.le_add_right _ _
  rcases overtakes c candidate n agree with more | ⟨asMuch, -⟩
  · omega
  · omega

/-- Two lines with a semicolon each, and different numbers of commas. -/
def pairs : List (List Char) :=
  ["a,b,c;d".toList, "\"1;2\",3;4".toList]

/-- The commas of the first line are more than its semicolons, but far from a thousand. -/
theorem detect_leads_iff_pairs :
    sample (written pairs) = "a,b,c;d".toList :: ["\"1;2\",3;4".toList] ∧
      ∃ c ∈ candidates, detect (written pairs) = .ok (Text.byte c) ∧
        Leads (sample (written pairs)) c := by
  have sampled : sample (written pairs) = pairs := sample_written (by decide) (by decide)
  have agree : Agree pairs ';' 1 := by decide
  refine ⟨sampled, (detect_leads_iff sampled).2 ?_⟩
  rintro ⟨d, other, -, overtakes⟩
  rw [sampled] at overtakes
  have ahead := overtakes _ (by decide) 1 agree
  simp only [candidates, List.mem_cons, List.not_mem_nil, or_false] at other
  rcases other with rfl | rfl | rfl | rfl <;> exact absurd ahead (by decide)

/-- A line with one comma and a thousand semicolons, and a line with one comma. -/
def wide : List (List Char) :=
  ["a,b".toList ++ List.replicate 1001 ';', "c,d".toList]

/-- The lines agree on one comma, but the semicolons overtake it. -/
theorem not_detect_leads_wide :
    sample (written wide) = wide ∧ Agree wide ',' 1 ∧
      detect (written wide) = .ok (Text.byte ';') ∧
      ¬ ∃ c ∈ candidates, detect (written wide) = .ok (Text.byte c) ∧
        Leads (sample (written wide)) c := by
  have sampled : sample (written wide) = wide :=
    sample_written (by decide +kernel) (by decide)
  have agree : Agree wide ',' 1 := by
    refine ⟨Nat.one_pos, fun line member => ?_⟩
    rw [← countOutside_eq_occurrences (by decide)]
    revert line
    decide +kernel
  have guess : best wide = ';' := by decide +kernel
  have detected : detect (written wide) = .ok (Text.byte ';') := by
    rw [← guess]
    exact detect_eq sampled
  refine ⟨sampled, agree, detected, ?_⟩
  rintro ⟨c, candidate, same, n, agrees, -⟩
  have guessed : c = ';' :=
    eq_of_candidates_byte_eq candidate (by decide) (Except.ok.inj (same.symm.trans detected))
  rw [sampled, guessed] at agrees
  have none : occurrences ';' "c,d".toList = 0 := by decide
  have second : "c,d".toList ∈ wide := List.mem_cons_of_mem _ (List.mem_singleton_self _)
  exact agrees.1.ne' ((agrees.2 _ second).symm.trans none)

end Delimited
end ColumnChain
