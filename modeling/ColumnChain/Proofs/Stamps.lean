import ColumnChain.Calendar.Instant
import ColumnChain.Proofs.Digits
import ColumnChain.Proofs.Ordinals

/-!
# Time stamps

The time stamp of a moment reads back as that moment, whatever its year. What is read is
always a moment of some day, so that a stamp that was read can be written and read again.
-/

namespace ColumnChain

/-! ## Numbers in a stamp -/

namespace Date

variable {width n : Nat}

theorem areDigits_padded (width n : Nat) : Number.AreDigits (padded width n) where
  filled := by simp [padded, Number.naturalText]
  all := by
    intro c member
    rcases List.mem_append.1 member with zero | digit
    · rw [(List.mem_replicate.1 zero).2]
      rfl
    · exact (Number.areDigits_naturalText n).all c digit

@[simp] theorem ofDigits_padded (width n : Nat) : Number.ofDigits (padded width n) = n := by
  change Nat.ofDigitChars 10 (padded width n) 0 = n
  rw [padded, Nat.ofDigitChars_append, Nat.ofDigitChars_replicate_zero, Nat.mul_zero]
  exact Nat.ofDigitChars_ten_toDigits

theorem length_padded (positive : 0 < width) (small : n < 10 ^ width) :
    (padded width n).length = width := by
  have digits : (Number.naturalText n).length ≤ width :=
    (Nat.length_toDigits_le_iff (by decide) positive).2 small
  simp only [padded, List.length_append, List.length_replicate]
  omega

end Date

namespace Calendar

variable {field : Field} {digits rest : List Char}

/-- Digits of the full width of a field are read as they are. -/
theorem readDigits?_append (are : Number.AreDigits digits) (rest : List Char) :
    readDigits? digits.length (digits ++ rest) = some (Number.ofDigits digits, rest) := by
  have all : digits.takeWhile Char.isDigit = digits :=
    List.takeWhile_eq_self_iff.2 are.all
  simp [readDigits?, all, are.filled]

theorem readAllDigits?_append (are : Number.AreDigits digits)
    (ends : ∀ c ∈ rest.head?, c.isDigit = false) :
    readAllDigits? (digits ++ rest) = some (Number.ofDigits digits, rest) := by
  simp [readAllDigits?, are.spanDigits_append ends, are.filled]

/-- A number that starts with a digit has no sign. -/
theorem readNumber?_digits (are : Number.AreDigits digits) (rest : List Char) :
    readNumber? field (digits ++ rest) =
      (readDigits? field.width (digits ++ rest)).map fun (n, rest) => ((n : Int), rest) := by
  have trimmed := are.trimStart_append rest
  obtain ⟨c, others, rfl, digit⟩ := are.exists_cons
  simp only [List.cons_append] at trimmed ⊢
  simp only [readNumber?, trimmed]
  split
  next same =>
    cases same
    cases digit
  next same =>
    cases same
    cases digit
  next => rfl

/-- A number without a sign is read up to the width of its field. -/
theorem readNumber?_append (are : Number.AreDigits digits) (width : digits.length = field.width) :
    readNumber? field (digits ++ rest) = some ((Number.ofDigits digits : Int), rest) := by
  rw [readNumber?_digits are, ← width, readDigits?_append are, Option.map_some]

theorem readNumber?_minus (text : List Char) :
    readNumber? .year ('-' :: text) =
      (readAllDigits? text).map fun (n, rest) => (-(n : Int), rest) := rfl

theorem readNumber?_plus (text : List Char) :
    readNumber? .year ('+' :: text) =
      (readAllDigits? text).map fun (n, rest) => ((n : Int), rest) := rfl

theorem readNumber?_padded (notYear : field ≠ .year) {n : Nat} (small : n < 100) :
    readNumber? field (Date.padded 2 n ++ rest) = some ((n : Int), rest) := by
  rw [readNumber?_append (Date.areDigits_padded 2 n), Date.ofDigits_padded]
  rw [Date.length_padded (by decide) small]
  cases field <;> first | rfl | exact absurd rfl notYear

/-- A year is read with its sign, in as many digits as it has. -/
theorem readNumber?_yearText (year : Int) (ends : ∀ c ∈ rest.head?, c.isDigit = false) :
    readNumber? .year (Date.yearText year ++ rest) = some (year, rest) := by
  have signed := readAllDigits?_append (Date.areDigits_padded 4 year.natAbs) ends
  rw [Date.ofDigits_padded] at signed
  rw [Date.yearText]
  split
  next short =>
    have width : (Date.padded 4 year.toNat).length = Field.width .year :=
      Date.length_padded (by decide) (by omega)
    rw [readNumber?_append (Date.areDigits_padded 4 year.toNat) width, Date.ofDigits_padded,
      Int.toNat_of_nonneg short.1]
  next long =>
    split
    next negative =>
      have value : -(year.natAbs : Int) = year := by omega
      simp only [List.cons_append, readNumber?_minus, signed, Option.map_some, value]
    next positive =>
      have value : (year.natAbs : Int) = year := by omega
      simp only [List.cons_append, readNumber?_plus, signed, Option.map_some, value]

/-- A fraction is read up to nine digits; fewer stand for larger parts of a second. -/
theorem readFraction?_padded (width n : Nat) (positive : 0 < width) (most : width ≤ 9)
    (small : n < 10 ^ width) (ends : ∀ c ∈ rest.head?, c.isDigit = false) :
    readFraction? (Date.padded width n ++ rest) = some (n * 10 ^ (9 - width), rest) := by
  have are := Date.areDigits_padded width n
  have length := Date.length_padded positive small
  have counted : (Date.padded width n).take 9 = Date.padded width n :=
    List.take_of_length_le (length.trans_le most)
  simp [readFraction?, are.spanDigits_append ends, are.filled, counted, length]

end Calendar

namespace Instant

open Calendar

/-! ## Stamps are read back -/

/-- A second of a day and nanoseconds of a second; the last second of a minute may be twice
as long. -/
structure IsTime (i : Instant) : Prop where
  second : i.second < 86400
  nanosecond : i.nanosecond < 1000000000 ∨ (i.second % 60 = 59 ∧ i.nanosecond < 2000000000)

instance (i : Instant) : Decidable i.IsTime :=
  decidable_of_iff (i.second < 86400 ∧ (i.nanosecond < 1000000000 ∨
    (i.second % 60 = 59 ∧ i.nanosecond < 2000000000)))
    ⟨fun ⟨second, nanosecond⟩ => ⟨second, nanosecond⟩,
      fun isTime => ⟨isTime.second, isTime.nanosecond⟩⟩

/-- A date is read from its year, month and day. -/
theorem readItems?_iso (d : Date) (items : List Item) (fields : Fields) (rest : List Char) :
    readItems? (dateItems ++ items) fields (d.iso ++ rest) =
      readItems? items { fields with year := d.year, month := d.month, day := d.day } rest := by
  have ⟨_, twelve, days⟩ := d.month_and_day_le
  have year (text : List Char) : readNumber? .year (Date.yearText d.year ++ '-' :: text) =
      some (d.year, '-' :: text) := readNumber?_yearText d.year (by simp)
  have hyphen (text : List Char) : Text.trimStart ('-' :: text) = '-' :: text := rfl
  simp only [dateItems, readItems?, Item.read?, Date.iso, List.cons_append, List.nil_append,
    List.append_assoc, year, hyphen, Date.monthText, Date.dayText,
    readNumber?_padded (by decide : Field.month ≠ .year) (show d.month < 100 by omega),
    readNumber?_padded (by decide : Field.day ≠ .year) (show d.day < 100 by omega),
    Option.map_some,
    Option.bind_eq_bind, Option.bind_some, if_true, Fields.record, Int.toNat_natCast]

/-- A fraction is read as nanoseconds. -/
theorem read?_fractionText (fields : Fields) {nanosecond : Nat} (small : nanosecond < 1000000000)
    (fresh : fields.nanosecond = 0) :
    Item.read? fields (fractionText nanosecond ++ ['Z']) .fraction =
      some ({ fields with nanosecond }, ['Z']) := by
  have ends : ∀ c ∈ ['Z'].head?, c.isDigit = false := by simp
  simp only [fractionText]
  split
  next zero =>
    subst zero
    rw [← fresh]
    rfl
  next =>
    split
    next thousandths =>
      have read := readFraction?_padded 3 (nanosecond / 1000000)
        (by decide) (by decide) (by omega) ends
      simp only [List.cons_append, Item.read?, read, Option.map_some]
      congr 3
      omega
    next =>
      split
      next millionths =>
        have read := readFraction?_padded 6 (nanosecond / 1000)
          (by decide) (by decide) (by omega) ends
        simp only [List.cons_append, Item.read?, read, Option.map_some]
        congr 3
        omega
      next =>
        have read := readFraction?_padded 9 nanosecond
          (by decide) (by decide) (by omega) ends
        simp only [List.cons_append, Item.read?, read, Option.map_some]
        congr 3
        omega

/-- A time of day is read from its hours, minutes and seconds. -/
theorem readItems?_clock {i : Instant} (isTime : i.IsTime) (fields : Fields)
    (fresh : fields.nanosecond = 0) :
    readItems? timeItems fields ('T' :: (i.clockText ':' ++
        (fractionText (i.nanosecond % 1000000000) ++ ['Z']))) =
      some ({ fields with
        hour := i.second / 3600
        minute := i.second / 60 % 60
        second := i.second % 60 + i.nanosecond / 1000000000
        nanosecond := i.nanosecond % 1000000000 }, ['Z']) := by
  have inDay := isTime.second
  have extra : i.nanosecond / 1000000000 ≤ 1 := by
    rcases isTime.nanosecond with short | ⟨-, long⟩ <;> omega
  have colon (text : List Char) : Text.trimStart (':' :: text) = ':' :: text := rfl
  have blank : Text.trimStart ['Z'] = ['Z'] := rfl
  have fraction := read?_fractionText
    { fields with
      hour := i.second / 3600
      minute := i.second / 60 % 60
      second := i.second % 60 + i.nanosecond / 1000000000 }
    (Nat.mod_lt i.nanosecond (by decide : 0 < 1000000000)) fresh
  simp only [Item.read?] at fraction
  simp only [timeItems, readItems?, Item.read?, clockText, List.cons_append,
    List.append_assoc, colon, blank, fraction,
    readNumber?_padded (by decide : Field.hour ≠ .year)
      (show i.second / 3600 < 100 by omega),
    readNumber?_padded (by decide : Field.minute ≠ .year)
      (show i.second / 60 % 60 < 100 by omega),
    readNumber?_padded (by decide : Field.second ≠ .year)
      (show i.second % 60 + i.nanosecond / 1000000000 < 100 by omega),
    Option.map_some, Option.bind_eq_bind, Option.bind_some, if_true, true_or, Fields.record,
    Int.toNat_natCast]

/-- The second of the day is made of the hours, minutes and seconds that were read. -/
theorem timeOfDay?_eq {i : Instant} (isTime : i.IsTime) (fields : Fields)
    (hour : fields.hour = i.second / 3600) (minute : fields.minute = i.second / 60 % 60)
    (second : fields.second = i.second % 60 + i.nanosecond / 1000000000)
    (nanosecond : fields.nanosecond = i.nanosecond % 1000000000) :
    fields.timeOfDay? = some (i.second, i.nanosecond) := by
  have inDay := isTime.second
  simp only [Fields.timeOfDay?, hour, minute, second, nanosecond]
  rcases isTime.nanosecond with short | ⟨last, long⟩
  · rw [if_pos (by omega), if_neg (by omega), Option.some.injEq, Prod.mk.injEq]
    omega
  · split
    · split <;> rw [Option.some.injEq, Prod.mk.injEq] <;> omega
    · omega

theorem earlier?_zero {i : Instant} (isTime : i.IsTime) : i.earlier? 0 = some i := by
  obtain ⟨date, second, nanosecond⟩ := i
  have inDay : second < 86400 := isTime.second
  have sameDay : ((second : Int) - 0) / 86400 = 0 := by omega
  have sameSecond : (((second : Int) - 0) % 86400).toNat = second := by omega
  simp only [earlier?, sameDay, sameSecond, Date.addDays?_zero]
  rfl

/-- A time stamp reads back as the moment it is of. -/
theorem read?_stamp {i : Instant} (isTime : i.IsTime) : read? i.stamp.toList = some i := by
  have zulu : readOffset? ['Z'] = some (0, []) := by decide
  have ofDate : Date.of? i.date.year i.date.month i.date.day = some i.date :=
    dif_pos i.date.isDate
  simp only [read?, stamp, String.toList_ofList, List.append_assoc, List.cons_append]
  rw [readItems?_iso, readItems?_clock isTime _ rfl]
  simp only [Option.bind_eq_bind, Option.bind_some, zulu, Fields.date?, ofDate,
    timeOfDay?_eq isTime {
      year := i.date.year, month := i.date.month, day := i.date.day
      hour := i.second / 3600, minute := i.second / 60 % 60
      second := i.second % 60 + i.nanosecond / 1000000000
      nanosecond := i.nanosecond % 1000000000 } rfl rfl rfl rfl]
  exact earlier?_zero isTime

/-! ## What is read is a time -/

theorem readFraction?_lt {text rest : List Char} {n : Nat}
    (read : readFraction? text = some (n, rest)) : n < 1000000000 := by
  simp only [readFraction?] at read
  split at read
  next => cases read
  next =>
    obtain ⟨rfl, rfl⟩ := Prod.mk.inj (Option.some.inj read)
    generalize counted : (Number.spanDigits text).1.take 9 = digits
    have short : digits.length ≤ 9 := by
      rw [← counted]
      exact List.length_take_le 9 _
    have all : ∀ c ∈ digits, c.isDigit = true := by
      intro c member
      rw [← counted, Number.spanDigits, List.span_eq_takeWhile_dropWhile] at member
      exact List.mem_takeWhile_imp (List.mem_of_mem_take member)
    calc Number.ofDigits digits * 10 ^ (9 - digits.length)
      _ < 10 ^ digits.length * 10 ^ (9 - digits.length) :=
          Nat.mul_lt_mul_of_pos_right (Number.ofDigits_lt all) (Nat.pow_pos (by decide))
      _ = 1000000000 := by rw [← Nat.pow_add, Nat.add_sub_cancel' short]

theorem nanosecond_lt_of_read? {item : Item} {fields later : Fields} {text rest : List Char}
    (read : item.read? fields text = some (later, rest))
    (small : fields.nanosecond < 1000000000) : later.nanosecond < 1000000000 := by
  cases item with
  | number field | digits field =>
      obtain ⟨⟨value, after⟩, -, equal⟩ := Option.map_eq_some_iff.1 read
      cases equal
      cases field <;> exact small
  | monthName whole =>
      obtain ⟨⟨value, after⟩, -, equal⟩ := Option.map_eq_some_iff.1 read
      cases equal
      exact small
  | literal c | timeMark =>
      simp only [Item.read?] at read
      split at read
      next =>
        split at read <;> cases read
        exact small
      next => cases read
  | blanks =>
      cases read
      exact small
  | fraction =>
      simp only [Item.read?] at read
      split at read
      next =>
        obtain ⟨⟨value, after⟩, counted, equal⟩ := Option.map_eq_some_iff.1 read
        cases equal
        exact readFraction?_lt counted
      next =>
        cases read
        exact small

theorem nanosecond_lt_of_readItems? {items : List Item} {fields later : Fields}
    {text rest : List Char} (read : readItems? items fields text = some (later, rest))
    (small : fields.nanosecond < 1000000000) : later.nanosecond < 1000000000 := by
  induction items generalizing fields text with
  | nil =>
      cases read
      exact small
  | cons item items ih =>
      obtain ⟨⟨between, after⟩, first, others⟩ := Option.bind_eq_some_iff.1 read
      exact ih others (nanosecond_lt_of_read? first small)

/-- A distance from universal time is one in whole minutes. -/
theorem dvd_of_readOffset? {text rest : List Char} {offset : Int}
    (read : readOffset? text = some (offset, rest)) : 60 ∣ offset := by
  simp only [readOffset?] at read
  split at read
  next =>
    cases read
    exact Int.dvd_zero 60
  next =>
    split at read
    next =>
      cases read
      exact Int.dvd_zero 60
    next =>
      cases read
      exact Int.dvd_zero 60
    next =>
      split at read
      next =>
        split at read
        next =>
          obtain ⟨rfl, rfl⟩ := Prod.mk.inj (Option.some.inj read)
          split <;> omega
        next => cases read
      next => cases read
    next => cases read

/-- What is read as a time stamp is a time. -/
theorem isTime_of_read? {text : List Char} {i : Instant} (read : read? text = some i) :
    i.IsTime := by
  obtain ⟨⟨fields, afterItems⟩, items, read⟩ := Option.bind_eq_some_iff.1 read
  obtain ⟨⟨offset, afterOffset⟩, inMinutes, read⟩ := Option.bind_eq_some_iff.1 read
  obtain ⟨date, -, read⟩ := Option.bind_eq_some_iff.1 read
  obtain ⟨⟨second, nanosecond⟩, ofDay, read⟩ := Option.bind_eq_some_iff.1 read
  simp only [earlier?] at read
  split at read
  next =>
    obtain ⟨shifted, -, equal⟩ := Option.bind_eq_some_iff.1 read
    cases equal
    obtain ⟨minutes, rfl⟩ := dvd_of_readOffset? inMinutes
    have small := nanosecond_lt_of_readItems? items (by decide)
    simp only [Fields.timeOfDay?] at ofDay
    split at ofDay
    next within =>
      split at ofDay <;> obtain ⟨rfl, rfl⟩ := Prod.mk.inj (Option.some.inj ofDay)
      · constructor <;> simp only <;> omega
      · constructor <;> simp only <;> omega
    next => cases ofDay
  next => cases read

end Instant
end ColumnChain
