import TicketRouting.Calendar.Parser
import TicketRouting.Proofs.Calendar.ColumnOrder
/-!
An instant is read back from its written form. Each part of the form is taken from the front of the text
by the reader of that part, which stops where the next part begins.
-/
namespace TicketRouting

section Digits

theorem digit_char_facts (number : Nat) :
    (digitChar number).toNat - 48 = number % 10 ∧ (digitChar number).isDigit = true ∧
      Text.isBlank (digitChar number) = false := by
  have table : ∀ digit < 10, (Char.ofNat (48 + digit)).toNat - 48 = digit ∧
      (Char.ofNat (48 + digit)).isDigit = true ∧
      Text.isBlank (Char.ofNat (48 + digit)) = false := by decide
  exact table _ (Nat.mod_lt _ (by decide))

theorem last_digits_length (width number : Nat) : (lastDigits width number).length = width := by
  induction width generalizing number with
  | zero => rfl
  | succ width ih => simp [lastDigits, ih]

theorem last_digits_first (width number : Nat) :
    lastDigits (width + 1) number =
      digitChar (number / 10 ^ width) :: lastDigits width number := by
  rw [Nat.add_comm, last_digits_add]
  rfl

theorem last_digits_are_digits (width number : Nat) :
    ∀ c ∈ lastDigits width number, c.isDigit = true := by
  induction width with
  | zero => simp [lastDigits]
  | succ width ih =>
    intro c member
    rw [last_digits_first] at member
    obtain first | later := List.mem_cons.mp member
    · exact first ▸ (digit_char_facts _).2.1
    · exact ih c later

theorem last_digits_value (width number sum : Nat) :
    (lastDigits width number).foldl (fun sum digit => sum * 10 + (digit.toNat - 48)) sum =
      sum * 10 ^ width + number % 10 ^ width := by
  induction width generalizing number with
  | zero => simp [lastDigits, Nat.mod_one]
  | succ width ih =>
    -- The digit that is written last is also read last, so it is the one that is taken off.
    have split : number % 10 ^ (width + 1) = number / 10 % 10 ^ width * 10 + number % 10 := by
      rw [Nat.pow_succ', Nat.mod_mul, Nat.mul_comm, Nat.add_comm]
    rw [lastDigits, List.foldl_append, ih, split, Nat.pow_succ, ← Nat.mul_assoc]
    simp only [List.foldl_cons, List.foldl_nil, (digit_char_facts number).1]
    omega

end Digits

namespace Instant

def NoDigitAhead (text : List Char) : Prop := ∀ c ∈ text.head?, c.isDigit = false

section Parts
variable {α β : Type} {rest : List Char}

theorem reads_then {first : Reader α} {next : α → Reader β} {text : List Char} {value : α}
    {answer : Except Fault (β × List Char)} (reads : first text = .ok (value, rest))
    (goesOn : next value rest = answer) : (first >>= next) text = answer := by
  simp only [bind, StateT.bind, reads]
  exact goesOn

theorem skip_blanks_none (c : Char) (rest : List Char) (solid : Text.isBlank c = false) :
    skipBlanks (c :: rest) = .ok ((), c :: rest) := by
  simp [skipBlanks, Text.trimStart, solid]

theorem skip_blanks_digits (width number : Nat) (rest : List Char) :
    skipBlanks (lastDigits (width + 1) number ++ rest) =
      .ok ((), lastDigits (width + 1) number ++ rest) := by
  rw [last_digits_first, List.cons_append]
  exact skip_blanks_none _ _ (digit_char_facts _).2.2

theorem separator_read (mark : Char) (rest : List Char) (solid : Text.isBlank mark = false) :
    separator mark (mark :: rest) = .ok ((), rest) :=
  reads_then (skip_blanks_none mark rest solid) (by simp [expect])

theorem digits_taken {most width : Nat} (value : Nat) (within : width ≤ most)
    (stops : width = most ∨ NoDigitAhead rest) :
    ((lastDigits width value ++ rest).take most).takeWhile Char.isDigit =
      lastDigits width value := by
  have length := last_digits_length width value
  rw [List.take_append, length, List.take_of_length_le (by omega),
    List.takeWhile_append_of_pos (last_digits_are_digits width value)]
  obtain rfl | noDigit := stops
  · simp
  · cases rest with
    | nil => simp
    | cons c others =>
      have other : c.isDigit = false := noDigit c rfl
      cases most - width <;> simp [other]

theorem number_read {most width value : Nat} (wide : 0 < width) (within : width ≤ most)
    (small : width ≤ 9) (fits : value < 10 ^ width) (stops : width = most ∨ NoDigitAhead rest) :
    number most (lastDigits width value ++ rest) = .ok (value, rest) := by
  have taken := digits_taken value within stops
  have length := last_digits_length width value
  have present : lastDigits width value ≠ [] := by
    intro none
    simp [none] at length
    omega
  have read := last_digits_value width value 0
  rw [Nat.zero_mul, Nat.zero_add, Nat.mod_eq_of_lt fits] at read
  have inRange : (value : Int) ≤ Int64.maxValue.toInt := by
    have bound : (10 : Nat) ^ width ≤ 10 ^ 9 := Nat.pow_le_pow_right (by decide) small
    have greatest : Int64.maxValue.toInt = 9223372036854775807 := by decide
    omega
  simp only [number, taken, List.isEmpty_iff, present, read, inRange, length, ↓reduceIte,
    List.drop_left']

theorem year_read {number : Nat} (four : number < 10000) :
    year (lastDigits 4 number ++ rest) = .ok ((number : Int), rest) := by
  have read : Instant.number 4 (lastDigits 4 number ++ rest) = .ok (number, rest) :=
    number_read (by decide) (by decide) (by decide) four (.inl rfl)
  have inRange : Int32.minValue.toInt ≤ (number : Int) ∧ (number : Int) ≤ Int32.maxValue.toInt := by
    have least : Int32.minValue.toInt = -2147483648 := by decide
    have greatest : Int32.maxValue.toInt = 2147483647 := by decide
    omega
  refine reads_then (skip_blanks_digits 3 number rest) (reads_then rfl ?_)
  rw [last_digits_first, List.cons_append] at read ⊢
  have digit := (digit_char_facts (number / 10 ^ 3)).2.1
  -- A year that begins with a digit has no sign.
  split
  · rename_i sign
    rw [(List.cons.inj sign).1] at digit
    cases digit
  · rename_i sign
    rw [(List.cons.inj sign).1] at digit
    cases digit
  · refine reads_then read (reads_then rfl ?_)
    exact congrFun (if_pos inRange) rest

theorem field_read {least greatest value : Nat} (bounds : least ≤ value ∧ value ≤ greatest)
    (two : value < 100) : field least greatest (lastDigits 2 value ++ rest) = .ok (value, rest) := by
  refine reads_then (skip_blanks_digits 1 value rest) ?_
  refine reads_then (number_read (by decide) (by decide) (by decide) two (.inl rfl)) ?_
  exact congrFun (if_pos bounds) rest

theorem fraction_read {width value : Nat} (wide : 0 < width) (within : width ≤ 9)
    (fits : value < 10 ^ width) (stops : NoDigitAhead rest) :
    fraction ('.' :: lastDigits width value ++ rest) = .ok (value * 10 ^ (9 - width), rest) := by
  have stays : rest.dropWhile Char.isDigit = rest := by
    cases rest with
    | nil => rfl
    | cons c others => simp [stops c rfl]
  rw [List.cons_append]
  refine reads_then rfl (reads_then rfl ?_)
  rw [digits_taken value within (.inr stops), last_digits_length]
  refine reads_then (number_read wide within within fits (.inr stops)) ?_
  exact reads_then (congrArg (fun left => Except.ok ((), left)) stays) rfl

theorem fraction_absent (text : List Char) (noPoint : ∀ rest, text ≠ '.' :: rest) :
    fraction text = .ok (0, text) := by
  refine reads_then rfl ?_
  dsimp only
  split
  · exact absurd rfl (noPoint _)
  · rfl

theorem fraction_text_read {nano : Nat} (fits : nano < 10 ^ 9) (c : Char) (noPoint : c ≠ '.')
    (noDigit : c.isDigit = false) :
    fraction (TimeOfDay.fractionText nano ++ c :: rest) = .ok (nano, c :: rest) := by
  have stops : NoDigitAhead (c :: rest) := by simpa [NoDigitAhead] using noDigit
  unfold TimeOfDay.fractionText
  split
  · rename_i whole
    rw [whole]
    exact fraction_absent _ fun tail same => noPoint (List.cons.inj same).1
  · split
    · rw [fraction_read (by decide) (by decide) (by omega) stops]
      congr 2
      omega
    · split
      · rw [fraction_read (by decide) (by decide) (by omega) stops]
        congr 2
        omega
      · rw [fraction_read (by decide) (by decide) fits stops]
        simp

end Parts

theorem date_of_parts (date : Date) : Date.of? date.year date.month date.day = some date := by
  simp [Date.of?, date.month_valid, date.day_valid]

theorem of_local_utc (date : Date) (time : TimeOfDay) (inRange : yearInRange date.year = true) :
    ofLocal date time.hour time.minute time.second time.nano 0 = .ok ⟨date, time⟩ := by
  have hour := time.hour_valid
  have minute := time.minute_valid
  have bounds : time.second < 60 ∧ time.nano < 2000000000 := ⟨time.second_valid, time.nano_valid⟩
  have notBefore : ¬ (time.hour : Int) * 60 + time.minute - 0 < 0 := by omega
  have notAfter : ¬ 1440 ≤ (time.hour : Int) * 60 + time.minute - 0 := by omega
  have hours : ((time.hour : Int) * 60 + time.minute - 0).toNat % 1440 / 60 = time.hour := by omega
  have minutes : ((time.hour : Int) * 60 + time.minute - 0).toNat % 1440 % 60 = time.minute := by
    omega
  simp only [ofLocal, notBefore, notAfter, ↓reduceIte, inRange, bounds, and_self, ↓reduceDIte, hours,
    minutes]
  rfl

/-- Second 60 is read as the leap second that it was written for. -/
theorem of_local_shown (instant : Instant) (fits : instant.FitsColumn) :
    (if instant.shownSecond = 60 then
        ofLocal instant.date instant.time.hour instant.time.minute 59
          (instant.time.nano % 1000000000 + 1000000000) 0
      else
        ofLocal instant.date instant.time.hour instant.time.minute instant.shownSecond
          (instant.time.nano % 1000000000) 0) = .ok instant := by
  have year := fits.year
  have inRange : yearInRange instant.date.year = true := by
    simp only [yearInRange, Bool.and_eq_true, decide_eq_true_eq]
    omega
  have whole := of_local_utc instant.date instant.time inRange
  have second := instant.time.second_valid
  have nano := instant.time.nano_valid
  -- A leap second is the second before it with more than a second of nanoseconds.
  by_cases leap : instant.time.isLeapSecond = true
  · have last := fits.leap leap
    have shown : instant.shownSecond = 60 := by simp [shownSecond, leap, last]
    have fraction : instant.time.nano % 1000000000 + 1000000000 = instant.time.nano := by
      have late : 1000000000 ≤ instant.time.nano := by simpa [TimeOfDay.isLeapSecond] using leap
      omega
    rw [if_pos shown, fraction, ← last]
    exact whole
  · have shown : instant.shownSecond = instant.time.second := by simp [shownSecond, leap]
    have fraction : instant.time.nano % 1000000000 = instant.time.nano := by
      have early : instant.time.nano < 1000000000 := by simpa [TimeOfDay.isLeapSecond] using leap
      omega
    rw [if_neg (by omega), shown, fraction]
    exact whole

theorem parse_text (instant : Instant) (fits : instant.FitsColumn) :
    parse instant.text = .ok instant := by
  have year := fits.year
  have inRange : yearInRange instant.date.year = true := by
    simp only [yearInRange, Bool.and_eq_true, decide_eq_true_eq]
    omega
  have sameYear : (instant.date.year.toNat : Int) = instant.date.year := Int.toNat_of_nonneg year.1
  have month := instant.date.month_valid
  have lastDay := days_in_month_le instant.date.year instant.date.month
  have day := instant.date.day_valid
  have hour := instant.time.hour_valid
  have minute := instant.time.minute_valid
  have second := instant.time.second_valid
  have shown : instant.shownSecond ≤ 60 := by
    unfold shownSecond
    split <;> omega
  have nano : instant.time.nano % 1000000000 < 10 ^ 9 := Nat.mod_lt _ (by decide)
  have reads : reader (instant.textWith ['Z']) = .ok (instant, []) := by
    -- From here on each part of the text is taken by its reader, and the zone by the last ones.
    rw [text_with_parts fits]
    refine reads_then (year_read (by omega)) (reads_then (separator_read '-' _ (by decide)) ?_)
    refine reads_then (field_read month (by omega)) ?_
    refine reads_then (separator_read '-' _ (by decide)) ?_
    refine reads_then (field_read (by omega) (by omega)) (reads_then rfl ?_)
    refine reads_then (field_read (by omega) (by omega)) ?_
    refine reads_then (separator_read ':' _ (by decide)) ?_
    refine reads_then (field_read (by omega) (by omega)) ?_
    refine reads_then (separator_read ':' _ (by decide)) ?_
    refine reads_then (field_read ⟨Nat.zero_le _, shown⟩ (by omega)) ?_
    refine reads_then (fraction_text_read nano 'Z' (by decide) (by decide)) ?_
    refine reads_then (skip_blanks_none 'Z' [] (by decide)) ?_
    refine reads_then (α := Int) rfl (reads_then rfl ?_)
    simp only [sameYear, date_of_parts, Text.trimStart, List.dropWhile_nil, List.isEmpty_nil, inRange,
      ↓reduceIte]
    have whole := of_local_shown instant fits
    split at whole
    · rename_i leap
      rw [if_pos leap, whole]
      rfl
    · rename_i plain
      rw [if_neg plain, whole]
      rfl
  rw [parse, text, String.toList_ofList, reads]
  rfl

end Instant

end TicketRouting
