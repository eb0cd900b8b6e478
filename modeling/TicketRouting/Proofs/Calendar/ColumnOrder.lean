import Mathlib.Algebra.Group.Nat.Defs
import TicketRouting.Calendar.Instant
import TicketRouting.Proofs.Calendar.TimeLine
/-!
Instants in a table column. Their texts are compared character by character, and this is the order of
time although the texts have different numbers of fraction digits: the sign of the offset comes before
the point, and the point before all digits.
-/
namespace TicketRouting

section Digits

theorem digit_char_lt {first second : Nat} (order : first % 10 < second % 10) :
    digitChar first < digitChar second := by
  have table : ∀ left < 10, ∀ right < 10, left < right →
      Char.ofNat (48 + left) < Char.ofNat (48 + right) := by decide
  exact table _ (Nat.mod_lt _ (by decide)) _ (Nat.mod_lt _ (by decide)) order

theorem sign_lt_digit (number : Nat) : '+' < digitChar number := by
  have table : ∀ digit < 10, '+' < Char.ofNat (48 + digit) := by decide
  exact table _ (Nat.mod_lt _ (by decide))

theorem last_digits_lt (width : Nat) {first second : Nat} (order : first < second)
    (fits : second < 10 ^ width) (left right : List Char) :
    lastDigits width first ++ left < lastDigits width second ++ right := by
  induction width generalizing first second left right with
  | zero => omega
  | succ width ih =>
    rw [Nat.pow_succ] at fits
    simp only [lastDigits, List.append_assoc, List.singleton_append]
    obtain tens | sameTens : first / 10 < second / 10 ∨ first / 10 = second / 10 := by omega
    · exact ih tens (by omega) _ _
    · rw [sameTens]
      exact List.append_left_lt
        (List.cons_lt_cons_iff.mpr (.inl (digit_char_lt (by omega))))

theorem field_lt (width : Nat) {first second : Nat} {left right : List Char}
    (fits : second < 10 ^ width)
    (order : first < second ∨ first = second ∧ left < right) :
    lastDigits width first ++ left < lastDigits width second ++ right := by
  obtain less | ⟨rfl, after⟩ := order
  · exact last_digits_lt width less fits left right
  · exact List.append_left_lt after

theorem sign_lt_field (width number : Nat) (zone rest : List Char) (wide : 0 < width) :
    '+' :: zone < lastDigits width number ++ rest := by
  induction width generalizing number rest with
  | zero => omega
  | succ width ih =>
    simp only [lastDigits, List.append_assoc, List.singleton_append]
    cases width with
    | zero => exact List.cons_lt_cons_iff.mpr (.inl (sign_lt_digit number))
    | succ => exact ih _ _ (Nat.succ_pos _)

theorem last_digits_add (high low number : Nat) :
    lastDigits (high + low) number = lastDigits high (number / 10 ^ low) ++ lastDigits low number := by
  induction low generalizing number with
  | zero => simp [lastDigits]
  | succ low ih =>
    rw [← Nat.add_assoc, lastDigits, lastDigits, ih, Nat.div_div_eq_div_mul, ← Nat.pow_succ',
      List.append_assoc]

theorem last_digits_mod (width number : Nat) :
    lastDigits width (number % 10 ^ width) = lastDigits width number := by
  induction width generalizing number with
  | zero => rfl
  | succ width ih =>
    have last : number % 10 ^ (width + 1) % 10 = number % 10 :=
      Nat.mod_mod_of_dvd number (Nat.dvd_of_pow_dvd (Nat.le_add_left 1 width) (Nat.dvd_refl _))
    have others : number % 10 ^ (width + 1) / 10 = number / 10 % 10 ^ width := by
      rw [Nat.pow_succ']
      exact Nat.mod_mul_right_div_self number 10 (10 ^ width)
    rw [lastDigits, lastDigits, others, ih, digitChar, digitChar, last]

end Digits

section Fraction

/-- Groups of three digits up to the last that is not zero, and the offset after them. -/
def groupsText (zone : List Char) : List Nat → List Char
  | [] => '+' :: zone
  | group :: rest =>
    if (group :: rest).all (· == 0) then '+' :: zone
    else lastDigits 3 group ++ groupsText zone rest

theorem zeros_least {first second : List Nat} (sameLength : first.length = second.length)
    (order : first < second) : second.all (· == 0) = false := by
  induction first generalizing second with
  | nil =>
    obtain rfl : second = [] := List.eq_nil_of_length_eq_zero sameLength.symm
    exact absurd order (List.not_lt_nil _)
  | cons group rest ih =>
    cases second with
    | nil => cases sameLength
    | cons other others =>
      obtain less | ⟨rfl, later⟩ := List.cons_lt_cons_iff.mp order
      · have some : other ≠ 0 := by omega
        simp [some]
      · simp [ih (Nat.succ.inj sameLength) later]

/-- Leaving out the zeros at the end keeps the order: where one text ends, the sign of its offset
stands before every digit. -/
theorem groups_text_lt (zone : List Char) {first second : List Nat}
    (sameLength : first.length = second.length) (small : ∀ group ∈ second, group < 10 ^ 3)
    (order : first < second) : groupsText zone first < groupsText zone second := by
  induction first generalizing second with
  | nil =>
    obtain rfl : second = [] := List.eq_nil_of_length_eq_zero sameLength.symm
    exact absurd order (List.not_lt_nil _)
  | cons group rest ih =>
    cases second with
    | nil => cases sameLength
    | cons other others =>
      have goesOn := zeros_least sameLength order
      simp only [groupsText, goesOn, Bool.false_eq_true, ↓reduceIte]
      split
      -- The left text has come to its offset while the right one goes on with digits.
      · exact sign_lt_field 3 other zone _ (by decide)
      · refine field_lt 3 (small other List.mem_cons_self) ?_
        obtain less | ⟨rfl, later⟩ := List.cons_lt_cons_iff.mp order
        · exact .inl less
        · exact .inr ⟨rfl, ih (Nat.succ.inj sameLength)
            (fun group member => small group (List.mem_cons_of_mem _ member)) later⟩

def nanoGroups (nano : Nat) : List Nat := [nano / 1000000, nano / 1000 % 1000, nano % 1000]

theorem fraction_text_groups (zone : List Char) (nano : Nat) :
    TimeOfDay.fractionText nano ++ '+' :: zone =
      if nano = 0 then '+' :: zone else '.' :: groupsText zone (nanoGroups nano) := by
  have three : lastDigits 3 (nano / 1000 % 1000) = lastDigits 3 (nano / 1000) :=
    last_digits_mod 3 (nano / 1000)
  have last : lastDigits 3 (nano % 1000) = lastDigits 3 nano := last_digits_mod 3 nano
  have millis : nano / 1000 / 1000 = nano / 1000000 := Nat.div_div_eq_div_mul nano 1000 1000
  have six : lastDigits 6 (nano / 1000) =
      lastDigits 3 (nano / 1000 / 1000) ++ lastDigits 3 (nano / 1000) :=
    last_digits_add 3 3 (nano / 1000)
  have nine : lastDigits 9 nano = lastDigits 6 (nano / 1000) ++ lastDigits 3 nano :=
    last_digits_add 6 3 nano
  rw [millis] at six
  rw [← last] at nine
  unfold TimeOfDay.fractionText nanoGroups
  split
  · simp
  · split
    · rename_i positive whole
      have first : nano / 1000000 ≠ 0 := by omega
      have second : nano / 1000 % 1000 = 0 := by omega
      have third : nano % 1000 = 0 := by omega
      simp [groupsText, first, second, third]
    · rename_i positive notWhole
      split
      · rename_i third
        have second : nano / 1000 % 1000 ≠ 0 := by omega
        simp [groupsText, second, third, six, three]
      · rename_i third
        simp [groupsText, third, nine, six, three]

theorem nano_groups_lt {first second : Nat} (order : first < second) :
    nanoGroups first < nanoGroups second := by
  simp only [nanoGroups, List.cons_lt_cons_iff, List.not_lt_nil, and_false, or_false]
  omega

theorem fraction_text_lt (zone : List Char) {first second : Nat} (order : first < second)
    (fits : second < 10 ^ 9) :
    TimeOfDay.fractionText first ++ '+' :: zone < TimeOfDay.fractionText second ++ '+' :: zone := by
  have positive : second ≠ 0 := by omega
  have small : ∀ group ∈ nanoGroups second, group < 10 ^ 3 := by
    simp [nanoGroups]
    omega
  rw [fraction_text_groups, fraction_text_groups, if_neg positive]
  split
  · exact List.cons_lt_cons_iff.mpr (.inl (by decide))
  · exact List.cons_lt_cons_iff.mpr
      (.inr ⟨rfl, groups_text_lt zone rfl small (nano_groups_lt order)⟩)

end Fraction

theorem days_in_month_le (year : Int) (month : Nat) : daysInMonth year month ≤ 31 := by
  unfold daysInMonth
  repeat' split
  all_goals omega

namespace Instant

/-- What a column can hold: years of four digits, and a leap second where clocks show one, as the last
of a minute. Elsewhere in a minute it would be written like a part of the next second. -/
structure FitsColumn (instant : Instant) : Prop where
  year : 0 ≤ instant.date.year ∧ instant.date.year ≤ 9999
  leap : instant.time.isLeapSecond = true → instant.time.second = 59

instance (instant : Instant) : Decidable instant.FitsColumn :=
  decidable_of_iff
    ((0 ≤ instant.date.year ∧ instant.date.year ≤ 9999) ∧
      (instant.time.isLeapSecond = true → instant.time.second = 59))
    ⟨fun fits => ⟨fits.1, fits.2⟩, fun fits => ⟨fits.year, fits.leap⟩⟩

def shownSecond (instant : Instant) : Nat :=
  if instant.time.isLeapSecond then instant.time.second + 1 else instant.time.second

theorem text_with_parts {instant : Instant} (fits : instant.FitsColumn) (zone : List Char) :
    instant.textWith zone =
      lastDigits 4 instant.date.year.toNat ++ '-' ::
      (lastDigits 2 instant.date.month ++ '-' ::
      (lastDigits 2 instant.date.day ++ 'T' ::
      (lastDigits 2 instant.time.hour ++ ':' ::
      (lastDigits 2 instant.time.minute ++ ':' ::
      (lastDigits 2 instant.shownSecond ++
      (TimeOfDay.fractionText (instant.time.nano % 1000000000) ++ zone)))))) := by
  simp only [textWith, Date.text, TimeOfDay.text, Date.yearText, shownSecond, fits.year, and_self,
    ↓reduceIte, List.append_assoc, List.cons_append]

theorem shown_second_lt {left right : Instant} (leftFits : left.FitsColumn)
    (order : left.time.second < right.time.second ∨ left.time.second = right.time.second ∧
      left.time.nano < right.time.nano) :
    left.shownSecond < right.shownSecond ∨ left.shownSecond = right.shownSecond ∧
      left.time.nano % 1000000000 < right.time.nano % 1000000000 := by
  have leftLeap := leftFits.leap
  have leftNano := left.time.nano_valid
  have rightNano := right.time.nano_valid
  have rightSecond := right.time.second_valid
  simp only [TimeOfDay.isLeapSecond, decide_eq_true_eq] at leftLeap
  simp only [shownSecond, TimeOfDay.isLeapSecond, decide_eq_true_eq]
  -- Only second 59 may be written as 60, and no second of the minute comes after it.
  split <;> split <;> omega

section Order
variable {left right : Instant}

theorem separated_lt (mark : Char) {before after : List Char} (less : before < after) :
    mark :: before < mark :: after :=
  List.cons_lt_cons_iff.mpr (.inr ⟨rfl, less⟩)

def clockText (zone : List Char) (instant : Instant) : List Char :=
  lastDigits 2 instant.time.hour ++ ':' ::
    (lastDigits 2 instant.time.minute ++ ':' ::
      (lastDigits 2 instant.shownSecond ++
        (TimeOfDay.fractionText (instant.time.nano % 1000000000) ++ '+' :: zone)))

theorem clock_text_lt (zone : List Char) (leftFits : left.FitsColumn)
    (order : left.time.hour < right.time.hour ∨ left.time.hour = right.time.hour ∧
      (left.time.minute < right.time.minute ∨ left.time.minute = right.time.minute ∧
        (left.time.second < right.time.second ∨ left.time.second = right.time.second ∧
          left.time.nano < right.time.nano))) :
    left.clockText zone < right.clockText zone := by
  have hourBound := right.time.hour_valid
  have minuteBound := right.time.minute_valid
  have shownBound : right.shownSecond < 10 ^ 2 := by
    have bound := right.time.second_valid
    unfold shownSecond
    split <;> omega
  refine field_lt 2 (by omega) (order.imp_right fun ⟨sameHour, later⟩ =>
    ⟨sameHour, separated_lt ':' (field_lt 2 (by omega) (later.imp_right fun ⟨sameMinute, last⟩ =>
      ⟨sameMinute, separated_lt ':' (field_lt 2 shownBound ?_)⟩))⟩)
  exact (shown_second_lt leftFits last).imp_right fun ⟨sameSecond, fraction⟩ =>
    ⟨sameSecond, fraction_text_lt zone fraction (Nat.mod_lt _ (by decide))⟩

/-- Columns are ordered as the instants that they hold. -/
theorem column_text_lt (leftFits : left.FitsColumn) (rightFits : right.FitsColumn)
    (order : left.isBefore right = true) : left.columnText < right.columnText := by
  change left.columnText.toList < right.columnText.toList
  rw [columnText, columnText, String.toList_ofList, String.toList_ofList,
    text_with_parts leftFits, text_with_parts rightFits]
  have leftYear := leftFits.year
  have rightYear := rightFits.year
  have monthBound := right.date.month_valid
  have dayBound : right.date.day < 10 ^ 2 := by
    have last := days_in_month_le right.date.year right.date.month
    have valid := right.date.day_valid
    omega
  obtain dates | ⟨sameDate, times⟩ := (is_before_iff left right).mp order
  · refine field_lt 4 (by omega) (dates.imp (by omega) fun ⟨sameYear, later⟩ =>
      ⟨by rw [sameYear], separated_lt '-' (field_lt 2 (by omega) (later.imp_right
        fun ⟨sameMonth, days⟩ => ⟨sameMonth, separated_lt '-' (field_lt 2 dayBound (.inl days))⟩))⟩)
  · rw [sameDate]
    have clocks := clock_text_lt ['0', '0', ':', '0', '0'] leftFits times
    exact List.append_left_lt (separated_lt '-' (List.append_left_lt
      (separated_lt '-' (List.append_left_lt (separated_lt 'T' clocks)))))

end Order

end Instant

end TicketRouting
