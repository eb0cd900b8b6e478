import TicketRouting.Calendar.Instant
/-!
Instants on one line. As long as no leap second is in play, what passes between two instants is the
difference of two numbers, and the order of the fields is the order of these numbers.
-/
namespace TicketRouting

namespace Date

def daysBeforeYear (year : Int) : Int :=
  365 * (year - 1) + (year - 1) / 4 - (year - 1) / 100 + (year - 1) / 400

def daysInYear (year : Int) : Nat := if isLeapYear year then 366 else 365

theorem day_number_eq (date : Date) :
    date.dayNumber = daysBeforeYear date.year + daysBeforeMonth date.year date.month + date.day := rfl

theorem days_before_next_year (year : Int) :
    daysBeforeYear (year + 1) = daysBeforeYear year + daysInYear year := by
  have leap : isLeapYear year = true ↔ year % 4 = 0 ∧ (year % 100 ≠ 0 ∨ year % 400 = 0) := by
    simp [isLeapYear]
  unfold daysInYear daysBeforeYear
  split
  · rename_i leapYear
    have divided := leap.mp leapYear
    omega
  · rename_i commonYear
    have divided := mt leap.mpr commonYear
    omega

theorem days_before_year_le {first second : Int} (order : first ≤ second) :
    daysBeforeYear first ≤ daysBeforeYear second := by
  unfold daysBeforeYear
  omega

theorem days_before_next_month (year : Int) (month : Nat) (first : 1 ≤ month) :
    daysBeforeMonth year (month + 1) = daysBeforeMonth year month + daysInMonth year month := by
  cases month with
  | zero => omega
  | succ => rfl

theorem days_before_month_le (year : Int) {first second : Nat} (january : 1 ≤ first)
    (order : first ≤ second) : daysBeforeMonth year first ≤ daysBeforeMonth year second := by
  induction order with
  | refl => exact Nat.le_refl _
  | step later ih =>
    rw [days_before_next_month year _ (Nat.le_trans january later)]
    omega

theorem days_of_months (year : Int) : daysBeforeMonth year 13 = daysInYear year := by
  cases leap : isLeapYear year <;> simp [daysBeforeMonth, daysInMonth, daysInYear, leap]

theorem day_of_year_le (date : Date) :
    daysBeforeMonth date.year date.month + date.day ≤ daysInYear date.year := by
  have next := days_before_next_month date.year date.month date.month_valid.1
  have within := days_before_month_le date.year (Nat.le_add_left 1 date.month)
    (Nat.succ_le_succ date.month_valid.2)
  rw [next, days_of_months] at within
  have day := date.day_valid.2
  omega

def Precedes (left right : Date) : Prop :=
  left.year < right.year ∨ left.year = right.year ∧
    (left.month < right.month ∨ left.month = right.month ∧ left.day < right.day)

theorem day_number_lt {left right : Date} (order : left.Precedes right) :
    left.dayNumber < right.dayNumber := by
  rw [day_number_eq, day_number_eq]
  have leftDay := left.day_valid
  have rightDay := right.day_valid
  obtain years | ⟨sameYear, months | ⟨sameMonth, days⟩⟩ := order
  · have within := day_of_year_le left
    have next := days_before_next_year left.year
    have later := days_before_year_le years
    omega
  · have next := days_before_next_month left.year left.month left.month_valid.1
    have later := days_before_month_le left.year (Nat.le_add_left 1 left.month) months
    rw [next] at later
    rw [← sameYear]
    omega
  · rw [← sameYear, ← sameMonth]
    omega

end Date

namespace Instant

def nanos (instant : Instant) : Int :=
  (instant.date.dayNumber * 86400 + instant.time.secondOfDay) * 1000000000 + instant.time.nano

/-- The instant lies outside leap seconds. -/
def IsPlain (instant : Instant) : Prop := instant.time.nano < 1000000000

theorem nanos_since_eq {later earlier : Instant} (laterPlain : later.IsPlain)
    (earlierPlain : earlier.IsPlain) : later.nanosSince earlier = later.nanos - earlier.nanos := by
  have noLeap : ∀ instant : Instant, instant.IsPlain → instant.time.isLeapSecond = false := by
    intro instant plain
    simpa [TimeOfDay.isLeapSecond, IsPlain] using plain
  unfold nanosSince TimeOfDay.secondsSince nanos
  simp only [noLeap later laterPlain, noLeap earlier earlierPlain, Bool.and_false,
    Bool.false_eq_true, ↓reduceIte]
  omega

theorem is_before_iff (left right : Instant) :
    left.isBefore right = true ↔ left.date.Precedes right.date ∨ left.date = right.date ∧
      (left.time.hour < right.time.hour ∨ left.time.hour = right.time.hour ∧
        (left.time.minute < right.time.minute ∨ left.time.minute = right.time.minute ∧
          (left.time.second < right.time.second ∨ left.time.second = right.time.second ∧
            left.time.nano < right.time.nano))) := by
  obtain ⟨⟨leftYear, leftMonth, leftDay, _, _⟩, leftTime⟩ := left
  obtain ⟨⟨rightYear, rightMonth, rightDay, _, _⟩, rightTime⟩ := right
  simp only [isBefore, fields, Date.Precedes, Date.mk.injEq, decide_eq_true_eq,
    List.cons_lt_cons_iff, List.not_lt_nil, and_false, or_false]
  omega

theorem nanos_lt {left right : Instant} (leftPlain : left.IsPlain) (rightPlain : right.IsPlain)
    (order : left.isBefore right = true) : left.nanos < right.nanos := by
  unfold IsPlain at leftPlain rightPlain
  have leftHour := left.time.hour_valid
  have leftMinute := left.time.minute_valid
  have leftSecond := left.time.second_valid
  have rightHour := right.time.hour_valid
  have rightMinute := right.time.minute_valid
  have rightSecond := right.time.second_valid
  unfold nanos TimeOfDay.secondOfDay
  obtain dates | ⟨sameDate, times⟩ := (is_before_iff left right).mp order
  · have days := Date.day_number_lt dates
    omega
  · rw [sameDate]
    omega

theorem fields_injective {left right : Instant} (same : left.fields = right.fields) :
    left = right := by
  obtain ⟨⟨leftYear, leftMonth, leftDay, _, _⟩, leftHour, leftMinute, leftSecond, leftNano⟩ := left
  obtain ⟨⟨rightYear, rightMonth, rightDay, _, _⟩, rightHour, rightMinute, rightSecond,
    rightNano⟩ := right
  simpa [fields, Int.natCast_inj, and_assoc] using same

theorem before_or_equal (left right : Instant) :
    left.isBefore right = true ∨ left = right ∨ right.isBefore left = true := by
  simp only [isBefore, decide_eq_true_eq]
  by_cases before : left.fields < right.fields
  · exact .inl before
  · by_cases after : right.fields < left.fields
    · exact .inr (.inr after)
    · exact .inr (.inl (fields_injective (Std.Trichotomous.trichotomous _ _ before after)))

theorem is_before_asymm {left right : Instant} (order : left.isBefore right = true) :
    ¬ right.isBefore left = true := by
  simp only [Instant.isBefore, decide_eq_true_eq] at order ⊢
  exact List.lt_asymm order

theorem is_before_trans {first second third : Instant} (earlier : first.isBefore second = true)
    (later : second.isBefore third = true) : first.isBefore third = true := by
  simp only [Instant.isBefore, decide_eq_true_eq] at earlier later ⊢
  exact List.lt_trans earlier later

theorem nanos_le {left right : Instant} (leftPlain : left.IsPlain) (rightPlain : right.IsPlain)
    (order : right.isBefore left = false) : left.nanos ≤ right.nanos := by
  obtain before | rfl | after := before_or_equal left right
  · exact Int.le_of_lt (nanos_lt leftPlain rightPlain before)
  · exact Int.le_refl _
  · rw [after] at order
    cases order

end Instant

def newYear : Instant where
  date := ⟨2024, 1, 1, by decide, by decide⟩
  time := ⟨0, 0, 0, 0, by decide, by decide, by decide, by decide⟩

def newYearAt (minute nano : Nat) : Instant where
  date := newYear.date
  time := ⟨0, minute % 60, 0, nano % 1000000000, by decide, Nat.mod_lt _ (by decide), by decide,
    by omega⟩

end TicketRouting
