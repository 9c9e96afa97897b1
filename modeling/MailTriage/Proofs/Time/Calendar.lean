import MailTriage.Time.Calendar

/-! # Dates and days

Finding the date of a day and counting the days before a date undo each other
(`dayNumber_dateOfDay`), and the date that is found exists (`isValid_dateOfDay`).  The year is found
by an estimate that `yearOfDay_spec` shows to be at most one year off; the month by a walk through
the lengths of the months, which keeps the sum of what lies behind and what lies ahead
(`monthOfDay_spec`).  So dates come in the order of their days (`before_dateOfDay`).
-/
namespace MailTriage.Calendar

-- Sums start from the zero of the numbers themselves, also where every monoid has its own.
attribute [local instance (10001)] Zero.ofOfNat0

/-- A leap year has one day more. -/
theorem daysBeforeYear_succ (year : Int) :
    daysBeforeYear (year + 1) = daysBeforeYear year + (monthLengths year).sum := by
  have hsum : ((monthLengths year).sum : Int) = 365 + if isLeapYear year then 1 else 0 := by
    cases h : isLeapYear year <;> simp [monthLengths, h]
  rw [hsum, daysBeforeYear, daysBeforeYear]
  cases h : isLeapYear year with
  | true =>
    simp only [isLeapYear, Bool.and_eq_true, Bool.or_eq_true, beq_iff_eq, bne_iff_ne] at h
    simp only [if_true]
    omega
  | false =>
    simp only [isLeapYear, Bool.and_eq_false_iff, Bool.or_eq_false_iff, beq_eq_false_iff_ne,
      bne_eq_false_iff_eq] at h
    simp only [Bool.false_eq_true, if_false]
    omega

/-- The year of a day is the one that the day lies in. -/
theorem yearOfDay_spec (n : Int) :
    daysBeforeYear (yearOfDay n) ≤ n ∧ n < daysBeforeYear (yearOfDay n + 1) := by
  -- 400 years have 146097 days, so the estimate is off by less than a year either way
  have hguess : daysBeforeYear (n * 400 / 146097 + 1 - 1) ≤ n
      ∧ n < daysBeforeYear (n * 400 / 146097 + 1 + 1 + 1) := by
    simp only [daysBeforeYear]
    omega
  simp only [yearOfDay]
  split
  · next h => exact ⟨hguess.1, by rw [Int.sub_add_cancel]; exact h⟩
  · next h =>
    split
    · next h' => exact ⟨h', hguess.2⟩
    · next h' => exact ⟨Int.not_lt.mp h, Int.not_le.mp h'⟩

/-- The walk through the months ends in the month that the day lies in. -/
theorem monthOfDay_spec {lengths : List Nat} (start : Nat) {day : Nat} (h : day < lengths.sum) :
    ∃ k length, lengths[k]? = some length ∧ (monthOfDay lengths start day).1 = start + k
      ∧ 1 ≤ (monthOfDay lengths start day).2 ∧ (monthOfDay lengths start day).2 ≤ length
      ∧ day + 1 = (lengths.take k).sum + (monthOfDay lengths start day).2 := by
  induction lengths generalizing start day with
  | nil => simp at h
  | cons length rest ih =>
    rw [monthOfDay]
    split
    · next hday => exact ⟨0, length, rfl, rfl, by simp, hday, by simp⟩
    · next hday =>
      rw [List.sum_cons] at h
      obtain ⟨k, other, hk, hmonth, hone, hle, hsum⟩ :=
        ih (start + 1) (show day - length < rest.sum by omega)
      refine ⟨k + 1, other, hk, by omega, hone, hle, ?_⟩
      rw [List.take_succ_cons, List.sum_cons]
      omega

/-- Where the date of a day lies: in an existing month, at an existing day of it. -/
theorem dateOfDay_spec (day : Int) :
    ∃ k length, (monthLengths (dateOfDay day).year)[k]? = some length
      ∧ (dateOfDay day).month = k + 1 ∧ 1 ≤ (dateOfDay day).day ∧ (dateOfDay day).day ≤ length
      ∧ day + epochOffset + 1 = daysBeforeYear (dateOfDay day).year
        + ((monthLengths (dateOfDay day).year).take k).sum + (dateOfDay day).day := by
  obtain ⟨hlow, hhigh⟩ := yearOfDay_spec (day + epochOffset)
  rw [daysBeforeYear_succ] at hhigh
  have hday : (day + epochOffset - daysBeforeYear (yearOfDay (day + epochOffset))).toNat
      < (monthLengths (yearOfDay (day + epochOffset))).sum := by omega
  obtain ⟨k, length, hk, hmonth, hone, hle, hsum⟩ := monthOfDay_spec 1 hday
  refine ⟨k, length, hk, by simp only [dateOfDay]; omega, hone, hle, ?_⟩
  simp only [dateOfDay]
  omega

theorem isValid_dateOfDay (day : Int) : (dateOfDay day).isValid = true := by
  obtain ⟨k, length, hk, hmonth, hone, hle, -⟩ := dateOfDay_spec day
  rw [Date.isValid, hmonth]
  simp [hk, hone, hle]

/-- **The date of a day is the date whose day it is.** -/
theorem dayNumber_dateOfDay (day : Int) : dayNumber (dateOfDay day) = day := by
  obtain ⟨k, length, hk, hmonth, hone, hle, hsum⟩ := dateOfDay_spec day
  rw [dayNumber, hmonth, Nat.add_sub_cancel]
  omega

theorem month_dateOfDay_le (day : Int) : (dateOfDay day).month ≤ 12 := by
  obtain ⟨k, length, hk, hmonth, -⟩ := dateOfDay_spec day
  have hlt := (List.getElem?_eq_some_iff.mp hk).1
  rw [show (monthLengths (dateOfDay day).year).length = 12 from rfl] at hlt
  omega

theorem day_dateOfDay_le (day : Int) : (dateOfDay day).day ≤ 31 := by
  obtain ⟨k, length, hk, -, -, hle, -⟩ := dateOfDay_spec day
  have hmem := List.mem_of_getElem? hk
  have hlength : length ≤ 31 := by
    simp only [monthLengths, List.mem_cons, List.not_mem_nil, or_false] at hmem
    split at hmem <;> omega
  omega

theorem one_le_month_dateOfDay (day : Int) : 1 ≤ (dateOfDay day).month := by
  obtain ⟨k, length, -, hmonth, -⟩ := dateOfDay_spec day
  omega

theorem one_le_day_dateOfDay (day : Int) : 1 ≤ (dateOfDay day).day := by
  obtain ⟨k, length, -, -, hone, -⟩ := dateOfDay_spec day
  exact hone

/-! ### The order of dates -/

/-- A date is earlier than another: by year, then by month, then by day. -/
def Date.Before (a b : Date) : Prop :=
  a.year < b.year ∨ a.year = b.year ∧ (a.month < b.month ∨ a.month = b.month ∧ a.day < b.day)

theorem daysBeforeYear_mono {first second : Int} (h : first ≤ second) :
    daysBeforeYear first ≤ daysBeforeYear second := by
  rw [daysBeforeYear, daysBeforeYear]
  omega

/-- A month is over before any later month starts. -/
theorem sum_take_add_le {lengths : List Nat} {k later length : Nat}
    (hlength : lengths[k]? = some length) (h : k < later) :
    (lengths.take k).sum + length ≤ (lengths.take later).sum := by
  induction h with
  | refl => simp [List.take_add_one, hlength]
  | step _ ih =>
    rw [List.take_add_one, List.sum_append]
    omega

/-- **Later days have later dates.** -/
theorem before_dateOfDay {first second : Int} (h : first < second) :
    (dateOfDay first).Before (dateOfDay second) := by
  obtain ⟨k, length, hk, hmonth, hone, hle, hsum⟩ := dateOfDay_spec first
  obtain ⟨l, length', hl, hmonth', hone', hle', hsum'⟩ := dateOfDay_spec second
  rcases Int.lt_trichotomy (dateOfDay first).year (dateOfDay second).year with hyear | hyear | hyear
  · exact .inl hyear
  · refine .inr ⟨hyear, ?_⟩
    rw [hyear] at hk hsum
    rcases Nat.lt_trichotomy k l with hkl | rfl | hlk
    · exact .inl (by omega)
    · exact .inr ⟨by omega, by omega⟩
    · have hover := sum_take_add_le hl hlk
      omega
  · -- the earlier day would lie in a year that starts after the later day's year is over
    have hstart : daysBeforeYear (yearOfDay (second + epochOffset) + 1)
        ≤ daysBeforeYear (yearOfDay (first + epochOffset)) := daysBeforeYear_mono hyear
    have hover := (yearOfDay_spec (second + epochOffset)).2
    have hbegun := (yearOfDay_spec (first + epochOffset)).1
    omega

theorem year_dateOfDay_mono {first second : Int} (h : first ≤ second) :
    (dateOfDay first).year ≤ (dateOfDay second).year := by
  rcases Int.lt_or_eq_of_le h with hlt | rfl
  · rcases before_dateOfDay hlt with hyear | ⟨hyear, -⟩
    · exact Int.le_of_lt hyear
    · exact Int.le_of_eq hyear
  · exact Int.le_refl _

end MailTriage.Calendar
