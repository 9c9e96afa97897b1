import MailTriage.Proofs.Text.Digits
import MailTriage.Proofs.Time.Calendar
import MailTriage.Time.Timestamp

/-! # Timestamps read back

The loose reader undoes writing: a timestamp with the fewest fraction digits gives the instant itself
(`readLoosely_write`).  The strict reader undoes it in the years that take four digits, where a
timestamp with three fraction digits gives the instant cut off after the milliseconds
(`read_writeMillis`); a year with a sign it refuses (`read_writeMillis_of_not`).

Writing and reading meet in the fields: `layout` is the text of some fields, each reader finds these
fields in it again, and the fields of an instant denote that instant.
-/
namespace MailTriage

-- Powers and sums are those of the numbers themselves, also where every monoid has its own.
attribute [local instance (10001)] instPowNat Zero.ofOfNat0

/-- The instant lies in a year that takes four digits. -/
def Instant.InFourDigitYear (t : Instant) : Prop :=
  0 ≤ (Calendar.dateOfDay t.day).year ∧ (Calendar.dateOfDay t.day).year ≤ 9999

instance (t : Instant) : Decidable t.InFourDigitYear := inferInstanceAs (Decidable (_ ∧ _))

theorem Instant.inFourDigitYear_truncateToMillis {t : Instant} :
    t.truncateToMillis.InFourDigitYear ↔ t.InFourDigitYear := Iff.rfl

theorem Instant.eq_of_second_nano {t u : Instant} (hsecond : t.second = u.second)
    (hnano : t.nano = u.nano) : t = u := by
  cases t
  cases u
  cases hsecond
  cases hnano
  rfl

@[simp] theorem Instant.truncateToMillis_truncateToMillis (t : Instant) :
    t.truncateToMillis.truncateToMillis = t.truncateToMillis := by
  refine eq_of_second_nano rfl ?_
  show t.nano / 1000000 * 1000000 / 1000000 * 1000000 = t.nano / 1000000 * 1000000
  rw [Nat.mul_div_cancel _ (by decide)]

theorem Instant.of?_second_nano (t : Instant) : of? t.second t.nano = some t :=
  dif_pos ⟨t.nano_lt, t.leap_at_minute_end, t.earliest_le, t.le_latest⟩

namespace Timestamp

open Text

/-! ### Numbers and signs -/

theorem digits_append (count n : Nat) (rest : List Char) :
    digits count (fixedDigits count n ++ rest) = .ok (n % 10 ^ count, rest) := by
  have htake : ((fixedDigits count n ++ rest).take count).takeWhile isDigit
      = fixedDigits count n := by
    rw [List.take_left' (length_fixedDigits count n)]
    exact takeWhile_isDigit_eq_self fun _ hc => isDigit_of_mem_fixedDigits hc
  rw [digits]
  simp only [htake, length_fixedDigits, Nat.lt_irrefl, if_false, valueOfDigits_fixedDigits]
  rw [List.drop_left' (length_fixedDigits count n)]

theorem length_le_sum_utf8Size (cs : List Char) : cs.length ≤ (cs.map Char.utf8Size).sum := by
  induction cs with
  | nil => exact Nat.le_refl 0
  | cons c rest ih =>
    rw [List.length_cons, List.map_cons, List.sum_cons]
    have := c.utf8Size_pos
    omega

theorem length_le_utf8ByteSize (cs : List Char) :
    cs.length ≤ (String.ofList cs).utf8ByteSize := by
  induction cs with
  | nil => exact Nat.zero_le _
  | cons c rest ih =>
    rw [String.ofList_cons, String.utf8ByteSize_append, String.utf8ByteSize_singleton,
      List.length_cons]
    have := c.utf8Size_pos
    omega

/-- Digits read as the number that they denote, if it is small enough. -/
theorem number_digits {least most : Nat} {ds rest : List Char}
    (hds : ∀ c ∈ ds, isDigit c = true) (hleast : least ≤ ds.length) (hmost : ds.length ≤ most)
    (hvalue : valueOfDigits 0 ds < 0x8000000000000000)
    (hrest : ds.length = most ∨ ∀ c ∈ rest.head?, isDigit c = false) :
    number least most (ds ++ rest) = .ok (valueOfDigits 0 ds, rest) := by
  have hsize : ¬ ((ds ++ rest).map Char.utf8Size).sum < least := by
    have h := length_le_sum_utf8Size (ds ++ rest)
    rw [List.length_append] at h
    omega
  have htake : ((ds ++ rest).take most).takeWhile isDigit = ds := by
    rw [List.take_append, List.take_of_length_le hmost]
    refine takeWhile_isDigit_append hds fun c hc => ?_
    rcases hrest with heq | hrest
    · rw [heq, Nat.sub_self, List.take_zero] at hc
      cases hc
    · rw [List.head?_take] at hc
      split at hc
      · cases hc
      · exact hrest c hc
  rw [number, if_neg hsize]
  simp only [htake, if_neg (Nat.not_le.mpr hvalue), if_neg (Nat.not_lt.mpr hleast)]
  rw [List.drop_left]

theorem number_append {least most places : Nat} (n : Nat) {rest : List Char}
    (hleast : least ≤ places) (hmost : places ≤ most) (hplaces : places ≤ 9)
    (hrest : places = most ∨ ∀ c ∈ rest.head?, isDigit c = false) :
    number least most (fixedDigits places n ++ rest) = .ok (n % 10 ^ places, rest) := by
  have hvalue : n % 10 ^ places < 0x8000000000000000 := by
    have h₁ := Nat.mod_lt n (Nat.pow_pos (n := places) (show 0 < 10 by decide))
    have h₂ : 10 ^ places ≤ 10 ^ (9 : Nat) := Nat.pow_le_pow_right (by decide) hplaces
    omega
  rw [← valueOfDigits_fixedDigits] at hvalue ⊢
  rw [← length_fixedDigits places n] at hleast hmost hrest
  exact number_digits (fun _ hc => isDigit_of_mem_fixedDigits hc) hleast hmost hvalue hrest

theorem char_cons (c : Char) (rest : List Char) : char c (c :: rest) = .ok ((), rest) := if_pos rfl

theorem dateTimeSeparator_cons (rest : List Char) :
    dateTimeSeparator ('T' :: rest) = .ok ((), rest) := rfl

theorem offset_utc (separator : Reader Unit) : offset separator ['Z'] = .ok (0, []) := rfl

/-! ### Fractions of a second -/

/-- What is read for a fraction of a second with as many digits as a precision writes. -/
def Precision.kept (precision : Precision) (nano : Nat) : Nat :=
  match precision with
  | .shortest => nano
  | .millis => nano / 1000000 * 1000000

theorem fraction_places {places n nano : Nat} (hone : 1 ≤ places) (hnine : places ≤ 9)
    (hn : n < 10 ^ places) (hnano : n * 10 ^ (9 - places) = nano) :
    fraction ('.' :: (fixedDigits places n ++ ['Z'])) = .ok (nano, ['Z']) := by
  rw [fraction, number_append n hone hnine hnine
    (.inr fun c hc => by rw [← Option.some_inj.mp hc]; rfl)]
  simp only [bind, Except.bind, pure, Except.pure]
  rw [List.length_append, length_fixedDigits, Nat.add_sub_cancel, Nat.mod_eq_of_lt hn, hnano]
  rfl

theorem fraction_fractionChars (precision : Precision) {nano : Nat} (h : nano < 1000000000) :
    fraction (fractionChars precision nano ++ ['Z']) = .ok (precision.kept nano, ['Z']) := by
  cases precision with
  | millis => exact fraction_places (by decide) (by decide) (by omega) rfl
  | shortest =>
    show _ = Except.ok (nano, ['Z'])
    rw [fractionChars]
    -- three, six or nine digits are the fewest that lose nothing
    split
    · next hzero => rw [hzero]; rfl
    · split
      · next hmillis => exact fraction_places (by decide) (by decide) (by omega) (by omega)
      · split
        · next hmicros => exact fraction_places (by decide) (by decide) (by omega) (by omega)
        · exact fraction_places (by decide) (by decide) (by omega) (by omega)

/-! ### Fields -/

/-- The text of some fields in UTC, given the characters of the fraction of the second. -/
def layout (f : Fields) (fractionText : List Char) : List Char :=
  yearChars f.year ++ '-' :: (fixedDigits 2 f.month ++ '-' :: (fixedDigits 2 f.day
    ++ 'T' :: (fixedDigits 2 f.hour ++ ':' :: (fixedDigits 2 f.minute
    ++ ':' :: (fixedDigits 2 f.second ++ (fractionText ++ ['Z']))))))

/-- The fields name a date and a time of day, in UTC and in a year that a reader can hold. -/
structure Fields.Proper (f : Fields) : Prop where
  year_size : f.year.natAbs < 0x8000000000000000
  month_pos : 1 ≤ f.month
  month_le : f.month ≤ 12
  day_pos : 1 ≤ f.day
  day_le : f.day ≤ 31
  isValid : Calendar.Date.isValid ⟨f.year, f.month, f.day⟩ = true
  hour_le : f.hour ≤ 23
  minute_le : f.minute ≤ 59
  second_le : f.second ≤ 60
  offset_zero : f.offset = 0

/-- The fields name a date and a time of day, in UTC and in a year of four digits. -/
structure Fields.Ordinary (f : Fields) : Prop extends f.Proper where
  year_nonneg : 0 ≤ f.year
  year_le : f.year ≤ 9999

/-- A year of four digits is written without a sign. -/
theorem yearChars_of_four_digits {year : Int} (h : 0 ≤ year) (hle : year ≤ 9999) :
    yearChars year = fixedDigits 4 year.toNat := by
  have hsize : year.natAbs < 10000 := by omega
  simp only [yearChars, if_pos hsize, if_neg (Int.not_lt.mpr h), if_neg (Int.not_lt.mpr hle)]
  rw [show year.natAbs = year.toNat by omega]

/-- A year is written with its digits, after a sign if it takes one. -/
theorem exists_yearChars (year : Int) :
    ∃ ds, (∀ c ∈ ds, isDigit c = true) ∧ 4 ≤ ds.length ∧ valueOfDigits 0 ds = year.natAbs
      ∧ yearChars year
        = if year < 0 then '-' :: ds else if 9999 < year then '+' :: ds else ds := by
  by_cases hsize : year.natAbs < 10000
  · refine ⟨fixedDigits 4 year.natAbs, fun c hc => isDigit_of_mem_fixedDigits hc, by simp, ?_, ?_⟩
    · rw [valueOfDigits_fixedDigits]
      exact Nat.mod_eq_of_lt hsize
    · rw [yearChars, if_pos hsize]
  · refine ⟨decimalChars year.natAbs, fun c hc => isDigit_of_mem_decimalChars hc, ?_,
      valueOfDigits_decimalChars year.natAbs, ?_⟩
    · exact Nat.le_of_lt (lt_length_decimalChars (by omega))
    · rw [yearChars, if_neg hsize]

/-- Outside the years of four digits a year starts with a sign. -/
theorem exists_signed_yearChars {t : Instant} (h : ¬ t.InFourDigitYear) :
    ∃ sign ds, (sign = '-' ∨ sign = '+')
      ∧ yearChars (Calendar.dateOfDay t.day).year = sign :: ds := by
  obtain ⟨ds, -, -, -, hchars⟩ := exists_yearChars (Calendar.dateOfDay t.day).year
  by_cases hnegative : (Calendar.dateOfDay t.day).year < 0
  · exact ⟨'-', ds, .inl rfl, by rw [hchars, if_pos hnegative]⟩
  · have hlarge : 9999 < (Calendar.dateOfDay t.day).year :=
      Int.not_le.mp fun hle => h ⟨Int.not_lt.mp hnegative, hle⟩
    exact ⟨'+', ds, .inr rfl, by rw [hchars, if_neg hnegative, if_pos hlarge]⟩

theorem mod_two_places {n most : Nat} (h : n ≤ most) (hmost : most < 100) : n % 10 ^ (2 : Nat) = n :=
  Nat.mod_eq_of_lt (Nat.lt_of_le_of_lt h hmost)

theorem Fields.Ordinary.year_mod {f : Fields} (hf : f.Ordinary) :
    ((f.year.toNat % 10 ^ (4 : Nat) : Nat) : Int) = f.year := by
  have := hf.year_nonneg
  have := hf.year_le
  omega

/-- The strict reader finds the fields of a text again. -/
theorem fields_layout {f : Fields} (hf : f.Ordinary) {fractionText : List Char}
    (hfraction : fraction (fractionText ++ ['Z']) = .ok (f.nano, ['Z'])) :
    fields (layout f fractionText) = .ok (f, []) := by
  have hclock : (decide (23 < f.hour) || decide (59 < f.minute) || decide (60 < f.second))
      = false := by
    have := hf.hour_le
    have := hf.minute_le
    have := hf.second_le
    simp only [Bool.or_eq_false_iff, decide_eq_false_iff_not]
    omega
  rw [layout, yearChars_of_four_digits hf.year_nonneg hf.year_le]
  simp only [fields, bind, Except.bind, pure, Except.pure, digits_append, char_cons,
    dateTimeSeparator_cons, hfraction, hf.year_mod, mod_two_places hf.month_le (by decide),
    mod_two_places hf.day_le (by decide), mod_two_places hf.hour_le (by decide),
    mod_two_places hf.minute_le (by decide), mod_two_places hf.second_le (by decide), hf.isValid, hclock,
    offset_utc, Bool.not_true, Bool.false_eq_true, if_false]
  rw [← hf.offset_zero]

theorem trimStart_fixedDigits (places n : Nat) (rest : List Char) :
    trimStart (fixedDigits (places + 1) n ++ rest) = fixedDigits (places + 1) n ++ rest := by
  obtain ⟨c, ds, heq⟩ := List.exists_cons_of_length_eq_add_one (length_fixedDigits (places + 1) n)
  have hmem : c ∈ fixedDigits (places + 1) n := heq ▸ List.mem_cons_self
  have hc : isDigit c = true := isDigit_of_mem_fixedDigits hmem
  rw [heq, List.cons_append, trimStart, List.dropWhile_cons_of_neg]
  rw [isBlank_of_isDigit hc]
  exact Bool.false_ne_true

theorem looseNumber_append (n : Nat) (rest : List Char) :
    looseNumber (fixedDigits 2 n ++ rest) = .ok (n % 10 ^ (2 : Nat), rest) := by
  rw [looseNumber, trimStart_fixedDigits,
    number_append n (by decide) (by decide) (by decide) (.inl rfl)]

theorem looseYear_append (n : Nat) (rest : List Char) :
    looseYear (fixedDigits 4 n ++ rest) = .ok (((n % 10 ^ (4 : Nat) : Nat) : Int), rest) := by
  obtain ⟨c, ds, heq⟩ := List.exists_cons_of_length_eq_add_one (length_fixedDigits 4 n)
  have hmem : c ∈ fixedDigits 4 n := heq ▸ List.mem_cons_self
  have hc : isDigit c = true := isDigit_of_mem_fixedDigits hmem
  rw [looseYear, trimStart_fixedDigits]
  split
  · next heq' => rw [heq] at heq'; cases heq'; cases hc
  · next heq' => rw [heq] at heq'; cases heq'; cases hc
  · rw [number_append n (by decide) (by decide) (by decide) (.inl rfl)]
    rfl

theorem trimStart_cons_of_not_blank {c : Char} (hc : isBlank c = false) (rest : List Char) :
    trimStart (c :: rest) = c :: rest := by
  rw [trimStart, List.dropWhile_cons_of_neg (by rw [hc]; exact Bool.false_ne_true)]

/-- The loose reader finds a year again, with its sign. -/
theorem looseYear_yearChars {year : Int} (hsize : year.natAbs < 0x8000000000000000) {rest : List Char}
    (hrest : ∀ c ∈ rest.head?, isDigit c = false) :
    looseYear (yearChars year ++ rest) = .ok (year, rest) := by
  obtain ⟨ds, hds, hleast, hvalue, hchars⟩ := exists_yearChars year
  have hnumber : number 1 (ds ++ rest).length (ds ++ rest) = .ok (year.natAbs, rest) := by
    rw [number_digits hds (by omega) (by simp) (by rw [hvalue]; exact hsize) (.inr hrest), hvalue]
  by_cases hnegative : year < 0
  · rw [hchars, if_pos hnegative, List.cons_append, looseYear, trimStart_cons_of_not_blank rfl]
    simp only [hnumber, bind, Except.bind, pure, Except.pure]
    rw [show -(year.natAbs : Int) = year by omega]
  · by_cases hlarge : 9999 < year
    · rw [hchars, if_neg hnegative, if_pos hlarge, List.cons_append, looseYear,
        trimStart_cons_of_not_blank rfl]
      simp only [hnumber, bind, Except.bind, pure, Except.pure]
      rw [show (year.natAbs : Int) = year by omega]
    · rw [yearChars_of_four_digits (by omega) (by omega), looseYear_append,
        show ((year.toNat % 10 ^ (4 : Nat) : Nat) : Int) = year by omega]

theorem looseChar_cons {c : Char} (hc : isBlank c = false) (rest : List Char) :
    looseChar c (c :: rest) = .ok ((), rest) := by
  rw [looseChar, trimStart_cons_of_not_blank hc, char_cons]

theorem bounded_ok {least most n : Nat} (hleast : least ≤ n) (hmost : n ≤ most)
    (rest : List Char) : bounded least most (n, rest) = .ok (n, rest) := by
  rw [bounded, if_pos]
  simp only [Bool.and_eq_true, decide_eq_true_eq]
  exact ⟨hleast, hmost⟩

theorem looseOffset_utc : looseOffset (trimStart ['Z']) = .ok (0, []) := rfl

/-- The loose reader finds the fields of a text again. -/
theorem looseFields_layout {f : Fields} (hf : f.Proper) {fractionText : List Char}
    (hfraction : fraction (fractionText ++ ['Z']) = .ok (f.nano, ['Z'])) :
    looseFields (layout f fractionText) = .ok (f, []) := by
  have hdash : isBlank '-' = false := rfl
  have hcolon : isBlank ':' = false := rfl
  have hyear : ∀ after, looseYear (yearChars f.year ++ '-' :: after)
      = .ok (f.year, '-' :: after) := fun after =>
    looseYear_yearChars hf.year_size fun c hc => by rw [← Option.some_inj.mp hc]; rfl
  simp only [looseFields, layout, bind, Except.bind, pure, Except.pure, hyear,
    looseNumber_append, looseChar_cons hdash, looseChar_cons hcolon, dateTimeSeparator_cons,
    hfraction, mod_two_places hf.month_le (by decide),
    mod_two_places hf.day_le (by decide), mod_two_places hf.hour_le (by decide),
    mod_two_places hf.minute_le (by decide), mod_two_places hf.second_le (by decide),
    bounded_ok hf.month_pos hf.month_le, bounded_ok hf.day_pos hf.day_le,
    bounded_ok (Nat.zero_le _) hf.hour_le, bounded_ok (Nat.zero_le _) hf.minute_le,
    bounded_ok (Nat.zero_le _) hf.second_le, looseOffset_utc]
  rw [← hf.offset_zero]

/-! ### Instants -/

/-- The instant as far as a precision writes it. -/
def Precision.cut (precision : Precision) (t : Instant) : Instant :=
  match precision with
  | .shortest => t
  | .millis => t.truncateToMillis

/-- The fields of an instant that are read back from what a precision writes of it. -/
def fieldsOf (precision : Precision) (t : Instant) : Fields where
  year := (Calendar.dateOfDay t.day).year
  month := (Calendar.dateOfDay t.day).month
  day := (Calendar.dateOfDay t.day).day
  hour := t.secondOfDay / 3600
  minute := t.secondOfDay / 60 % 60
  second := t.secondOfDay % 60 + if 1000000000 ≤ t.nano then 1 else 0
  nano := precision.kept (t.nano % 1000000000)
  offset := 0

theorem secondOfDay_lt (t : Instant) : t.secondOfDay < 86400 := by
  have := Int.emod_lt_of_pos t.second (show (0 : Int) < 86400 by decide)
  rw [Instant.secondOfDay]
  omega

/-- Instants lie in years that a reader can hold. -/
theorem year_size_dateOfDay (t : Instant) :
    (Calendar.dateOfDay t.day).year.natAbs < 0x8000000000000000 := by
  have hfirst : (-10000000000000 : Int) ≤ earliestSecond := by decide
  have hlast : latestSecond ≤ (10000000000000 : Int) := by decide
  have h₁ := t.earliest_le
  have h₂ := t.le_latest
  have hyear : (Calendar.dateOfDay t.day).year
      = Calendar.yearOfDay (t.second / 86400 + Calendar.epochOffset) := rfl
  have hspec := Calendar.yearOfDay_spec (t.second / 86400 + Calendar.epochOffset)
  rw [← hyear] at hspec
  simp only [Calendar.daysBeforeYear, Calendar.epochOffset] at hspec
  omega

theorem proper_fieldsOf (precision : Precision) (t : Instant) :
    (fieldsOf precision t).Proper where
  year_size := year_size_dateOfDay t
  month_pos := Calendar.one_le_month_dateOfDay t.day
  month_le := Calendar.month_dateOfDay_le t.day
  day_pos := Calendar.one_le_day_dateOfDay t.day
  day_le := Calendar.day_dateOfDay_le t.day
  isValid := Calendar.isValid_dateOfDay t.day
  hour_le := by
    have := secondOfDay_lt t
    show t.secondOfDay / 3600 ≤ 23
    omega
  minute_le := by
    show t.secondOfDay / 60 % 60 ≤ 59
    omega
  second_le := by
    show t.secondOfDay % 60 + (if 1000000000 ≤ t.nano then 1 else 0) ≤ 60
    split <;> omega
  offset_zero := rfl

theorem ordinary_fieldsOf (precision : Precision) {t : Instant} (h : t.InFourDigitYear) :
    (fieldsOf precision t).Ordinary :=
  { proper_fieldsOf precision t with year_nonneg := h.1, year_le := h.2 }

theorem chars_eq_layout (precision : Precision) (t : Instant) :
    chars precision t
      = layout (fieldsOf precision t) (fractionChars precision (t.nano % 1000000000)) := by
  rw [chars]
  simp only [layout, fieldsOf, List.append_assoc, List.cons_append]

theorem fraction_of_instant (precision : Precision) (t : Instant) :
    fraction (fractionChars precision (t.nano % 1000000000) ++ ['Z'])
      = .ok ((fieldsOf precision t).nano, ['Z']) :=
  fraction_fractionChars precision (Nat.mod_lt _ (by decide))

/-- Cutting off does not reach into the whole second, and a leap second stays one. -/
theorem kept_add_leap (precision : Precision) (t : Instant) :
    precision.kept (t.nano % 1000000000) + (if 1000000000 ≤ t.nano then 1000000000 else 0)
      = (precision.cut t).nano := by
  have := t.nano_lt
  cases precision with
  | shortest =>
    show t.nano % 1000000000 + _ = t.nano
    split <;> omega
  | millis =>
    show t.nano % 1000000000 / 1000000 * 1000000 + _ = t.nano / 1000000 * 1000000
    split <;> omega

/-- Second 60 is written exactly for a leap second. -/
theorem second_fieldsOf_eq_sixty_iff (precision : Precision) (t : Instant) :
    (fieldsOf precision t).second = 60 ↔ 1000000000 ≤ t.nano := by
  have hend := t.leap_at_minute_end
  show t.secondOfDay % 60 + (if 1000000000 ≤ t.nano then 1 else 0) = 60 ↔ _
  rw [Instant.secondOfDay]
  split <;> omega

/-- The clock shows the second of the day.  A leap second shares the number of second 59. -/
theorem clock_fieldsOf (precision : Precision) (t : Instant) :
    ((fieldsOf precision t).hour : Int) * 3600 + (fieldsOf precision t).minute * 60
      + ((if (fieldsOf precision t).second = 60 then 59 else (fieldsOf precision t).second : Nat)
        : Int) = t.secondOfDay := by
  have hleap := second_fieldsOf_eq_sixty_iff precision t
  show ((t.secondOfDay / 3600 : Nat) : Int) * 3600 + ((t.secondOfDay / 60 % 60 : Nat) : Int) * 60
    + _ = _
  by_cases h : 1000000000 ≤ t.nano
  · rw [if_pos (hleap.mpr h)]
    have hend := t.leap_at_minute_end h
    have hlt := secondOfDay_lt t
    rw [Instant.secondOfDay] at hlt ⊢
    omega
  · rw [if_neg (fun h' => h (hleap.mp h'))]
    show _ + ((t.secondOfDay % 60 + (if 1000000000 ≤ t.nano then 1 else 0) : Nat) : Int) = _
    rw [if_neg h]
    omega

theorem nano_fieldsOf (precision : Precision) (t : Instant) :
    (if (fieldsOf precision t).second = 60
      then (fieldsOf precision t).nano + 1000000000 else (fieldsOf precision t).nano)
      = (precision.cut t).nano := by
  have hleap := second_fieldsOf_eq_sixty_iff precision t
  rw [← kept_add_leap]
  by_cases h : 1000000000 ≤ t.nano
  · rw [if_pos (hleap.mpr h), if_pos h]
    rfl
  · rw [if_neg (fun h' => h (hleap.mp h')), if_neg h]
    rfl

/-- The fields of an instant denote it. -/
theorem toInstant_fieldsOf (precision : Precision) (t : Instant) :
    (fieldsOf precision t).toInstant = .ok (precision.cut t) := by
  have hvalid : Calendar.Date.isValid ⟨(fieldsOf precision t).year, (fieldsOf precision t).month,
      (fieldsOf precision t).day⟩ = true := Calendar.isValid_dateOfDay t.day
  have hday : Calendar.dayNumber ⟨(fieldsOf precision t).year, (fieldsOf precision t).month,
      (fieldsOf precision t).day⟩ = t.day := Calendar.dayNumber_dateOfDay t.day
  have hsplit : 86400 * t.day + (t.secondOfDay : Int) = t.second := by
    rw [Instant.day, Instant.secondOfDay]
    omega
  have hrange : ¬ (t.second < earliestSecond || latestSecond < t.second) = true := by
    have h₁ := t.earliest_le
    have h₂ := t.le_latest
    simp only [Bool.or_eq_true, decide_eq_true_eq]
    omega
  have hsecond : t.second - (fieldsOf precision t).offset = (precision.cut t).second := by
    cases precision <;> exact Int.sub_zero _
  rw [Fields.toInstant, if_neg (show ¬ 86400 ≤ (fieldsOf precision t).offset.natAbs by
    show ¬ 86400 ≤ (0 : Int).natAbs
    decide), hvalid]
  simp only [Bool.not_true, Bool.false_eq_true, if_false, hday, clock_fieldsOf, nano_fieldsOf,
    hsplit, if_neg hrange]
  rw [hsecond, Instant.of?_second_nano]

theorem length_layout (f : Fields) (fractionText : List Char) :
    leastLength ≤ (layout f fractionText).length := by
  obtain ⟨ds, -, hleast, -, hchars⟩ := exists_yearChars f.year
  have hyear : 4 ≤ (yearChars f.year).length := by
    rw [hchars]
    split
    · exact Nat.le_succ_of_le hleast
    · split
      · exact Nat.le_succ_of_le hleast
      · exact hleast
  simp only [layout, leastLength, List.length_append, List.length_cons, length_fixedDigits]
  omega

/-- A timestamp is long enough for its fields to be looked at. -/
theorem read_ofList_chars (precision : Precision) (t : Instant) :
    read (String.ofList (chars precision t))
      = fields (chars precision t) >>= fun (f, rest) =>
        if !rest.isEmpty then .error .tooLong else f.toInstant := by
  have hsize : ¬ (String.ofList (chars precision t)).utf8ByteSize < leastLength := by
    have h₁ := length_layout (fieldsOf precision t)
      (fractionChars precision (t.nano % 1000000000))
    have h₂ := length_le_utf8ByteSize (chars precision t)
    rw [← chars_eq_layout] at h₁
    omega
  rw [read]
  simp only [if_neg hsize, String.toList_ofList, bind, Except.bind]
  cases fields (chars precision t) with
  | error why => rfl
  | ok fs =>
    obtain ⟨f, rest⟩ := fs
    cases rest <;> rfl

/-- **The strict reader undoes writing**, as far as the precision goes. -/
theorem read_chars (precision : Precision) {t : Instant} (h : t.InFourDigitYear) :
    read (String.ofList (chars precision t)) = .ok (precision.cut t) := by
  rw [read_ofList_chars, chars_eq_layout,
    fields_layout (ordinary_fieldsOf precision h) (fraction_of_instant precision t)]
  exact toInstant_fieldsOf precision t

/-- The strict reader refuses a year with a sign. -/
theorem read_chars_of_not (precision : Precision) {t : Instant} (h : ¬ t.InFourDigitYear) :
    read (String.ofList (chars precision t)) = .error .invalid := by
  obtain ⟨sign, ds, hsign, hyear⟩ := exists_signed_yearChars h
  have hdigits : ∀ rest, digits 4 (sign :: rest) = .error .invalid := by
    intro rest
    rw [digits]
    rcases hsign with rfl | rfl <;> rfl
  have hlayout := chars_eq_layout precision t
  rw [layout, show (fieldsOf precision t).year = (Calendar.dateOfDay t.day).year from rfl,
    hyear, List.cons_append] at hlayout
  rw [read_ofList_chars, hlayout, fields, hdigits]
  rfl

/-- **The loose reader undoes writing**, as far as the precision goes. -/
theorem readLoosely_chars (precision : Precision) (t : Instant) :
    readLoosely (String.ofList (chars precision t)) = .ok (precision.cut t) := by
  rw [readLoosely, String.toList_ofList, chars_eq_layout,
    looseFields_layout (proper_fieldsOf precision t) (fraction_of_instant precision t)]
  exact toInstant_fieldsOf precision t

theorem readLoosely_write (t : Instant) : readLoosely (write t) = .ok t :=
  readLoosely_chars .shortest t

theorem read_writeMillis {t : Instant} (h : t.InFourDigitYear) :
    read (writeMillis t) = .ok t.truncateToMillis :=
  read_chars .millis h

theorem read_writeMillis_of_not {t : Instant} (h : ¬ t.InFourDigitYear) :
    read (writeMillis t) = .error .invalid :=
  read_chars_of_not .millis h

/-! ### Null characters -/

theorem nul_not_mem_of_digits {cs : List Char} (h : ∀ c ∈ cs, isDigit c = true) : '\x00' ∉ cs :=
  fun hmem => nomatch h _ hmem

theorem nul_not_mem_fixedDigits (places n : Nat) : '\x00' ∉ fixedDigits places n :=
  nul_not_mem_of_digits fun _ hc => isDigit_of_mem_fixedDigits hc

theorem nul_not_mem_yearChars (year : Int) : '\x00' ∉ yearChars year := by
  have hdecimal : '\x00' ∉ decimalChars year.natAbs :=
    nul_not_mem_of_digits fun _ hc => isDigit_of_mem_decimalChars hc
  rw [yearChars]
  split <;> split <;> (try split) <;> simp [nul_not_mem_fixedDigits, hdecimal]

theorem nul_not_mem_fractionChars (precision : Precision) (nano : Nat) :
    '\x00' ∉ fractionChars precision nano := by
  cases precision with
  | millis => simp [fractionChars, nul_not_mem_fixedDigits]
  | shortest =>
    rw [fractionChars]
    split
    · simp
    · split
      · simp [nul_not_mem_fixedDigits]
      · split <;> simp [nul_not_mem_fixedDigits]

theorem nul_not_mem_chars (precision : Precision) (t : Instant) : '\x00' ∉ chars precision t := by
  simp [chars, nul_not_mem_yearChars, nul_not_mem_fixedDigits, nul_not_mem_fractionChars]

end Timestamp
end MailTriage
