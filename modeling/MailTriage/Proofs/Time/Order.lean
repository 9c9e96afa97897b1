import MailTriage.Proofs.Text.Encoding
import MailTriage.Proofs.Time.Timestamp

/-! # The order of timestamps

Timestamps with three fraction digits, in years of four digits, come in the order of the instants
they denote (`writeMillis_le_writeMillis_iff`): each field of a timestamp takes as many digits
whatever it holds, the longest span of time comes first, and of two instants the earlier one has the
smaller of the first fields that differ.  A leap second comes after second 59 and before the next
minute in both orders.  Comparing the bytes of timestamps gives the same (`writeMillis_orderly`).
-/
namespace MailTriage

/-! ### Instants -/

theorem Instant.le_antisymm {t u : Instant} (h : t ≤ u) (h' : u ≤ t) : t = u := by
  have h : t.second < u.second ∨ t.second = u.second ∧ t.nano ≤ u.nano := h
  have h' : u.second < t.second ∨ u.second = t.second ∧ u.nano ≤ t.nano := h'
  exact eq_of_second_nano (by omega) (by omega)

theorem Instant.le_trans {s t u : Instant} (h : s ≤ t) (h' : t ≤ u) : s ≤ u := by
  have h : s.second < t.second ∨ s.second = t.second ∧ s.nano ≤ t.nano := h
  have h' : t.second < u.second ∨ t.second = u.second ∧ t.nano ≤ u.nano := h'
  show s.second < u.second ∨ s.second = u.second ∧ s.nano ≤ u.nano
  omega

theorem Instant.earliest_le_self (t : Instant) : earliest ≤ t := by
  have hfirst := t.earliest_le
  show earliestSecond < t.second ∨ earliestSecond = t.second ∧ 0 ≤ t.nano
  omega

theorem Instant.truncateToMillis_le (t : Instant) : t.truncateToMillis ≤ t :=
  .inr ⟨rfl, Nat.div_mul_le_self t.nano 1000000⟩

theorem Instant.truncateToMillis_mono {t u : Instant} (h : t ≤ u) :
    t.truncateToMillis ≤ u.truncateToMillis :=
  h.imp_right fun ⟨hsecond, hnano⟩ =>
    ⟨hsecond, Nat.mul_le_mul_right 1000000 (Nat.div_le_div_right hnano)⟩

theorem Instant.year_le_year {t u : Instant} (h : t ≤ u) :
    (Calendar.dateOfDay t.day).year ≤ (Calendar.dateOfDay u.day).year := by
  have h : t.second < u.second ∨ t.second = u.second ∧ t.nano ≤ u.nano := h
  refine Calendar.year_dateOfDay_mono ?_
  rw [day, day]
  omega

theorem Instant.not_le_truncateToMillis {t u : Instant}
    (h : ¬ u.truncateToMillis ≤ t.truncateToMillis) :
    t.second < u.second ∨ t.second = u.second ∧ t.nano / 1000000 < u.nano / 1000000 := by
  have h : ¬ (u.second < t.second
    ∨ u.second = t.second ∧ u.nano / 1000000 * 1000000 ≤ t.nano / 1000000 * 1000000) := h
  omega

namespace Timestamp

open Text

/-! ### Timestamps -/

/-- Some fields are earlier than others: by the first field that differs. -/
def Fields.Before (f g : Fields) : Prop :=
  f.year < g.year ∨ f.year = g.year ∧ (f.month < g.month ∨ f.month = g.month ∧ (f.day < g.day
    ∨ f.day = g.day ∧ (f.hour < g.hour ∨ f.hour = g.hour ∧ (f.minute < g.minute
    ∨ f.minute = g.minute ∧ (f.second < g.second ∨ f.second = g.second ∧ f.nano < g.nano)))))

/-- Earlier instants have earlier fields. -/
theorem before_fieldsOf {t u : Instant}
    (h : t.second < u.second ∨ t.second = u.second ∧ t.nano / 1000000 < u.nano / 1000000) :
    (fieldsOf .millis t).Before (fieldsOf .millis u) := by
  rcases Int.lt_or_le t.day u.day with hday | hday
  · rcases Calendar.before_dateOfDay hday with hyear | ⟨hyear, hmonth | ⟨hmonth, hday⟩⟩
    · exact .inl hyear
    · exact .inr ⟨hyear, .inl hmonth⟩
    · exact .inr ⟨hyear, .inr ⟨hmonth, .inl hday⟩⟩
  · -- on one day the clock decides, with a leap second as second 60 of its minute
    have hsame : t.day = u.day := by
      rw [Instant.day, Instant.day] at hday ⊢
      omega
    have hdate : Calendar.dateOfDay t.day = Calendar.dateOfDay u.day :=
      congrArg Calendar.dateOfDay hsame
    have hclock : (fieldsOf .millis t).hour < (fieldsOf .millis u).hour
        ∨ (fieldsOf .millis t).hour = (fieldsOf .millis u).hour
          ∧ ((fieldsOf .millis t).minute < (fieldsOf .millis u).minute
          ∨ (fieldsOf .millis t).minute = (fieldsOf .millis u).minute
          ∧ ((fieldsOf .millis t).second < (fieldsOf .millis u).second
          ∨ (fieldsOf .millis t).second = (fieldsOf .millis u).second
          ∧ (fieldsOf .millis t).nano < (fieldsOf .millis u).nano)) := by
      rw [Instant.day, Instant.day] at hsame
      have ht := t.nano_lt
      have hu := u.nano_lt
      have htend := t.leap_at_minute_end
      simp only [fieldsOf, Instant.secondOfDay, Precision.kept]
      split <;> split <;> omega
    exact .inr ⟨congrArg Calendar.Date.year hdate, .inr ⟨congrArg Calendar.Date.month hdate,
      .inr ⟨congrArg Calendar.Date.day hdate, hclock⟩⟩⟩

/-- A field of two digits and what comes after it. -/
theorem two_places_lt {m n most : Nat} (hm : m ≤ most) (hn : n ≤ most) (hmost : most < 100)
    {cs ds : List Char} (h : m < n ∨ m = n ∧ cs < ds) :
    fixedDigits 2 m ++ cs < fixedDigits 2 n ++ ds :=
  fixedDigits_append_lt (Nat.lt_of_le_of_lt hm hmost) (Nat.lt_of_le_of_lt hn hmost) h

theorem and_cons_lt {p : Prop} {c : Char} {cs ds : List Char} (h : p ∧ cs < ds) :
    p ∧ c :: cs < c :: ds := h.imp_right List.cons_lt_cons_self.mpr

/-- Earlier fields have earlier texts. -/
theorem layout_lt_layout {f g : Fields} (hf : f.Ordinary) (hg : g.Ordinary)
    {cs ds : List Char} (hrest : f.nano < g.nano → cs ++ ['Z'] < ds ++ ['Z']) (h : f.Before g) :
    layout f cs < layout g ds := by
  have hyears : f.year.toNat < 10000 ∧ g.year.toNat < 10000 := by
    have := hf.year_le
    have := hg.year_le
    omega
  rw [layout, layout, yearChars_of_four_digits hf.year_nonneg hf.year_le,
    yearChars_of_four_digits hg.year_nonneg hg.year_le]
  -- from the year on, a field either differs or leaves the rest of the text to decide
  refine fixedDigits_append_lt hyears.1 hyears.2 ?_
  obtain hyear | ⟨hyear, h⟩ := h
  · exact .inl (by have := hf.year_nonneg; omega)
  refine .inr (and_cons_lt ⟨congrArg Int.toNat hyear, ?_⟩)
  refine two_places_lt hf.month_le hg.month_le (by decide) (h.imp_right fun h => ?_)
  refine and_cons_lt ⟨h.1, two_places_lt hf.day_le hg.day_le (by decide)
    (h.2.imp_right fun h => ?_)⟩
  refine and_cons_lt ⟨h.1, two_places_lt hf.hour_le hg.hour_le (by decide)
    (h.2.imp_right fun h => ?_)⟩
  refine and_cons_lt ⟨h.1, two_places_lt hf.minute_le hg.minute_le (by decide)
    (h.2.imp_right fun h => ?_)⟩
  exact and_cons_lt ⟨h.1, two_places_lt hf.second_le hg.second_le (by decide)
    (h.2.imp_right (.imp_right hrest))⟩

/-- **Earlier instants have earlier timestamps**, as far as the milliseconds go. -/
theorem writeMillis_lt_writeMillis {t u : Instant} (ht : t.InFourDigitYear)
    (hu : u.InFourDigitYear) (h : ¬ u.truncateToMillis ≤ t.truncateToMillis) :
    writeMillis t < writeMillis u := by
  have hfraction : (fieldsOf .millis t).nano < (fieldsOf .millis u).nano →
      fractionChars .millis (t.nano % 1000000000) ++ ['Z']
        < fractionChars .millis (u.nano % 1000000000) ++ ['Z'] := by
    intro hnano
    have hnano : t.nano % 1000000000 / 1000000 * 1000000
        < u.nano % 1000000000 / 1000000 * 1000000 := hnano
    exact List.cons_lt_cons_self.mpr
      (fixedDigits_append_lt (by omega) (by omega) (.inl (by omega)))
  have hchars := layout_lt_layout (ordinary_fieldsOf .millis ht) (ordinary_fieldsOf .millis hu)
    hfraction (before_fieldsOf (Instant.not_le_truncateToMillis h))
  rw [← chars_eq_layout, ← chars_eq_layout] at hchars
  show (String.ofList _).toList < (String.ofList _).toList
  rwa [String.toList_ofList, String.toList_ofList]

theorem writeMillis_truncateToMillis (t : Instant) :
    writeMillis t.truncateToMillis = writeMillis t := by
  have hfraction : t.truncateToMillis.nano % 1000000000 / 1000000
      = t.nano % 1000000000 / 1000000 := by
    show t.nano / 1000000 * 1000000 % 1000000000 / 1000000 = _
    omega
  have hleap : (1000000000 ≤ t.truncateToMillis.nano) = (1000000000 ≤ t.nano) := by
    refine propext (show 1000000000 ≤ t.nano / 1000000 * 1000000 ↔ _ from ?_)
    omega
  rw [writeMillis, writeMillis, chars, chars]
  simp only [fractionChars, hfraction, hleap]
  rfl

/-- Timestamps are the same exactly when the instants are the same up to the milliseconds. -/
theorem writeMillis_inj {t u : Instant} (ht : t.InFourDigitYear) (hu : u.InFourDigitYear) :
    writeMillis t = writeMillis u ↔ t.truncateToMillis = u.truncateToMillis := by
  constructor
  · intro h
    have hread := congrArg read h
    rw [read_writeMillis ht, read_writeMillis hu] at hread
    exact Except.ok.inj hread
  · intro h
    rw [← writeMillis_truncateToMillis t, h, writeMillis_truncateToMillis]

/-- **Timestamps come in the order of the instants**, as far as the milliseconds go. -/
theorem writeMillis_le_writeMillis_iff {t u : Instant} (ht : t.InFourDigitYear)
    (hu : u.InFourDigitYear) :
    writeMillis t ≤ writeMillis u ↔ t.truncateToMillis ≤ u.truncateToMillis := by
  by_cases hle : t.truncateToMillis ≤ u.truncateToMillis
  · refine iff_of_true ?_ hle
    by_cases hge : u.truncateToMillis ≤ t.truncateToMillis
    · rw [← String.not_lt, (writeMillis_inj ht hu).mpr (Instant.le_antisymm hle hge)]
      exact String.lt_irrefl (writeMillis u)
    · exact String.not_lt.mp (String.lt_asymm (writeMillis_lt_writeMillis ht hu hge))
  · exact iff_of_false (fun h => String.not_lt.mpr h (writeMillis_lt_writeMillis hu ht hle)) hle

/-- A year outside those of four digits has a sign, which comes before all digits. -/
theorem writeMillis_lt_of_digit {t : Instant} (ht : ¬ t.InFourDigitYear) {text : String}
    {c : Char} (htext : text.toList.head? = some c) (hdigit : isDigit c = true) :
    writeMillis t < text := by
  obtain ⟨sign, ds, hsign, hsigned⟩ := exists_signed_yearChars ht
  obtain ⟨cs, hcs⟩ := List.head?_eq_some_iff.mp htext
  have hlt : sign < c := by
    simp only [isDigit, Bool.and_eq_true, decide_eq_true_eq] at hdigit
    have hzero : sign < '0' := by rcases hsign with rfl | rfl <;> decide
    exact Nat.lt_of_lt_of_le hzero hdigit.1
  show (String.ofList _).toList < text.toList
  rw [String.toList_ofList, chars_eq_layout, layout, hcs,
    show (fieldsOf .millis t).year = (Calendar.dateOfDay t.day).year from rfl, hsigned]
  exact List.Lex.rel hlt

theorem writeMillis_lt_of_not {t u : Instant} (ht : ¬ t.InFourDigitYear)
    (hu : u.InFourDigitYear) : writeMillis t < writeMillis u := by
  obtain ⟨c, cs, hdigits⟩ : ∃ c cs, fixedDigits 4 (Calendar.dateOfDay u.day).year.toNat = c :: cs :=
    List.exists_cons_of_length_pos (by rw [length_fixedDigits]; decide)
  have hdigit : isDigit c = true :=
    isDigit_of_mem_fixedDigits (show c ∈ fixedDigits 4 _ from hdigits ▸ List.mem_cons_self)
  refine writeMillis_lt_of_digit ht ?_ hdigit
  rw [writeMillis, String.toList_ofList, chars_eq_layout, layout,
    show (fieldsOf .millis u).year = (Calendar.dateOfDay u.day).year from rfl,
    yearChars_of_four_digits hu.1 hu.2, hdigits]
  rfl

/-- A text that the strict profile reads starts with a digit. -/
theorem exists_digit_of_read {text : String} {t : Instant} (h : read text = .ok t) :
    ∃ c, text.toList.head? = some c ∧ isDigit c = true := by
  refine Classical.byContradiction fun hno => ?_
  have hnone : (text.toList.take 4).takeWhile isDigit = [] := by
    cases htext : text.toList with
    | nil => rfl
    | cons c cs =>
      refine List.takeWhile_cons_of_neg fun hdigit => hno ⟨c, ?_, hdigit⟩
      rw [htext, List.head?_cons]
  have hfields : fields text.toList = .error .invalid := by
    rw [fields, digits, hnone]
    rfl
  rw [read, hfields] at h
  split at h <;> cases h

/-- A timestamp in a year of four digits is not before that of any earlier instant, of whichever
year. -/
theorem writeMillis_le_of_le {s t : Instant} (h : s ≤ t) (ht : t.InFourDigitYear) :
    writeMillis s ≤ writeMillis t := by
  by_cases hs : s.InFourDigitYear
  · exact (writeMillis_le_writeMillis_iff hs ht).mpr (Instant.truncateToMillis_mono h)
  · exact String.not_lt.mp (String.lt_asymm (writeMillis_lt_of_not hs ht))

/-- A timestamp in a year of four digits is compared with any that is not after such years as the
instants are, as far as the milliseconds go. -/
theorem writeMillis_le_iff_of_le {s t now : Instant} (hs : s ≤ now) (hnow : now.InFourDigitYear)
    (ht : t.InFourDigitYear) :
    writeMillis s ≤ writeMillis t ↔ s.truncateToMillis ≤ t.truncateToMillis := by
  by_cases hyear : 0 ≤ (Calendar.dateOfDay s.day).year
  · exact writeMillis_le_writeMillis_iff
      ⟨hyear, Int.le_trans (Instant.year_le_year hs) hnow.2⟩ ht
  · -- a year before the year 0 comes first in both orders
    have hbefore := writeMillis_lt_of_not (fun hs => hyear hs.1) ht
    refine iff_of_true (String.not_lt.mp (String.lt_asymm hbefore)) ?_
    have hday : s.day < t.day := Int.not_le.mp fun hle =>
      hyear (Int.le_trans ht.1 (Calendar.year_dateOfDay_mono hle))
    rw [Instant.day, Instant.day] at hday
    exact .inl (show s.second < t.second by omega)

/-- **Timestamps order and read back like time**, cut off after the milliseconds: the bytes of two of
them compare as the instants do, and each is read as its instant. -/
theorem writeMillis_orderly {t u : Instant} (ht : t.InFourDigitYear) (hu : u.InFourDigitYear) :
    (bytes (writeMillis t) < bytes (writeMillis u)
        ↔ ¬ u.truncateToMillis ≤ t.truncateToMillis)
      ∧ (bytes (writeMillis t) = bytes (writeMillis u)
        ↔ t.truncateToMillis = u.truncateToMillis)
      ∧ (bytes (writeMillis u) < bytes (writeMillis t)
        ↔ ¬ t.truncateToMillis ≤ u.truncateToMillis)
      ∧ read (writeMillis t) = .ok t.truncateToMillis := by
  rw [bytes_lt_bytes_iff, bytes_lt_bytes_iff, bytes_inj, ← String.not_le, ← String.not_le]
  exact ⟨not_congr (writeMillis_le_writeMillis_iff hu ht), writeMillis_inj ht hu,
    not_congr (writeMillis_le_writeMillis_iff ht hu), read_writeMillis ht⟩

/-- The last nanosecond of the leap second at the end of the year 2016. -/
def endOfLeapSecond : Instant :=
  ⟨1483228799, 1999999999, by decide, by decide, by decide, by decide⟩

/-- The first nanosecond after it. -/
def afterLeapSecond : Instant :=
  { Instant.epoch with
    second := 1483228800
    leap_at_minute_end := by decide
    earliest_le := by decide
    le_latest := by decide }

theorem writeMillis_orderly_leap :
    endOfLeapSecond.InFourDigitYear ∧ afterLeapSecond.InFourDigitYear
      ∧ bytes (writeMillis endOfLeapSecond) < bytes (writeMillis afterLeapSecond)
      ∧ read (writeMillis endOfLeapSecond) = .ok endOfLeapSecond.truncateToMillis := by
  have hend : endOfLeapSecond.InFourDigitYear := by decide +kernel
  have hafter : afterLeapSecond.InFourDigitYear := by decide +kernel
  obtain ⟨hearlier, -, -, hread⟩ := writeMillis_orderly hend hafter
  exact ⟨hend, hafter, hearlier.mpr (by decide), hread⟩

end Timestamp
end MailTriage
