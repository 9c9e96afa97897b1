import MailTriage.Proofs.Json.Numeral
import MailTriage.Proofs.Number.Shortest

/-! # The texts of numbers of double precision

A number of double precision is written as a whole part, a fraction, an exponent, or some of them
(`RealText`).  Its text denotes the decimal that these parts make up, and this decimal has the value
of the shortest one, wherever the point is put (`exists_realText_realChars`).  It is read as the
decimal that its parts are taken for (`RealText.valueOf_signed`).
-/
namespace MailTriage.Json

open Text

/-! ### Values of digits -/

theorem exponentDigits_eq {seen : Nat} {cs : List Char}
    (h : valueOfDigits seen cs ≤ maxWrittenExponent) :
    exponentDigits seen cs = .ok (valueOfDigits seen cs) := by
  induction cs generalizing seen with
  | nil => rfl
  | cons c cs ih =>
    rw [valueOfDigits_cons] at h ⊢
    have hle : 10 * seen + digitValue c ≤ maxWrittenExponent :=
      Nat.le_trans (seen_le_valueOfDigits _ cs) h
    rw [exponentDigits, if_neg (Nat.not_lt.mpr hle), ih h]

theorem valueOfDigits_zeros (cs : List Char) (n : Nat) :
    valueOfDigits 0 (List.replicate n '0' ++ cs) = valueOfDigits 0 cs := by
  induction n with
  | zero => rfl
  | succ n ih => exact ih

theorem valueOfDigits_append_zeros (seen : Nat) (n : Nat) :
    valueOfDigits seen (List.replicate n '0') = seen * 10 ^ n := by
  induction n generalizing seen with
  | zero => simp
  | succ n ih =>
    rw [List.replicate_succ, valueOfDigits_cons, ih, Nat.pow_succ']
    show (10 * seen + 0) * 10 ^ n = seen * (10 * 10 ^ n)
    ring

/-- A number has at least as many decimal digits as the power of ten below it. -/
theorem pow_le_of_length_decimalChars {n : Nat} (hn : 0 < n) :
    10 ^ ((Text.decimalChars n).length - 1) ≤ n := by
  obtain ⟨c, cs, heq, hc⟩ := exists_cons_decimalChars hn
  have hdigit : isDigit c = true :=
    isDigit_of_mem_decimalChars (n := n) (by rw [heq]; exact List.mem_cons_self)
  have hpos : 0 < digitValue c := by
    simp only [isDigit, Bool.and_eq_true, decide_eq_true_eq] at hdigit
    have hle : 48 ≤ c.toNat := hdigit.1
    have hne : c.toNat ≠ 48 := fun h => hc (Char.toNat_inj.mp h)
    unfold digitValue
    omega
  have hvalue := le_valueOfDigits (digitValue c) cs
  have hall : valueOfDigits 0 (Text.decimalChars n) = valueOfDigits (digitValue c) cs := by
    rw [heq, valueOfDigits_cons, Nat.mul_zero, Nat.zero_add]
  rw [valueOfDigits_decimalChars] at hall
  rw [heq, List.length_cons, Nat.add_sub_cancel, hall]
  exact Nat.le_trans (Nat.le_mul_of_pos_left _ hpos) hvalue

theorem lt_pow_length_decimalChars (n : Nat) : n < 10 ^ (Text.decimalChars n).length := by
  have hlt := valueOfDigits_lt (fun c hc => isDigit_of_mem_decimalChars (n := n) hc) 0
  rwa [valueOfDigits_decimalChars, Nat.zero_add, Nat.one_mul] at hlt

/-! ### The parts of a text -/

/-- The text of a number of double precision without its sign, in its parts: digits, digits behind a
point if there are any, and a power of ten. -/
structure RealText where
  whole : List Char
  fraction : List Char
  power : Option Int
  whole_digits : ∀ c ∈ whole, isDigit c = true
  leading : whole = ['0'] ∨ ∃ c cs, whole = c :: cs ∧ c ≠ '0'
  fraction_digits : ∀ c ∈ fraction, isDigit c = true
  power_le : ∀ n ∈ power, n.natAbs ≤ maxWrittenExponent
  not_integer : fraction ≠ [] ∨ power ≠ none

namespace RealText

/-- The characters of the power of ten. -/
def powerChars (t : RealText) : List Char :=
  match t.power with
  | none => []
  | some n => 'e' :: (decimalInt n).toList

/-- The characters behind the whole part. -/
def tail (t : RealText) : List Char :=
  if t.fraction = [] then t.powerChars else '.' :: (t.fraction ++ t.powerChars)

/-- The characters of a text. -/
def chars (t : RealText) : List Char := t.whole ++ t.tail

/-- The characters with the sign in front. -/
def signed (t : RealText) (negative : Bool) : List Char :=
  (if negative then ['-'] else []) ++ t.chars

/-- The decimal that a text denotes. -/
def decimal (t : RealText) : Decimal :=
  ⟨valueOfDigits 0 (t.whole ++ t.fraction), t.power.getD 0 - t.fraction.length⟩

/-- The decimal that a text is taken for. -/
def taken (t : RealText) (rounding : Rounding) : Decimal :=
  ⟨(mantissa rounding t.whole t.fraction).digits,
    (mantissa rounding t.whole t.fraction).exponent + t.power.getD 0⟩

variable (t : RealText)

theorem whole_ne_nil : t.whole ≠ [] := by
  rcases t.leading with h | ⟨c, cs, h, -⟩ <;> rw [h] <;> exact List.cons_ne_nil _ _

theorem endsNumber_powerChars : EndsNumber t.powerChars := by
  unfold powerChars
  split
  · exact endsNumber_nil
  · exact endsNumber_exponent _

theorem head?_powerChars : t.powerChars.head? ≠ some '.' := by
  unfold powerChars
  split <;> exact nofun

theorem endsNumber_tail : EndsNumber t.tail := by
  unfold tail
  split
  · exact t.endsNumber_powerChars
  · next hne => exact t.endsNumber_powerChars.point t.head?_powerChars hne t.fraction_digits

theorem head?_signed (negative : Bool) (rest : List Char) :
    (t.signed negative ++ rest).head? = some '-' ↔ negative = true := by
  obtain ⟨c, cs, heq⟩ := List.exists_cons_of_ne_nil t.whole_ne_nil
  have hc : isDigit c = true := t.whole_digits c (by rw [heq]; exact List.mem_cons_self)
  unfold signed chars
  cases negative with
  | true => exact ⟨fun _ => rfl, fun _ => rfl⟩
  | false =>
    rw [heq]
    refine ⟨fun h => ?_, nofun⟩
    rw [show c = '-' from Option.some.inj h] at hc
    cases hc

theorem drop_signed (negative : Bool) (rest : List Char) :
    (if negative = true then (t.signed negative ++ rest).drop 1 else t.signed negative ++ rest)
      = t.chars ++ rest := by
  cases negative <;> rfl

/-! ### Its value -/

theorem takeWhile_chars : t.chars.takeWhile isDigit = t.whole :=
  takeWhile_isDigit_append t.whole_digits t.endsNumber_tail.head

theorem dropWhile_chars : t.chars.dropWhile isDigit = t.tail :=
  dropWhile_isDigit_append t.whole_digits t.endsNumber_tail.head

/-- The digits behind the point, if it comes first. -/
def fractionOf : List Char → List Char
  | '.' :: cs => cs.takeWhile isDigit
  | _ => []

theorem fractionOf_tail : fractionOf t.tail = t.fraction := by
  unfold tail
  by_cases h : t.fraction = []
  · rw [if_pos h, h]
    have hhead := t.head?_powerChars
    unfold fractionOf
    split
    · next heq =>
      rw [heq] at hhead
      exact absurd rfl hhead
    · rfl
  · rw [if_neg h]
    exact takeWhile_isDigit_append t.fraction_digits t.endsNumber_powerChars.head

theorem power_tail : (t.tail.dropWhile fun c => c ≠ 'e' && c ≠ 'E') = t.powerChars := by
  have hpower : (t.powerChars.dropWhile fun c => c ≠ 'e' && c ≠ 'E') = t.powerChars := by
    unfold powerChars
    split <;> rfl
  unfold tail
  split
  · exact hpower
  · have hall : ∀ c ∈ '.' :: t.fraction, (c ≠ 'e' && c ≠ 'E') = true := by
      refine List.forall_mem_cons.mpr ⟨by decide, fun c hc => ?_⟩
      have hdigit := t.fraction_digits c hc
      rw [Bool.and_eq_true, decide_eq_true_eq, decide_eq_true_eq]
      constructor <;> rintro rfl <;> cases hdigit
    rw [← List.cons_append, List.dropWhile_append_of_pos hall, hpower]

theorem shrinks_power : ((t.powerChars.drop 1).head? = some '-') ↔ t.power.getD 0 < 0 := by
  unfold powerChars
  split
  · next hnone =>
    rw [hnone]
    exact ⟨nofun, fun h => absurd h (Int.lt_irrefl 0)⟩
  · next n hsome =>
    rw [List.drop_succ_cons, List.drop_zero, toList_decimalInt, hsome, Option.getD_some]
    split
    · next hneg => simpa using hneg
    · next hnonneg =>
      constructor
      · exact fun h => absurd h (head?_decimalChars_ne _)
      · exact fun h => absurd h hnonneg

theorem exponentDigits_power :
    exponentDigits 0 ((t.powerChars.drop 1).dropWhile fun c => !isDigit c)
      = .ok (t.power.getD 0).natAbs := by
  unfold powerChars
  split
  · next h => rw [h]; rfl
  · next n h =>
    have hdigits : ((decimalInt n).toList.dropWhile fun c => !isDigit c)
        = Text.decimalChars n.natAbs := by
      obtain ⟨c, ds, heq, hc, -⟩ := exists_digits n.natAbs
      have hfirst : (Text.decimalChars n.natAbs).dropWhile (fun c => !isDigit c)
          = Text.decimalChars n.natAbs := by
        rw [heq, List.dropWhile_cons_of_neg]
        rw [hc]
        exact Bool.false_ne_true
      rw [toList_decimalInt]
      split
      · rwa [List.dropWhile_cons_of_pos rfl]
      · exact hfirst
    rw [List.drop_succ_cons, List.drop_zero, hdigits, h, Option.getD_some, exponentDigits_eq]
    · rw [valueOfDigits_decimalChars]
    · rw [valueOfDigits_decimalChars]
      exact t.power_le n h

/-- **A text is read as the decimal that its parts are taken for.** -/
theorem valueOf_signed (rounding : Rounding) (negative : Bool) :
    valueOf rounding (t.signed negative)
      = match rounding.toDouble? negative (t.taken rounding) with
        | some x => .ok x
        | none => .error [] := by
  have hhead := t.head?_signed negative []
  have hdrop := t.drop_signed negative []
  have hpower : (if t.power.getD 0 < 0 then -((t.power.getD 0).natAbs : Int)
      else ((t.power.getD 0).natAbs : Int)) = t.power.getD 0 := by
    split <;> omega
  simp only [List.append_nil] at hhead hdrop
  unfold valueOf
  simp only [hhead, Bool.decide_eq_true, hdrop, t.takeWhile_chars, t.dropWhile_chars, t.power_tail,
    t.shrinks_power, t.exponentDigits_power, hpower]
  show (match rounding.toDouble? negative ⟨(mantissa rounding t.whole (fractionOf t.tail)).digits,
    (mantissa rounding t.whole (fractionOf t.tail)).exponent + t.power.getD 0⟩ with
    | some x => _
    | none => _) = _
  rw [fractionOf_tail]
  rfl

/-! ### Reading it -/

theorem wholeEnd_chars {rest : List Char} (hrest : NumberEnds rest) :
    wholeEnd (t.chars ++ rest) = .ok (t.tail ++ rest) := by
  have hhead : ∀ c ∈ (t.tail ++ rest).head?, isDigit c = false := by
    cases htail : t.tail with
    | nil => exact hrest.head
    | cons c cs =>
      have h := t.endsNumber_tail.head
      rw [htail] at h
      exact h
  rw [chars, List.append_assoc]
  rcases t.leading with h | ⟨c, cs, h, hc⟩
  · rw [h]
    generalize t.tail ++ rest = after at hhead
    cases after with
    | nil => rfl
    | cons d after =>
      show (if isDigit d = true then _ else _) = _
      rw [hhead d rfl, if_neg Bool.false_ne_true]
      rfl
  · have hall := t.whole_digits
    rw [h] at hall
    rw [h, List.cons_append]
    show (if c = '0' then _ else _) = _
    rw [if_neg hc, if_pos (hall c List.mem_cons_self), dropDigits,
      dropWhile_isDigit_append (fun d hd => hall d (List.mem_cons_of_mem c hd)) hhead]

theorem all_isDigit_chars : t.chars.all isDigit = false := by
  rw [List.all_eq_false]
  unfold chars tail
  split
  · next h =>
    have hpower := t.not_integer.resolve_left (fun hne => hne h)
    refine ⟨'e', List.mem_append_right _ ?_, Bool.false_ne_true⟩
    unfold powerChars
    split
    · next hnone => exact absurd hnone hpower
    · exact List.mem_cons_self
  · exact ⟨'.', List.mem_append_right _ List.mem_cons_self, Bool.false_ne_true⟩

theorem integerOf?_signed (negative : Bool) : integerOf? (t.signed negative) = none := by
  have hhead := t.head?_signed negative []
  have hdrop := t.drop_signed negative []
  simp only [List.append_nil] at hhead hdrop
  simp only [integerOf?, hhead, Bool.decide_eq_true, hdrop, t.all_isDigit_chars]
  rfl

/-- **A text is read as a number of double precision**, whatever follows it. -/
theorem number_signed {rounding : Rounding} (strict : Bool) {negative : Bool} {x : Double}
    {rest : List Char} (hx : valueOf rounding (t.signed negative) = .ok x)
    (hrest : NumberEnds rest) :
    number rounding strict (t.signed negative ++ rest) = .ok (.real x, rest) := by
  have htext : (t.signed negative ++ rest).take ((t.signed negative ++ rest).length - rest.length)
      = t.signed negative := by
    rw [List.length_append, Nat.add_sub_cancel, List.take_left]
  simp only [number, bind, Except.bind, t.head?_signed, t.drop_signed, t.wholeEnd_chars hrest,
    t.endsNumber_tail.read rest hrest, htext, hx, t.integerOf?_signed]
  rfl

end RealText

/-! ### The text of a decimal -/

/-- The value of a decimal lies between the powers of ten before its first digit. -/
theorem value_between {d : Decimal} (hd : 0 < d.digits) :
    (10 : ℚ) ^ ((Text.decimalChars d.digits).length + d.exponent - 1) ≤ d.value
      ∧ d.value < 10 ^ ((Text.decimalChars d.digits).length + d.exponent) := by
  have hten : (0 : ℚ) < 10 ^ d.exponent := by positivity
  have hlength : 0 < (Text.decimalChars d.digits).length :=
    List.length_pos_iff.mpr (decimalChars_ne_nil _)
  constructor
  · have hle : ((10 ^ ((Text.decimalChars d.digits).length - 1) : ℕ) : ℚ) ≤ d.digits :=
      Nat.cast_le.mpr (pow_le_of_length_decimalChars hd)
    calc (10 : ℚ) ^ ((Text.decimalChars d.digits).length + d.exponent - 1)
        = (10 ^ ((Text.decimalChars d.digits).length - 1) : ℕ) * 10 ^ d.exponent := by
          push_cast
          rw [← zpow_natCast, ← zpow_add₀ (by norm_num)]
          congr 1
          omega
      _ ≤ d.value := mul_le_mul_of_nonneg_right hle hten.le
  · have hlt : (d.digits : ℚ) < ((10 ^ (Text.decimalChars d.digits).length : ℕ) : ℚ) :=
      Nat.cast_lt.mpr (lt_pow_length_decimalChars d.digits)
    calc d.value < (10 ^ (Text.decimalChars d.digits).length : ℕ) * 10 ^ d.exponent :=
          mul_lt_mul_of_pos_right hlt hten
      _ = 10 ^ ((Text.decimalChars d.digits).length + d.exponent) := by
          push_cast
          rw [← zpow_natCast, ← zpow_add₀ (by norm_num)]

/-- Digits with a point among them denote what they are without it, so many tens smaller. -/
theorem exists_realText_point {d : Decimal} {whole fraction : List Char}
    (hwhole : ∀ c ∈ whole, isDigit c = true)
    (hleading : whole = ['0'] ∨ ∃ c cs, whole = c :: cs ∧ c ≠ '0')
    (hfraction : ∀ c ∈ fraction, isDigit c = true) (hne : fraction ≠ [])
    (hvalue : (valueOfDigits 0 (whole ++ fraction) : ℚ) * 10 ^ (-(fraction.length : ℤ)) = d.value) :
    ∃ t : RealText, whole ++ '.' :: fraction = t.chars ∧ t.decimal.value = d.value := by
  refine ⟨⟨whole, fraction, none, hwhole, hleading, hfraction, nofun, .inl hne⟩, ?_, ?_⟩
  · unfold RealText.chars RealText.tail RealText.powerChars
    rw [if_neg hne, List.append_nil]
  · rw [← hvalue]
    unfold RealText.decimal Decimal.value
    rw [Option.getD_none, Int.zero_sub]

/-- The point stands behind the digits of a whole number, and a zero comes after it. -/
theorem exists_realText_whole {d : Decimal} (hd : 0 < d.digits) (hsign : 0 ≤ d.exponent) :
    ∃ t : RealText, Text.decimalChars d.digits ++ List.replicate d.exponent.toNat '0' ++ ['.', '0']
        = t.chars
      ∧ t.decimal.value = d.value := by
  obtain ⟨first, others, hcons, hfirst⟩ := exists_cons_decimalChars hd
  obtain ⟨e, he⟩ : ∃ e : Nat, d.exponent = e := ⟨_, (Int.toNat_of_nonneg hsign).symm⟩
  refine exists_realText_point
    (fun c hc => (List.mem_append.mp hc).elim isDigit_of_mem_decimalChars isDigit_of_mem_zeros)
    (.inr ⟨first, _, by rw [hcons]; rfl, hfirst⟩) (List.forall_mem_singleton.mpr rfl)
    (List.cons_ne_nil _ _) ?_
  have hzeros : List.replicate d.exponent.toNat '0' ++ ['0']
      = List.replicate (d.exponent.toNat + 1) '0' := List.replicate_succ'.symm
  rw [List.append_assoc, hzeros, valueOfDigits_append, valueOfDigits_decimalChars,
    valueOfDigits_append_zeros, Decimal.value, he, Int.toNat_natCast, List.length_singleton]
  push_cast
  rw [mul_assoc, ← zpow_natCast, ← zpow_add₀ (by norm_num)]
  congr 2
  push_cast
  omega

/-- The point stands among the digits, behind as many of them as come before it. -/
theorem exists_realText_among {d : Decimal} (hd : 0 < d.digits) (hsign : d.exponent < 0) {n : Nat}
    (hn : ((Text.decimalChars d.digits).length : Int) + d.exponent = n + 1) :
    ∃ t : RealText, (Text.decimalChars d.digits).take (n + 1)
          ++ '.' :: (Text.decimalChars d.digits).drop (n + 1) = t.chars
      ∧ t.decimal.value = d.value := by
  obtain ⟨first, others, hcons, hfirst⟩ := exists_cons_decimalChars hd
  refine exists_realText_point
    (fun c hc => isDigit_of_mem_decimalChars (List.mem_of_mem_take hc))
    (.inr ⟨first, others.take n, by rw [hcons]; rfl, hfirst⟩)
    (fun c hc => isDigit_of_mem_decimalChars (List.mem_of_mem_drop hc))
    (List.ne_nil_of_length_pos (by rw [List.length_drop]; omega)) ?_
  rw [List.take_append_drop, valueOfDigits_decimalChars, List.length_drop, Decimal.value]
  congr 2
  omega

/-- The point stands before the digits, with a zero in front and zeros in between. -/
theorem exists_realText_before {d : Decimal}
    (hpoint : ((Text.decimalChars d.digits).length : Int) + d.exponent ≤ 0) :
    ∃ t : RealText, '0' :: '.' :: List.replicate
          ((Text.decimalChars d.digits).length + d.exponent).natAbs '0'
          ++ Text.decimalChars d.digits = t.chars
      ∧ t.decimal.value = d.value := by
  rw [List.cons_append, List.cons_append]
  refine exists_realText_point (List.forall_mem_singleton.mpr rfl) (.inl rfl)
    (fun c hc => (List.mem_append.mp hc).elim isDigit_of_mem_zeros isDigit_of_mem_decimalChars)
    (List.append_ne_nil_of_right_ne_nil _ (decimalChars_ne_nil _)) ?_
  rw [show (['0'] : List Char) = List.replicate 1 '0' from rfl, valueOfDigits_zeros,
    valueOfDigits_zeros, valueOfDigits_decimalChars, List.length_append, List.length_replicate,
    Decimal.value]
  congr 2
  omega

/-- Without an exponent the point stands behind the digits, or among them, or before them. -/
theorem exists_realText_positional {d : Decimal} (hd : 0 < d.digits) :
    ∃ t : RealText, (d.positional ++ if 0 ≤ d.exponent then ['.', '0'] else []) = t.chars
      ∧ t.decimal.value = d.value := by
  unfold Decimal.positional
  by_cases hsign : 0 ≤ d.exponent
  · rw [if_pos hsign, if_pos hsign]
    exact exists_realText_whole hd hsign
  · rw [if_neg hsign, if_neg hsign, List.append_nil]
    by_cases hpoint : 0 < ((Text.decimalChars d.digits).length : Int) + d.exponent
    · obtain ⟨n, hn⟩ : ∃ n : Nat,
          ((Text.decimalChars d.digits).length : Int) + d.exponent = n + 1 :=
        ⟨((Text.decimalChars d.digits).length + d.exponent - 1).toNat, by omega⟩
      rw [if_pos hpoint, hn]
      exact exists_realText_among hd (not_le.mp hsign) hn
    · rw [if_neg hpoint]
      exact exists_realText_before (not_lt.mp hpoint)

/-- With an exponent the point stands behind the first digit, if there are others. -/
theorem exists_realText_scientific {d : Decimal} (hd : 0 < d.digits)
    (hpower : ((Text.decimalChars d.digits).length + d.exponent - 1).natAbs ≤ maxWrittenExponent) :
    ∃ t : RealText, (match Text.decimalChars d.digits with
        | first :: second :: rest => first :: '.' :: second :: rest
        | digits => digits)
          ++ 'e' :: (decimalInt ((Text.decimalChars d.digits).length + d.exponent - 1)).toList
        = t.chars
      ∧ t.decimal.value = d.value := by
  have hdigits : ∀ c ∈ Text.decimalChars d.digits, isDigit c = true :=
    fun _ => isDigit_of_mem_decimalChars
  have hvalue : valueOfDigits 0 (Text.decimalChars d.digits) = d.digits :=
    valueOfDigits_decimalChars _
  obtain ⟨first, others, hcons, hfirst⟩ := exists_cons_decimalChars hd
  rw [hcons] at hdigits hvalue hpower ⊢
  refine ⟨⟨[first], others, some ((first :: others).length + d.exponent - 1),
    List.forall_mem_singleton.mpr (hdigits first List.mem_cons_self), .inr ⟨first, [], rfl, hfirst⟩,
    fun c hc => hdigits c (List.mem_cons_of_mem first hc), ?_,
    .inr (Option.some_ne_none _)⟩, ?_, ?_⟩
  · intro n hn
    cases hn
    exact hpower
  · cases others with
    | nil => rfl
    | cons second rest =>
      unfold RealText.chars RealText.tail
      rw [if_neg (List.cons_ne_nil _ _)]
      rfl
  · unfold RealText.decimal Decimal.value
    dsimp only
    rw [List.singleton_append, hvalue, Option.getD_some, List.length_cons]
    congr 2
    push_cast
    omega

/-- **A decimal's text denotes the decimal's value**, wherever the point is put. -/
theorem exists_realText {d : Decimal} (hd : 0 < d.digits)
    (hpower : ((Text.decimalChars d.digits).length + d.exponent - 1).natAbs ≤ maxWrittenExponent) :
    ∃ t : RealText, decimalChars d = t.chars ∧ t.decimal.value = d.value := by
  unfold decimalChars
  dsimp only
  split
  · exact exists_realText_positional hd
  · exact exists_realText_scientific hd hpower

/-! ### Numbers -/

/-- No decimal near to a number is so large or so small that its exponent cannot be read. -/
theorem natAbs_le_maxWrittenExponent {x : Double} {d : Decimal} (hx : x.IsCanonical)
    (hpos : 0 < x.significand) (h : x.Attracts d.value) :
    ((Text.decimalChars d.digits).length + d.exponent - 1).natAbs ≤ maxWrittenExponent := by
  obtain ⟨hlow, hhigh⟩ := value_between (Decimal.digits_pos_of_attracts hx hpos h)
  have hle : ((Text.decimalChars d.digits).length : ℤ) + d.exponent - 1 ≤ 342 := by
    refine (zpow_le_zpow_iff_right₀ (by norm_num : (1 : ℚ) < 10)).mp ?_
    calc (10 : ℚ) ^ ((Text.decimalChars d.digits).length + d.exponent - 1) ≤ d.value := hlow
      _ ≤ 2 ^ (1024 : ℤ) := h.le_two_zpow hx
      _ ≤ 2 ^ (3 * 342 : ℤ) := zpow_le_zpow_right₀ one_le_two (by norm_num)
      _ ≤ 10 ^ (342 : ℤ) := Double.two_zpow_le_ten_zpow (by decide)
  have hge : -1075 < ((Text.decimalChars d.digits).length : ℤ) + d.exponent := by
    refine (zpow_lt_zpow_iff_right₀ (by norm_num : (1 : ℚ) < 10)).mp ?_
    calc (10 : ℚ) ^ (-1075 : ℤ) = (10 ^ (1075 : ℤ))⁻¹ := zpow_neg _ _
      _ ≤ (2 ^ (1075 : ℤ))⁻¹ := inv_anti₀ (Double.two_zpow_pos _)
          (zpow_le_zpow_left₀ (by decide) (by norm_num) (by norm_num))
      _ = 2 ^ (-1075 : ℤ) := (zpow_neg _ _).symm
      _ ≤ d.value := h.two_zpow_le hx hpos
      _ < 10 ^ ((Text.decimalChars d.digits).length + d.exponent) := hhigh
  unfold maxWrittenExponent
  omega

/-- The text of a number of double precision denotes a decimal near to it, or zero. -/
theorem exists_realText_realChars {x : Double} (hx : x.IsCanonical) :
    ∃ t : RealText, realChars x = t.signed x.negative
      ∧ (0 < x.significand → x.Attracts t.decimal.value)
      ∧ (x.significand = 0 → ∀ rounding, (t.taken rounding).digits = 0) := by
  have hsigned : ∀ t : RealText, (if x.negative then '-' :: t.chars else t.chars)
      = t.signed x.negative := by
    intro t
    unfold RealText.signed
    cases x.negative <;> rfl
  unfold realChars
  dsimp only
  by_cases hpos : 0 < x.significand
  · have hattracts : x.Attracts (x.shortest .even).value := Double.shortest_attracts hpos
    have hnonzero : ¬ x.isZero = true := fun h => Nat.ne_of_gt hpos (of_decide_eq_true h)
    obtain ⟨t, htext, hvalue⟩ := exists_realText (Decimal.digits_pos_of_attracts hx hpos hattracts)
      (natAbs_le_maxWrittenExponent hx hpos hattracts)
    refine ⟨t, ?_, fun _ => by rwa [hvalue], fun hzero => absurd hzero (Nat.ne_of_gt hpos)⟩
    rw [if_neg hnonzero, htext, hsigned]
  · have hzero : x.isZero = true := decide_eq_true (Nat.eq_zero_of_not_pos hpos)
    refine ⟨⟨['0'], ['0'], none, List.forall_mem_singleton.mpr rfl, .inl rfl,
      List.forall_mem_singleton.mpr rfl, nofun, .inl (List.cons_ne_nil _ _)⟩, ?_,
      fun h => absurd h hpos, ?_⟩
    · rw [if_pos hzero, ← hsigned]
      rfl
    · intro _ rounding
      cases rounding <;> rfl

end MailTriage.Json
