import Mathlib.Data.Fintype.Basic
import MailTriage.Proofs.Json.Real

/-! # Numbers of double precision read again

Rounded to the nearest number, what was written of a number is read as that number
(`valueOf_realChars_nearest`).  The quicker way gives some number, not always the same one, but it
never fails (`exists_valueOf_realChars`): the digits that it takes denote no more than all of them
(`value_mantissa_le`), so the decimal is not too large, and of the three largest numbers, for which
that is too little, each text is read.

So every value has a value that it is read as, the same but for some of its numbers (`reread`).  It
is the value itself exactly if each of its numbers is read as it was (`reread_eq_self_iff`).
-/
namespace MailTriage.Json

open Text

/-! ### The digits that are taken -/

/-- The digits up to the first one that is too much. -/
theorem firstDigits_spec {seen : Nat} (hseen : seen ≤ maxCount) (cs : List Char) :
    ∃ first left, cs = first ++ left ∧ firstDigits seen cs = (valueOfDigits seen first, left)
      ∧ valueOfDigits seen first ≤ maxCount
      ∧ ∀ c ∈ left.head?, maxCount < 10 * valueOfDigits seen first + digitValue c := by
  induction cs generalizing seen with
  | nil => exact ⟨[], [], rfl, rfl, hseen, nofun⟩
  | cons c cs ih =>
    rw [firstDigits]
    by_cases h : 10 * seen + digitValue c ≤ maxCount
    · obtain ⟨first, left, rfl, heq, hle, hstop⟩ := ih h
      exact ⟨c :: first, left, rfl, by rw [if_pos h, heq]; rfl, hle, hstop⟩
    · refine ⟨[], c :: cs, rfl, if_neg h, hseen, fun d hd => ?_⟩
      rw [← Option.some.inj hd]
      exact Nat.lt_of_not_le h

/-- The quicker way takes digits from before the point and from behind it, and counts those that it
leaves. -/
theorem exists_mantissa_quick (whole fraction : List Char) :
    ∃ before more behind left, whole = before ++ more ∧ fraction = behind ++ left
      ∧ mantissa .quick whole fraction = ⟨valueOfDigits (valueOfDigits 0 before) behind,
        more.length + left.length - fraction.length⟩
      ∧ valueOfDigits (valueOfDigits 0 before) behind ≤ maxCount
      ∧ ∀ c ∈ more.head?, maxCount < 10 * valueOfDigits 0 before + digitValue c := by
  obtain ⟨before, more, hwhole, htaken, hseen, hmore⟩ := firstDigits_spec (Nat.zero_le _) whole
  obtain ⟨behind, left, hfraction, hbehind, hle, -⟩ := firstDigits_spec hseen fraction
  refine ⟨before, more, behind, left, hwhole, hfraction, ?_, hle, hmore⟩
  rw [mantissa, htaken]
  simp only [hbehind]

theorem digits_mantissa_quick_lt (whole fraction : List Char) :
    (mantissa .quick whole fraction).digits < 2 ^ 64 := by
  obtain ⟨before, more, behind, left, -, -, hmantissa, hle, -⟩ :=
    exists_mantissa_quick whole fraction
  rw [hmantissa]
  exact Nat.lt_succ_of_le hle

/-- Digits that are taken from behind the point, though some before it are left, count less than
these. -/
theorem valueOfDigits_mul_le {seen : Nat} {c : Char} {first : List Char}
    (hfirst : ∀ d ∈ first, isDigit d = true) (hle : valueOfDigits seen first ≤ maxCount)
    (hstop : maxCount < 10 * seen + digitValue c) :
    valueOfDigits seen first * 10 ≤ (10 * seen + digitValue c) * 10 ^ first.length := by
  cases first with
  | nil =>
    rw [valueOfDigits_nil, List.length_nil, Nat.pow_zero]
    omega
  | cons d ds =>
    have hlt := valueOfDigits_lt (fun e he => hfirst e (List.mem_cons_of_mem d he))
      (10 * seen + digitValue d)
    rw [valueOfDigits_cons] at hle ⊢
    have hless : 10 * seen + digitValue d + 1 ≤ 10 * seen + digitValue c :=
      (seen_le_valueOfDigits _ ds).trans hle |>.trans_lt hstop
    calc valueOfDigits (10 * seen + digitValue d) ds * 10
        ≤ (10 * seen + digitValue d + 1) * 10 ^ ds.length * 10 := Nat.mul_le_mul_right 10 hlt.le
      _ ≤ (10 * seen + digitValue c) * 10 ^ ds.length * 10 :=
        Nat.mul_le_mul_right 10 (Nat.mul_le_mul_right _ hless)
      _ = (10 * seen + digitValue c) * 10 ^ (d :: ds).length := by
        rw [List.length_cons, Nat.pow_succ, Nat.mul_assoc]

/-- Digits that are taken, with zeros for those that are left, denote no more than all of them. -/
theorem valueOfDigits_taken_le {before more behind : List Char} (left : List Char)
    (hbehind : ∀ d ∈ behind, isDigit d = true)
    (hle : valueOfDigits (valueOfDigits 0 before) behind ≤ maxCount)
    (hmore : ∀ c ∈ more.head?, maxCount < 10 * valueOfDigits 0 before + digitValue c) :
    valueOfDigits (valueOfDigits 0 before) behind * 10 ^ (more.length + left.length)
      ≤ valueOfDigits 0 (before ++ more ++ (behind ++ left)) := by
  rw [List.append_assoc, valueOfDigits_append]
  cases more with
  | nil =>
    rw [List.nil_append, valueOfDigits_append, List.length_nil, Nat.zero_add]
    exact le_valueOfDigits _ left
  | cons c more =>
    -- one digit before the point is left already, which is more than any behind it
    have htaken := valueOfDigits_mul_le hbehind hle (hmore c rfl)
    rw [List.cons_append, valueOfDigits_cons, List.length_cons]
    refine le_trans ?_ (le_valueOfDigits _ _)
    rw [List.length_append, List.length_append]
    calc _ = valueOfDigits (valueOfDigits 0 before) behind * 10
          * 10 ^ (more.length + left.length) := by ring
      _ ≤ (10 * valueOfDigits 0 before + digitValue c) * 10 ^ behind.length
          * 10 ^ (more.length + left.length) := Nat.mul_le_mul_right _ htaken
      _ = _ := by ring

/-- **The digits that are taken denote no more than all of them.** -/
theorem value_mantissa_le (rounding : Rounding) {whole fraction : List Char}
    (hfraction : ∀ c ∈ fraction, isDigit c = true) :
    (mantissa rounding whole fraction).value
      ≤ valueOfDigits 0 (whole ++ fraction) * 10 ^ (-(fraction.length : ℤ)) := by
  cases rounding with
  | nearest => exact le_rfl
  | quick =>
    obtain ⟨before, more, behind, left, rfl, rfl, hmantissa, hle, hmore⟩ :=
      exists_mantissa_quick whole fraction
    have htaken := Nat.cast_le (α := ℚ).mpr (valueOfDigits_taken_le left
      (fun d hd => hfraction d (List.mem_append_left left hd)) hle hmore)
    rw [Nat.cast_mul, Nat.cast_pow, Nat.cast_ofNat, ← zpow_natCast] at htaken
    rw [hmantissa, Decimal.value]
    calc (valueOfDigits (valueOfDigits 0 before) behind : ℚ)
          * 10 ^ ((more.length : ℤ) + left.length - (behind ++ left).length)
        = valueOfDigits (valueOfDigits 0 before) behind
            * 10 ^ ((more.length + left.length : ℕ) : ℤ)
            * 10 ^ (-((behind ++ left).length : ℤ)) := by
          rw [mul_assoc, ← zpow_add₀ (by norm_num), Nat.cast_add, sub_eq_add_neg]
      _ ≤ _ := mul_le_mul_of_nonneg_right htaken (by positivity)

namespace RealText

variable (t : RealText)

theorem taken_nearest : t.taken .nearest = t.decimal := by
  rw [taken, decimal, mantissa]
  congr 1
  exact neg_add_eq_sub _ _

theorem value_taken_le (rounding : Rounding) : (t.taken rounding).value ≤ t.decimal.value := by
  have hten : (10 : ℚ) ≠ 0 := by norm_num
  have hle : (mantissa rounding t.whole t.fraction).value
      ≤ valueOfDigits 0 (t.whole ++ t.fraction) * 10 ^ (-(t.fraction.length : ℤ)) :=
    value_mantissa_le rounding t.fraction_digits
  have hpower : (0 : ℚ) ≤ 10 ^ t.power.getD 0 := by positivity
  calc (t.taken rounding).value
      = (mantissa rounding t.whole t.fraction).value * 10 ^ t.power.getD 0 := by
        rw [taken, Decimal.value, Decimal.value, zpow_add₀ hten, mul_assoc]
    _ ≤ valueOfDigits 0 (t.whole ++ t.fraction) * 10 ^ (-(t.fraction.length : ℤ))
          * 10 ^ t.power.getD 0 := mul_le_mul_of_nonneg_right hle hpower
    _ = t.decimal.value := by
        rw [decimal, Decimal.value, mul_assoc, ← zpow_add₀ hten, neg_add_eq_sub]

end RealText

/-! ### Reading a number again -/

/-- The text of a number is read as that number, rounded to the nearest one. -/
theorem valueOf_realChars_nearest {x : Double} (hx : x.IsCanonical) :
    valueOf .nearest (realChars x) = .ok x := by
  obtain ⟨t, htext, hnear, hzero⟩ := exists_realText_realChars hx
  have hdouble : Rounding.nearest.toDouble? x.negative (t.taken .nearest) = some x := by
    by_cases hpos : 0 < x.significand
    · rw [t.taken_nearest]
      exact Decimal.toDouble?_of_attracts hx hpos (hnear hpos)
    · have hsignificand := Nat.eq_zero_of_not_pos hpos
      refine (if_pos (hzero hsignificand .nearest)).trans ?_
      exact (congrArg some (Double.eq_zero_of_isZero hx (decide_eq_true hsignificand))).symm
  rw [htext, t.valueOf_signed, hdouble]

/-- The three largest numbers of either sign are read, if not as they were. -/
theorem toBool_valueOf_largest : ∀ (negative : Bool) (n : Fin 3),
    (valueOf .quick (realChars ⟨negative, 2 ^ 53 - 3 + n, Double.maxExponent, by omega⟩)).toBool
      = true := by
  decide +kernel

/-- **The quicker way does not fail** for what was written of a number. -/
theorem exists_valueOf_quick {x : Double} (hx : x.IsCanonical) :
    ∃ y, valueOf .quick (realChars x) = .ok y := by
  by_cases hlarge : x.exponent = Double.maxExponent ∧ 2 ^ 53 < x.significand + 4
  · obtain ⟨negative, significand, exponent, hlt⟩ := x
    obtain ⟨rfl, hlarge⟩ : exponent = Double.maxExponent ∧ 2 ^ 53 < significand + 4 := hlarge
    obtain ⟨n, hn, rfl⟩ : ∃ n, n < 3 ∧ significand = 2 ^ 53 - 3 + n :=
      ⟨significand - (2 ^ 53 - 3), by omega, by omega⟩
    have hread := toBool_valueOf_largest negative ⟨n, hn⟩
    cases hvalue : valueOf .quick (realChars ⟨negative, 2 ^ 53 - 3 + n, Double.maxExponent, hlt⟩) with
    | ok y => exact ⟨y, rfl⟩
    | error left =>
      simp only [hvalue] at hread
      cases hread
  · obtain ⟨t, htext, hnear, hzero⟩ := exists_realText_realChars hx
    obtain ⟨y, hy⟩ : ∃ y, Rounding.quick.toDouble? x.negative (t.taken .quick) = some y := by
      by_cases hpos : 0 < x.significand
      · refine Rounding.exists_toDouble? x.negative .quick (digits_mantissa_quick_lt _ _) ?_
        refine (t.value_taken_le .quick).trans ((hnear hpos).le_halvesBelow hx ?_)
        have := hx.le_maxExponent
        omega
      · exact ⟨_, if_pos (hzero (Nat.eq_zero_of_not_pos hpos) .quick)⟩
    exact ⟨y, by rw [htext, t.valueOf_signed, hy]⟩

/-- What was written of a number is read as some number. -/
theorem exists_valueOf_realChars (rounding : Rounding) {x : Double} (hx : x.IsCanonical) :
    ∃ y, valueOf rounding (realChars x) = .ok y := by
  cases rounding with
  | nearest => exact ⟨x, valueOf_realChars_nearest hx⟩
  | quick => exact exists_valueOf_quick hx

/-- The number that a number is read as once it is written. -/
def rereadReal (rounding : Rounding) (x : Double) : Double :=
  (valueOf rounding (realChars x)).toOption.getD x

theorem valueOf_realChars (rounding : Rounding) {x : Double} (hx : x.IsCanonical) :
    valueOf rounding (realChars x) = .ok (rereadReal rounding x) := by
  obtain ⟨y, hy⟩ := exists_valueOf_realChars rounding hx
  rw [rereadReal, hy]
  rfl

/-- **What was written of a number is read as a number**, whatever follows it. -/
theorem number_realChars (rounding : Rounding) (strict : Bool) {x : Double} (hx : x.IsCanonical)
    {rest : List Char} (hrest : NumberEnds rest) :
    number rounding strict (realChars x ++ rest) = .ok (.real (rereadReal rounding x), rest) := by
  obtain ⟨t, htext, -⟩ := exists_realText_realChars hx
  have hvalue := valueOf_realChars rounding hx
  rw [htext] at hvalue ⊢
  exact t.number_signed strict hvalue hrest

/-! ### Values -/

mutual

/-- Whether a value consists of nulls, truth values, integers of 64 bits and texts. -/
def isPlain : Json → Bool
  | .null | .bool _ | .text _ => true
  | .integer n => n.natAbs < 2 ^ 64
  | .real _ | .broken => false
  | .array items => arePlain items
  | .object members => havePlain members

/-- Whether all items of an array are plain. -/
def arePlain : List Json → Bool
  | [] => true
  | item :: rest => isPlain item && arePlain rest

/-- Whether all members of an object are plain. -/
def havePlain : List (String × Json) → Bool
  | [] => true
  | (_, v) :: rest => isPlain v && havePlain rest

end

mutual

/-- Whether a value can be read once it is written: its integers have 64 bits, its numbers of double
precision are canonical, and no part is broken. -/
def isSound : Json → Bool
  | .null | .bool _ | .text _ => true
  | .integer n => n.natAbs < 2 ^ 64
  | .real x => x.IsCanonical
  | .broken => false
  | .array items => areSound items
  | .object members => haveSound members

/-- Whether all items of an array are sound. -/
def areSound : List Json → Bool
  | [] => true
  | item :: rest => isSound item && areSound rest

/-- Whether all members of an object are sound. -/
def haveSound : List (String × Json) → Bool
  | [] => true
  | (_, v) :: rest => isSound v && haveSound rest

end

mutual

theorem isSound_of_isPlain : ∀ {json : Json}, json.isPlain = true → json.isSound = true
  | .null, _ | .bool _, _ | .text _, _ => rfl
  | .integer _, h => h
  | .array _, h => areSound_of_arePlain h
  | .object _, h => haveSound_of_havePlain h

theorem areSound_of_arePlain : ∀ {items : List Json}, arePlain items = true →
    areSound items = true
  | [], _ => rfl
  | _ :: _, h => by
    rw [arePlain, Bool.and_eq_true] at h
    rw [areSound, isSound_of_isPlain h.1, areSound_of_arePlain h.2]
    rfl

theorem haveSound_of_havePlain : ∀ {members : List (String × Json)}, havePlain members = true →
    haveSound members = true
  | [], _ => rfl
  | (_, _) :: _, h => by
    rw [havePlain, Bool.and_eq_true] at h
    rw [haveSound, isSound_of_isPlain h.1, haveSound_of_havePlain h.2]
    rfl

end

mutual

/-- The value that a value is read as once it is written: all of it but the numbers of double
precision stays. -/
def reread (rounding : Rounding) : Json → Json
  | .null => .null
  | .bool b => .bool b
  | .integer n => .integer n
  | .real x => .real (rereadReal rounding x)
  | .text s => .text s
  | .broken => .broken
  | .array items => .array (rereadItems rounding items)
  | .object members => .object (rereadMembers rounding members)

/-- The items of an array once they are read again. -/
def rereadItems (rounding : Rounding) : List Json → List Json
  | [] => []
  | item :: rest => reread rounding item :: rereadItems rounding rest

/-- The members of an object once they are read again. -/
def rereadMembers (rounding : Rounding) : List (String × Json) → List (String × Json)
  | [] => []
  | (name, v) :: rest => (name, reread rounding v) :: rereadMembers rounding rest

end

mutual

/-- Whether each number of double precision in a value is read as it was. -/
def keepsNumbers (rounding : Rounding) : Json → Bool
  | .null | .bool _ | .integer _ | .text _ | .broken => true
  | .real x => rereadReal rounding x = x
  | .array items => keepNumbers rounding items
  | .object members => haveKeptNumbers rounding members

/-- Whether each number in the items of an array is read as it was. -/
def keepNumbers (rounding : Rounding) : List Json → Bool
  | [] => true
  | item :: rest => keepsNumbers rounding item && keepNumbers rounding rest

/-- Whether each number in the members of an object is read as it was. -/
def haveKeptNumbers (rounding : Rounding) : List (String × Json) → Bool
  | [] => true
  | (_, v) :: rest => keepsNumbers rounding v && haveKeptNumbers rounding rest

end

example : (Decimal.toDouble? false ⟨9452706955539223, -16⟩).map
    (fun x => (Json.real x).keepsNumbers .quick) = some false := by decide +kernel

section
variable {rounding : Rounding}

mutual

/-- **A value is read as it was exactly if each of its numbers is.** -/
theorem reread_eq_self_iff : ∀ {json : Json},
    json.reread rounding = json ↔ json.keepsNumbers rounding = true
  | .null | .bool _ | .integer _ | .text _ | .broken => iff_of_true rfl rfl
  | .real _ => by
    rw [reread, keepsNumbers, decide_eq_true_eq, Json.real.injEq]
  | .array _ => by
    rw [reread, keepsNumbers, Json.array.injEq, rereadItems_eq_self_iff]
  | .object _ => by
    rw [reread, keepsNumbers, Json.object.injEq, rereadMembers_eq_self_iff]

theorem rereadItems_eq_self_iff : ∀ {items : List Json},
    rereadItems rounding items = items ↔ keepNumbers rounding items = true
  | [] => iff_of_true rfl rfl
  | _ :: _ => by
    rw [rereadItems, keepNumbers, List.cons.injEq, Bool.and_eq_true, reread_eq_self_iff,
      rereadItems_eq_self_iff]

theorem rereadMembers_eq_self_iff : ∀ {members : List (String × Json)},
    rereadMembers rounding members = members ↔ haveKeptNumbers rounding members = true
  | [] => iff_of_true rfl rfl
  | (_, _) :: _ => by
    rw [rereadMembers, haveKeptNumbers, List.cons.injEq, Prod.mk.injEq, Bool.and_eq_true,
      reread_eq_self_iff, rereadMembers_eq_self_iff, and_iff_right rfl]

end

mutual

theorem keepsNumbers_of_isPlain : ∀ {json : Json}, json.isPlain = true →
    json.keepsNumbers rounding = true
  | .null, _ | .bool _, _ | .integer _, _ | .text _, _ => rfl
  | .array _, h => keepNumbers_of_arePlain h
  | .object _, h => haveKeptNumbers_of_havePlain h

theorem keepNumbers_of_arePlain : ∀ {items : List Json}, arePlain items = true →
    keepNumbers rounding items = true
  | [], _ => rfl
  | _ :: _, h => by
    rw [arePlain, Bool.and_eq_true] at h
    rw [keepNumbers, keepsNumbers_of_isPlain h.1, keepNumbers_of_arePlain h.2]
    rfl

theorem haveKeptNumbers_of_havePlain : ∀ {members : List (String × Json)},
    havePlain members = true → haveKeptNumbers rounding members = true
  | [], _ => rfl
  | (_, _) :: _, h => by
    rw [havePlain, Bool.and_eq_true] at h
    rw [haveKeptNumbers, keepsNumbers_of_isPlain h.1, haveKeptNumbers_of_havePlain h.2]
    rfl

end

end

end MailTriage.Json
