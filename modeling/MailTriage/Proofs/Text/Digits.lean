import MailTriage.Text.Split
import MailTriage.Text.Digits

/-! # Digits read back

Every way of writing a number with digits is undone by `valueOfDigits`: a fixed number of places
keeps the number up to that power of ten (`valueOfDigits_fixedDigits`), and the decimal digits keep
it whole (`valueOfDigits_decimalChars`).  All of them are digits, and the decimal digits start with a
zero only for zero itself.  With as many places the order of numbers is that of their texts
(`fixedDigits_append_lt`).
-/
namespace MailTriage.Text

-- Powers are those of the numbers themselves, also where every monoid has its own.
attribute [local instance (10001)] instPowNat

theorem isDigit_digitChar (n : Nat) : isDigit (digitChar n) = true := by
  have h : ∀ d, d < 10 → isDigit (Char.ofNat (48 + d)) = true := by decide
  exact h (n % 10) (Nat.mod_lt n (by decide))

@[simp] theorem digitValue_digitChar (n : Nat) : digitValue (digitChar n) = n % 10 := by
  have h : ∀ d, d < 10 → digitValue (Char.ofNat (48 + d)) = d := by decide
  exact h (n % 10) (Nat.mod_lt n (by decide))

theorem digitChar_ne_zero {n : Nat} (h : 0 < n) (hn : n < 10) : digitChar n ≠ '0' := by
  have hall : ∀ d, d < 10 → 0 < d → digitChar d ≠ '0' := by decide
  exact hall n hn h

theorem isBlank_of_isDigit {c : Char} (h : isDigit c = true) : isBlank c = false := by
  have hcode : 48 ≤ c.toNat ∧ c.toNat ≤ 57 := by
    simp only [isDigit, Bool.and_eq_true, decide_eq_true_eq] at h
    exact h
  simp only [isBlank, Bool.or_eq_false_iff, Bool.and_eq_false_iff, decide_eq_false_iff_not,
    beq_eq_false_iff_ne]
  omega

/-! ### Values -/

@[simp] theorem valueOfDigits_nil (seen : Nat) : valueOfDigits seen [] = seen := rfl

@[simp] theorem valueOfDigits_cons (seen : Nat) (c : Char) (cs : List Char) :
    valueOfDigits seen (c :: cs) = valueOfDigits (10 * seen + digitValue c) cs :=
  List.foldl_cons ..

theorem valueOfDigits_append (seen : Nat) (cs ds : List Char) :
    valueOfDigits seen (cs ++ ds) = valueOfDigits (valueOfDigits seen cs) ds :=
  List.foldl_append

theorem digitValue_lt_ten {c : Char} (h : isDigit c = true) : digitValue c < 10 := by
  simp only [isDigit, Bool.and_eq_true, decide_eq_true_eq] at h
  have hle : c.toNat ≤ 57 := h.2
  rw [digitValue]
  omega

/-- So many digits denote a number below that power of ten. -/
theorem valueOfDigits_lt {cs : List Char} (h : ∀ c ∈ cs, isDigit c = true) (seen : Nat) :
    valueOfDigits seen cs < (seen + 1) * 10 ^ cs.length := by
  induction cs generalizing seen with
  | nil => simp
  | cons c rest ih =>
    have hc := digitValue_lt_ten (h c List.mem_cons_self)
    have hrest := ih (fun d hd => h d (List.mem_cons_of_mem c hd)) (10 * seen + digitValue c)
    have hstep : (10 * seen + digitValue c + 1) * 10 ^ rest.length
        ≤ (seen + 1) * 10 * 10 ^ rest.length := Nat.mul_le_mul_right _ (by omega)
    rw [valueOfDigits_cons, List.length_cons, Nat.pow_succ', ← Nat.mul_assoc]
    exact Nat.lt_of_lt_of_le hrest hstep

theorem le_valueOfDigits (seen : Nat) (cs : List Char) :
    seen * 10 ^ cs.length ≤ valueOfDigits seen cs := by
  induction cs generalizing seen with
  | nil => simp
  | cons c cs ih =>
    rw [valueOfDigits_cons, List.length_cons, Nat.pow_succ', ← Nat.mul_assoc]
    exact Nat.le_trans (Nat.mul_le_mul_right _ (by omega)) (ih (10 * seen + digitValue c))

/-- Digits that were read are no more than what they denote together with others. -/
theorem seen_le_valueOfDigits (seen : Nat) (cs : List Char) : seen ≤ valueOfDigits seen cs :=
  Nat.le_trans (Nat.le_mul_of_pos_right seen (Nat.pow_pos (by decide))) (le_valueOfDigits seen cs)

/-! ### A fixed number of places -/

theorem isDigit_of_mem_fixedDigits {places n : Nat} {c : Char} (h : c ∈ fixedDigits places n) :
    isDigit c = true := by
  induction places generalizing n with
  | zero => cases h
  | succ places ih =>
    rw [fixedDigits, List.mem_append, List.mem_singleton] at h
    rcases h with h | rfl
    · exact ih h
    · exact isDigit_digitChar n

theorem valueOfDigits_fixedDigits (places n : Nat) :
    valueOfDigits 0 (fixedDigits places n) = n % 10 ^ places := by
  induction places generalizing n with
  | zero => simp [fixedDigits, Nat.mod_one]
  | succ places ih =>
    rw [fixedDigits, valueOfDigits_append, ih, valueOfDigits_cons, valueOfDigits_nil,
      digitValue_digitChar, Nat.pow_succ, Nat.mul_comm (10 ^ places), Nat.mod_mul]
    omega

theorem digitChar_lt_digitChar {m n : Nat} (h : m % 10 < n % 10) : digitChar m < digitChar n := by
  have hall : ∀ a < 10, ∀ b < 10, a < b → Char.ofNat (48 + a) < Char.ofNat (48 + b) := by decide
  exact hall _ (Nat.mod_lt m (by decide)) _ (Nat.mod_lt n (by decide)) h

/-- Texts that start with as many digits come in the order of these numbers, and then in the order of
the rest. -/
theorem fixedDigits_append_lt {places m n : Nat} (hm : m < 10 ^ places) (hn : n < 10 ^ places)
    {cs ds : List Char} (h : m < n ∨ m = n ∧ cs < ds) :
    fixedDigits places m ++ cs < fixedDigits places n ++ ds := by
  induction places generalizing m n cs ds with
  | zero =>
    rcases h with h | ⟨-, h⟩
    · exact absurd h (by omega)
    · exact h
  | succ places ih =>
    rw [Nat.pow_succ] at hm hn
    simp only [fixedDigits, List.append_assoc, List.singleton_append]
    refine ih (by omega) (by omega) ?_
    -- the last digit decides where all digits before it are the same
    rcases h with h | ⟨rfl, h⟩
    · by_cases hlast : m / 10 = n / 10
      · exact .inr ⟨hlast, List.cons_lt_cons_iff.mpr
          (.inl (digitChar_lt_digitChar (by omega)))⟩
      · exact .inl (by omega)
    · exact .inr ⟨rfl, List.cons_lt_cons_self.mpr h⟩

/-! ### Decimal digits -/

theorem isDigit_of_mem_digitsBackward {fuel n : Nat} {c : Char} (h : c ∈ digitsBackward fuel n) :
    isDigit c = true := by
  induction fuel generalizing n with
  | zero => cases h
  | succ fuel ih =>
    rw [digitsBackward, List.mem_cons] at h
    rcases h with rfl | h
    · exact isDigit_digitChar n
    · split at h
      · cases h
      · exact ih h

theorem isDigit_of_mem_decimalChars {n : Nat} {c : Char} (h : c ∈ decimalChars n) :
    isDigit c = true := isDigit_of_mem_digitsBackward (List.mem_reverse.mp h)

theorem valueOfDigits_reverse_digitsBackward {fuel n : Nat} (h : n < fuel) :
    valueOfDigits 0 (digitsBackward fuel n).reverse = n := by
  induction fuel generalizing n with
  | zero => omega
  | succ fuel ih =>
    rw [digitsBackward, List.reverse_cons, valueOfDigits_append, valueOfDigits_cons,
      valueOfDigits_nil, digitValue_digitChar]
    split
    · next hsmall => rw [List.reverse_nil, valueOfDigits_nil]; omega
    · next hlarge => rw [ih (by omega)]; omega

@[simp] theorem valueOfDigits_decimalChars (n : Nat) : valueOfDigits 0 (decimalChars n) = n :=
  valueOfDigits_reverse_digitsBackward (Nat.lt_succ_self n)

/-- A number takes as many decimal digits as it has. -/
theorem lt_length_decimalChars {n places : Nat} (h : 10 ^ places ≤ n) :
    places < (decimalChars n).length := by
  have hlt := valueOfDigits_lt (fun c hc => isDigit_of_mem_decimalChars (n := n) hc) 0
  rw [valueOfDigits_decimalChars, Nat.zero_add, Nat.one_mul] at hlt
  exact (Nat.pow_lt_pow_iff_right (by decide)).mp (Nat.lt_of_le_of_lt h hlt)

/-- The first decimal digit of a number other than zero is not zero. -/
theorem exists_cons_reverse_digitsBackward {fuel n : Nat} (hn : 0 < n) (h : n < fuel) :
    ∃ c rest, (digitsBackward fuel n).reverse = c :: rest ∧ c ≠ '0' := by
  induction fuel generalizing n with
  | zero => omega
  | succ fuel ih =>
    rw [digitsBackward, List.reverse_cons]
    split
    · next hsmall => exact ⟨digitChar n, [], rfl, digitChar_ne_zero hn hsmall⟩
    · next hlarge =>
      obtain ⟨c, rest, hrest, hc⟩ := ih (n := n / 10) (by omega) (by omega)
      exact ⟨c, rest ++ [digitChar n], by rw [hrest]; rfl, hc⟩

theorem exists_cons_decimalChars {n : Nat} (hn : 0 < n) :
    ∃ c rest, decimalChars n = c :: rest ∧ c ≠ '0' :=
  exists_cons_reverse_digitsBackward hn (Nat.lt_succ_self n)

theorem decimalChars_ne_nil (n : Nat) : decimalChars n ≠ [] := by
  rw [decimalChars, digitsBackward]
  simp

/-- Among characters of which only the first ones are digits, the digits are those. -/
theorem takeWhile_isDigit_append {ds rest : List Char} (hds : ∀ c ∈ ds, isDigit c = true)
    (hrest : ∀ c ∈ rest.head?, isDigit c = false) :
    (ds ++ rest).takeWhile isDigit = ds := by
  rw [List.takeWhile_append_of_pos hds]
  cases rest with
  | nil => simp
  | cons c rest => simp [hrest c rfl]

theorem takeWhile_isDigit_eq_self {ds : List Char} (h : ∀ c ∈ ds, isDigit c = true) :
    ds.takeWhile isDigit = ds := by
  have happend : (ds ++ []).takeWhile isDigit = ds := takeWhile_isDigit_append h nofun
  rwa [List.append_nil] at happend

theorem dropWhile_isDigit_append {ds rest : List Char} (hds : ∀ c ∈ ds, isDigit c = true)
    (hrest : ∀ c ∈ rest.head?, isDigit c = false) :
    (ds ++ rest).dropWhile isDigit = rest := by
  rw [List.dropWhile_append_of_pos hds]
  cases rest with
  | nil => rfl
  | cons c rest => simp [hrest c rfl]

theorem dropWhile_isDigit_eq_nil {ds : List Char} (h : ∀ c ∈ ds, isDigit c = true) :
    ds.dropWhile isDigit = [] := by
  have happend : (ds ++ []).dropWhile isDigit = [] := dropWhile_isDigit_append h nofun
  rwa [List.append_nil] at happend

end MailTriage.Text
