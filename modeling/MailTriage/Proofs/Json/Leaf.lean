import MailTriage.Json.Printer
import MailTriage.Json.Reader
import MailTriage.Proofs.Number.Quick
import MailTriage.Proofs.Text.Digits

/-! # JSON texts and integers read back

A text between its quotes reads back as it was (`textBody_quoted`): each character undoes its own
escape.  So does an integer (`number_decimalInt`), which takes no more bits than double precision
has room for: the reader computes its number of double precision first and would refuse one beyond
them.  Neither writes a control character.
-/
namespace MailTriage.Json

open Text

/-! ### Texts -/

theorem hexValue_hexDigit {n : Nat} (h : n < 16) : hexValue (hexDigit n) = some n := by
  have hall : ∀ d, d < 16 → hexValue (hexDigit d) = some d := by decide
  exact hall n h

/-- The four hexadecimal places of a unit of sixteen bits denote it. -/
theorem hexValue4_hexDigits {n : Nat} (h : n < 0x10000) :
    ∃ a b c d, hexDigits 4 n = [a, b, c, d] ∧ hexValue4 a b c d = some n := by
  refine ⟨_, _, _, _, rfl, ?_⟩
  rw [hexValue4, hexValue_hexDigit (Nat.mod_lt _ (by decide)),
    hexValue_hexDigit (Nat.mod_lt _ (by decide)), hexValue_hexDigit (Nat.mod_lt _ (by decide)),
    hexValue_hexDigit (Nat.mod_lt _ (by decide))]
  exact congrArg some (by omega)

/-- A character is escaped by a letter that stands for it or by its number, or it is written as it
is. -/
theorem escaped_cases (c : Char) :
    (∃ letter, escaped c = ['\\', letter] ∧ shortEscape letter = some c ∧ letter ≠ 'u'
        ∧ 0x20 ≤ letter.toNat)
      ∨ (escaped c = '\\' :: 'u' :: hexDigits 4 c.toNat ∧ c.toNat < 0x20)
      ∨ (escaped c = [c] ∧ c ≠ '"' ∧ c ≠ '\\' ∧ 0x20 ≤ c.toNat) := by
  by_cases hspecial : c ∈ ['"', '\\', '\x08', '\x0c', '\n', '\r', '\t']
  · refine .inl ⟨(escaped c).getLastD 'u', ?_⟩
    simp only [List.mem_cons, List.not_mem_nil, or_false] at hspecial
    rcases hspecial with rfl | rfl | rfl | rfl | rfl | rfl | rfl <;> decide
  · refine .inr ?_
    simp only [List.mem_cons, List.not_mem_nil, or_false, not_or] at hspecial
    obtain ⟨hquote, hbackslash, hb, hf, hn, hr, ht⟩ := hspecial
    simp only [escaped, if_neg hquote, if_neg hbackslash, if_neg hb, if_neg hf, if_neg hn,
      if_neg hr, if_neg ht]
    by_cases hcontrol : c.toNat < 0x20
    · rw [if_pos hcontrol]
      exact .inl ⟨rfl, hcontrol⟩
    · rw [if_neg hcontrol]
      exact .inr ⟨rfl, hquote, hbackslash, Nat.not_lt.mp hcontrol⟩

theorem textBody_letter {strict : Bool} {letter c : Char} (h : shortEscape letter = some c)
    (hu : letter ≠ 'u') (rest : List Char) :
    textBody strict ('\\' :: letter :: rest) = push c (textBody strict rest) := by
  rw [textBody]
  · rw [h]
  · intro _ _ _ _ _ heq
    exact absurd heq hu
  · exact hu

theorem textBody_number {strict : Bool} {c : Char} (h : c.toNat < 0x20) (rest : List Char) :
    textBody strict ('\\' :: 'u' :: hexDigits 4 c.toNat ++ rest)
      = push c (textBody strict rest) := by
  obtain ⟨x, y, z, w, hdigits, hvalue⟩ := hexValue4_hexDigits (n := c.toNat) (by omega)
  have hhigh : isHighSurrogate c.toNat = false := by
    simp only [isHighSurrogate, Bool.and_eq_false_iff, decide_eq_false_iff_not]
    omega
  have hlow : isLowSurrogate c.toNat = false := by
    simp only [isLowSurrogate, Bool.and_eq_false_iff, decide_eq_false_iff_not]
    omega
  simp only [hdigits, List.cons_append, List.nil_append]
  rw [textBody]
  simp only [hvalue, hhigh, hlow, Bool.false_eq_true, if_false, Char.ofNat_toNat]

theorem textBody_plain {strict : Bool} {c : Char} (hquote : c ≠ '"') (hbackslash : c ≠ '\\')
    (hcontrol : 0x20 ≤ c.toNat) (rest : List Char) :
    textBody strict (c :: rest) = push c (textBody strict rest) := by
  rw [textBody.eq_def]
  split
  · next h => cases h
  · next h => exact absurd (List.cons.inj h).1 hquote
  all_goals try exact absurd (List.cons.inj ‹_›).1 hbackslash
  next h =>
    cases h
    exact if_neg (Nat.not_lt.mpr hcontrol)

theorem textBody_escaped (strict : Bool) (c : Char) (rest : List Char) :
    textBody strict (escaped c ++ rest) = push c (textBody strict rest) := by
  rcases escaped_cases c with ⟨letter, h, hletter, hu, -⟩ | ⟨h, hcontrol⟩
    | ⟨h, hquote, hbackslash, hcontrol⟩
  · rw [h]
    exact textBody_letter hletter hu rest
  · rw [h]
    exact textBody_number hcontrol rest
  · rw [h]
    exact textBody_plain hquote hbackslash hcontrol rest

/-- **A text between its quotes reads back as it was.** -/
theorem textBody_quoted (strict : Bool) (cs rest : List Char) :
    textBody strict (cs.flatMap escaped ++ '"' :: rest) = .ok (some cs, rest) := by
  induction cs with
  | nil => simp [textBody]
  | cons c cs ih =>
    rw [List.flatMap_cons, List.append_assoc, textBody_escaped, ih]
    rfl

/-- Whether a character is no control character. -/
def isShown (c : Char) : Bool := 0x20 ≤ c.toNat

theorem isShown_hexDigit {n : Nat} (h : n < 16) : isShown (hexDigit n) = true := by
  have hall : ∀ d, d < 16 → isShown (hexDigit d) = true := by decide
  exact hall n h

theorem isShown_of_mem_hexDigits {places n : Nat} {c : Char} (h : c ∈ hexDigits places n) :
    isShown c = true := by
  induction places generalizing n with
  | zero => cases h
  | succ places ih =>
    rw [hexDigits, List.mem_append, List.mem_singleton] at h
    rcases h with h | rfl
    · exact ih h
    · exact isShown_hexDigit (Nat.mod_lt n (by decide))

theorem isShown_of_mem_escaped {c d : Char} (h : d ∈ escaped c) : isShown d = true := by
  rcases escaped_cases c with ⟨letter, heq, -, -, hletter⟩ | ⟨heq, -⟩ | ⟨heq, -, -, hc⟩
  · rw [heq, List.mem_cons, List.mem_singleton] at h
    rcases h with rfl | rfl
    · rfl
    · exact decide_eq_true hletter
  · rw [heq, List.mem_cons, List.mem_cons] at h
    rcases h with rfl | rfl | h
    · rfl
    · rfl
    · exact isShown_of_mem_hexDigits h
  · rw [heq, List.mem_singleton] at h
    rw [h]
    exact decide_eq_true hc

theorem isShown_of_mem_quoted {s : String} {c : Char} (h : c ∈ quoted s) : isShown c = true := by
  rw [quoted, List.cons_append, List.mem_cons, List.mem_append, List.mem_singleton,
    List.mem_flatMap] at h
  rcases h with rfl | ⟨_, -, h⟩ | rfl
  · rfl
  · exact isShown_of_mem_escaped h
  · rfl

/-! ### Integers -/

/-- The characters end here, or the next one does not belong to a number. -/
def NumberEnds (rest : List Char) : Prop :=
  ∀ c ∈ rest.head?, isDigit c = false ∧ c ≠ '.' ∧ c ≠ 'e' ∧ c ≠ 'E'

theorem toList_decimalInt (n : Int) :
    (decimalInt n).toList
      = if n < 0 then '-' :: Text.decimalChars n.natAbs else Text.decimalChars n.natAbs :=
  String.toList_ofList

theorem head?_decimalChars_ne (n : Nat) : (Text.decimalChars n).head? ≠ some '-' := by
  intro h
  have hdigit := isDigit_of_mem_decimalChars (List.mem_of_head? h)
  cases hdigit

theorem wholeEnd_decimalChars (n : Nat) {rest : List Char} (h : NumberEnds rest) :
    wholeEnd (Text.decimalChars n ++ rest) = .ok rest := by
  have hdigit : ∀ c ∈ rest.head?, isDigit c = false := fun c hc => (h c hc).1
  rcases Nat.eq_zero_or_pos n with rfl | hn
  · cases rest with
    | nil => rfl
    | cons c rest =>
      show (if isDigit c = true then _ else _) = _
      rw [hdigit c rfl, if_neg Bool.false_ne_true]
      rfl
  · obtain ⟨c, ds, heq, hzero⟩ := exists_cons_decimalChars hn
    have hall : ∀ d ∈ c :: ds, isDigit d = true :=
      fun d hd => isDigit_of_mem_decimalChars (heq ▸ hd)
    rw [heq, List.cons_append]
    show (if c = '0' then _ else _) = _
    rw [if_neg hzero, hall c List.mem_cons_self, if_pos rfl,
      dropDigits, dropWhile_isDigit_append (fun d hd => hall d (List.mem_cons_of_mem c hd)) hdigit]

theorem fractionEnd_of_numberEnds {rest : List Char} (h : NumberEnds rest) :
    fractionEnd rest = .ok rest := by
  unfold fractionEnd
  split
  · exact absurd rfl (h '.' rfl).2.1
  · exact absurd rfl (h 'e' rfl).2.2.1
  · exact absurd rfl (h 'E' rfl).2.2.2
  · rfl

/-- Digits that have 64 bits together are all taken. -/
theorem firstDigits_eq {seen : Nat} {cs : List Char} (h : valueOfDigits seen cs ≤ maxCount) :
    firstDigits seen cs = (valueOfDigits seen cs, []) := by
  induction cs generalizing seen with
  | nil => rfl
  | cons c cs ih =>
    rw [valueOfDigits_cons] at h ⊢
    rw [firstDigits, if_pos (Nat.le_trans (seen_le_valueOfDigits _ cs) h), ih h]

theorem mantissa_decimalChars (rounding : Rounding) {n : Nat} (h : n < 2 ^ 64) :
    mantissa rounding (Text.decimalChars n) [] = ⟨n, 0⟩ := by
  cases rounding with
  | nearest =>
    rw [mantissa, List.append_nil, valueOfDigits_decimalChars]
    rfl
  | quick =>
    have hfirst : firstDigits 0 (Text.decimalChars n) = (n, []) := by
      rw [firstDigits_eq, valueOfDigits_decimalChars]
      rw [valueOfDigits_decimalChars]
      exact Nat.le_of_lt_succ h
    rw [mantissa, hfirst]
    rfl

theorem isOk_valueOf (rounding : Rounding) (negative : Bool) {n : Nat} (h : n < 2 ^ 64) :
    ∃ x, valueOf rounding ((if negative then ['-'] else []) ++ Text.decimalChars n) = .ok x := by
  have htake : (Text.decimalChars n).takeWhile isDigit = Text.decimalChars n :=
    takeWhile_isDigit_eq_self fun _ hc => isDigit_of_mem_decimalChars hc
  have hdrop : (Text.decimalChars n).dropWhile isDigit = [] :=
    dropWhile_isDigit_eq_nil fun _ hc => isDigit_of_mem_decimalChars hc
  obtain ⟨x, hx⟩ : ∃ x, rounding.toDouble? negative ⟨n, 0⟩ = some x := by
    refine Rounding.exists_toDouble? negative rounding h ?_
    have hlarge : 2 ^ 64 < Double.halvesBelow 7 := by decide +kernel
    rw [Decimal.value, zpow_zero, mul_one]
    exact Nat.cast_le.mpr (h.trans hlarge).le
  refine ⟨x, ?_⟩
  cases negative with
  | true =>
    simp [valueOf, htake, hdrop, exponentDigits, mantissa_decimalChars rounding h, hx]
  | false =>
    simp [valueOf, htake, hdrop, exponentDigits, mantissa_decimalChars rounding h, hx,
      head?_decimalChars_ne]

theorem integerOf?_decimalInt (n : Int) : integerOf? (decimalInt n).toList = some n := by
  have hall : (Text.decimalChars n.natAbs).all isDigit = true :=
    List.all_eq_true.mpr fun _ hc => isDigit_of_mem_decimalChars hc
  rw [toList_decimalInt]
  split
  · next hneg =>
    have hne : n.natAbs ≠ 0 := by omega
    have hvalue : -(n.natAbs : Int) = n := by omega
    simp only [integerOf?, List.head?_cons, List.drop_one, List.tail_cons, if_pos, decide_true,
      hall, valueOfDigits_decimalChars, hne, hvalue, decide_false]
    rfl
  · next hneg =>
    have hvalue : (n.natAbs : Int) = n := by omega
    simp only [integerOf?, head?_decimalChars_ne, hall, valueOfDigits_decimalChars, hvalue,
      if_false, decide_false, Bool.false_and]
    rfl

/-- **An integer of 64 bits reads back as it was.** -/
theorem number_decimalInt (rounding : Rounding) (strict : Bool) {n : Int} (h : n.natAbs < 2 ^ 64)
    {rest : List Char} (hrest : NumberEnds rest) :
    number rounding strict ((decimalInt n).toList ++ rest) = .ok (.integer n, rest) := by
  have hunsigned : (if ((decimalInt n).toList ++ rest).head? = some '-'
      then ((decimalInt n).toList ++ rest).drop 1 else (decimalInt n).toList ++ rest)
      = Text.decimalChars n.natAbs ++ rest := by
    rw [toList_decimalInt]
    split
    · rfl
    · rw [if_neg]
      rw [List.head?_append]
      cases hdigits : Text.decimalChars n.natAbs with
      | nil => exact absurd hdigits (decimalChars_ne_nil _)
      | cons c ds =>
        have hne := head?_decimalChars_ne n.natAbs
        rwa [hdigits] at hne
  have htext : ((decimalInt n).toList ++ rest).take
      (((decimalInt n).toList ++ rest).length - rest.length) = (decimalInt n).toList := by
    rw [List.length_append, Nat.add_sub_cancel, List.take_left]
  obtain ⟨x, hx⟩ : ∃ x, valueOf rounding (decimalInt n).toList = .ok x := by
    have hvalue := isOk_valueOf rounding (decide (n < 0)) h
    rw [toList_decimalInt]
    by_cases hneg : n < 0
    · simpa [hneg] using hvalue
    · simpa [hneg] using hvalue
  simp only [number, bind, Except.bind, hunsigned, wholeEnd_decimalChars _ hrest,
    fractionEnd_of_numberEnds hrest, htext, hx, integerOf?_decimalInt]
  rfl

theorem isShown_of_isDigit {c : Char} (h : isDigit c = true) : isShown c = true := by
  have hcode : 48 ≤ c.toNat := by
    simp only [isDigit, Bool.and_eq_true, decide_eq_true_eq] at h
    exact h.1
  exact decide_eq_true (by omega)

theorem isShown_of_mem_decimalInt {n : Int} {c : Char} (h : c ∈ (decimalInt n).toList) :
    isShown c = true := by
  rw [toList_decimalInt] at h
  split at h
  · rcases List.mem_cons.mp h with rfl | h
    · rfl
    · exact isShown_of_isDigit (isDigit_of_mem_decimalChars h)
  · exact isShown_of_isDigit (isDigit_of_mem_decimalChars h)

end MailTriage.Json
