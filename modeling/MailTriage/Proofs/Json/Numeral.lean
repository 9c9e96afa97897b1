import MailTriage.Proofs.Json.Leaf

/-! # The texts of numbers

All numbers are written in one form: digits, with a sign or without, and then a fraction, an
exponent, both or neither (`IsNumeral`).  A reading that gets over such a text has taken all of it,
and what it gives is a number or denotes nothing (`IsNumeral.number`).  That holds whichever digits
are written, so it needs nothing about how those of a number of double precision are found.
-/
namespace MailTriage.Json

open Text

variable {rest : List Char}

/-! ### Behind the whole part -/

/-- Characters as they are written behind the whole part of a number: no digit comes first, and a
reading stops behind them. -/
structure EndsNumber (tail : List Char) : Prop where
  head : ∀ c ∈ tail.head?, isDigit c = false
  shown : ∀ c ∈ tail, isShown c = true
  read : ∀ rest, NumberEnds rest → fractionEnd (tail ++ rest) = .ok rest

theorem NumberEnds.head (h : NumberEnds rest) : ∀ c ∈ rest.head?, isDigit c = false :=
  fun c hc => (h c hc).1

theorem endsNumber_nil : EndsNumber [] where
  head := nofun
  shown := nofun
  read := fun _ => fractionEnd_of_numberEnds

theorem exponentEnd_digit {c : Char} (hc : isDigit c = true) (cs : List Char) :
    exponentEnd (c :: cs) = .ok (dropDigits cs) := by
  have hplus : c ≠ '+' := by
    rintro rfl
    cases hc
  have hminus : c ≠ '-' := by
    rintro rfl
    cases hc
  rw [exponentEnd]
  · exact if_pos hc
  · exact fun _ heq => hplus (List.cons.inj heq).1
  · exact fun _ heq => hminus (List.cons.inj heq).1

theorem exponentEnd_minus {c : Char} (hc : isDigit c = true) (cs : List Char) :
    exponentEnd ('-' :: c :: cs) = .ok (dropDigits cs) := if_pos hc

/-- The digits of a natural number: a first one and others. -/
theorem exists_digits (n : Nat) : ∃ c ds, Text.decimalChars n = c :: ds ∧ isDigit c = true
    ∧ ∀ d ∈ ds, isDigit d = true := by
  have hall : ∀ d ∈ Text.decimalChars n, isDigit d = true := fun _ => isDigit_of_mem_decimalChars
  cases hdigits : Text.decimalChars n with
  | nil => exact absurd hdigits (decimalChars_ne_nil n)
  | cons c ds =>
    rw [hdigits] at hall
    exact ⟨c, ds, rfl, hall c List.mem_cons_self, fun d hd => hall d (List.mem_cons_of_mem c hd)⟩

theorem exponentEnd_decimalInt (n : Int) (h : NumberEnds rest) :
    exponentEnd ((decimalInt n).toList ++ rest) = .ok rest := by
  obtain ⟨c, ds, hdigits, hc, hds⟩ := exists_digits n.natAbs
  rw [toList_decimalInt, hdigits]
  split
  · rw [List.cons_append, List.cons_append, exponentEnd_minus hc, dropDigits,
      dropWhile_isDigit_append hds h.head]
  · rw [List.cons_append, exponentEnd_digit hc, dropDigits, dropWhile_isDigit_append hds h.head]

theorem endsNumber_exponent (n : Int) : EndsNumber ('e' :: (decimalInt n).toList) where
  head := fun _ hc => by cases hc; rfl
  shown := List.forall_mem_cons.mpr ⟨rfl, fun _ => isShown_of_mem_decimalInt⟩
  read := fun _ => exponentEnd_decimalInt n

/-- What follows the digits of a fraction is read behind them. -/
theorem fractionEnd_point {ds tail : List Char} (hne : ds ≠ []) (hds : ∀ d ∈ ds, isDigit d = true)
    (htail : ∀ c ∈ tail.head?, isDigit c = false ∧ c ≠ '.') :
    fractionEnd ('.' :: (ds ++ tail)) = fractionEnd tail := by
  obtain ⟨c, ds, rfl⟩ := List.exists_cons_of_ne_nil hne
  show (if isDigit c = true then _ else _) = _
  rw [if_pos (hds c List.mem_cons_self), dropDigits,
    dropWhile_isDigit_append hds fun c hc => (htail c hc).1]
  split
  · rfl
  · rfl
  · next he hE =>
    rw [fractionEnd.eq_def]
    split
    · exact absurd rfl (htail '.' rfl).2
    · exact absurd rfl (he _)
    · exact absurd rfl (hE _)
    · rfl

/-- A fraction may come before what else ends a number but another fraction. -/
theorem EndsNumber.point {ds tail : List Char} (h : EndsNumber tail)
    (hpoint : tail.head? ≠ some '.') (hne : ds ≠ []) (hds : ∀ d ∈ ds, isDigit d = true) :
    EndsNumber ('.' :: (ds ++ tail)) where
  head := fun _ hc => by cases hc; rfl
  shown := List.forall_mem_cons.mpr ⟨rfl, fun c hc => (List.mem_append.mp hc).elim
    (fun hc => isShown_of_isDigit (hds c hc)) (h.shown c)⟩
  read := fun rest hrest => by
    rw [List.cons_append, List.append_assoc, fractionEnd_point hne hds, h.read rest hrest]
    intro c hc
    cases tail with
    | nil => exact ⟨(hrest c hc).1, (hrest c hc).2.1⟩
    | cons d tail =>
      cases hc
      exact ⟨h.head c rfl, fun hdot => hpoint (congrArg some hdot)⟩

theorem endsNumber_fraction {ds : List Char} (hne : ds ≠ []) (hds : ∀ d ∈ ds, isDigit d = true) :
    EndsNumber ('.' :: ds) := by
  have h := endsNumber_nil.point nofun hne hds
  rwa [List.append_nil] at h

/-! ### Numerals -/

/-- A text as numbers without a sign are written: digits, and what may come behind them. -/
def IsUnsigned (cs : List Char) : Prop :=
  ∃ whole tail, cs = whole ++ tail ∧ whole ≠ [] ∧ (∀ c ∈ whole, isDigit c = true)
    ∧ EndsNumber tail

/-- A text as numbers are written: with a sign or without. -/
def IsNumeral (cs : List Char) : Prop :=
  ∃ (negative : Bool) (unsigned : List Char),
    cs = (if negative then ['-'] else []) ++ unsigned ∧ IsUnsigned unsigned

theorem isNumeral_decimalInt (n : Int) : IsNumeral (decimalInt n).toList := by
  have hdigits : IsUnsigned (Text.decimalChars n.natAbs) :=
    ⟨_, [], (List.append_nil _).symm, decimalChars_ne_nil _, fun _ => isDigit_of_mem_decimalChars,
      endsNumber_nil⟩
  rw [toList_decimalInt]
  split
  · exact ⟨true, _, rfl, hdigits⟩
  · exact ⟨false, _, rfl, hdigits⟩

theorem isDigit_of_mem_zeros {n : Nat} {c : Char} (h : c ∈ List.replicate n '0') :
    isDigit c = true := by
  rw [(List.mem_replicate.mp h).2]
  rfl

/-- A decimal is written without an exponent: with zeros behind its digits, with a point between
them, or with zeros before them. -/
theorem isUnsigned_positional (d : Decimal) :
    IsUnsigned (d.positional ++ if 0 ≤ d.exponent then ['.', '0'] else []) := by
  have hdigits : ∀ c ∈ Text.decimalChars d.digits, isDigit c = true :=
    fun _ => isDigit_of_mem_decimalChars
  have hne := decimalChars_ne_nil d.digits
  rw [Decimal.positional]
  by_cases hwhole : 0 ≤ d.exponent
  · rw [if_pos hwhole, if_pos hwhole]
    exact ⟨_, _, rfl, List.append_ne_nil_of_left_ne_nil hne _,
      fun c hc => (List.mem_append.mp hc).elim (hdigits c) isDigit_of_mem_zeros,
      endsNumber_fraction (List.cons_ne_nil _ _) (List.forall_mem_singleton.mpr rfl)⟩
  · rw [if_neg hwhole, if_neg hwhole, List.append_nil]
    split
    · next hpoint =>
      -- the point stands among the digits: some of them are before it, and some behind it
      refine ⟨_, _, rfl, ?_, fun c hc => hdigits c (List.mem_of_mem_take hc),
        endsNumber_fraction ?_ fun c hc => hdigits c (List.mem_of_mem_drop hc)⟩
      · refine List.ne_nil_of_length_pos ?_
        rw [List.length_take]
        have := List.length_pos_iff.mpr hne
        omega
      · refine List.ne_nil_of_length_pos ?_
        rw [List.length_drop]
        omega
    · exact ⟨['0'], _, rfl, List.cons_ne_nil _ _, List.forall_mem_singleton.mpr rfl,
        endsNumber_fraction (List.append_ne_nil_of_right_ne_nil _ hne)
          fun c hc => (List.mem_append.mp hc).elim isDigit_of_mem_zeros (hdigits c)⟩

theorem isUnsigned_decimalChars (d : Decimal) : IsUnsigned (decimalChars d) := by
  rw [decimalChars]
  split
  · exact isUnsigned_positional d
  · obtain ⟨c, ds, hdigits, hc, hds⟩ := exists_digits d.digits
    have hfirst : ∀ d ∈ [c], isDigit d = true := List.forall_mem_singleton.mpr hc
    rw [hdigits]
    cases ds with
    | nil => exact ⟨[c], _, rfl, List.cons_ne_nil _ _, hfirst, endsNumber_exponent _⟩
    | cons second more =>
      exact ⟨[c], _, rfl, List.cons_ne_nil _ _, hfirst,
        (endsNumber_exponent _).point nofun (List.cons_ne_nil _ _) hds⟩

theorem isNumeral_realChars (x : Double) : IsNumeral (realChars x) := by
  have hsize : IsUnsigned
      (if x.isZero then ['0', '.', '0'] else decimalChars (x.shortest .even)) := by
    split
    · exact ⟨['0'], _, rfl, List.cons_ne_nil _ _, List.forall_mem_singleton.mpr rfl,
        endsNumber_fraction (List.cons_ne_nil _ _) (List.forall_mem_singleton.mpr rfl)⟩
    · exact isUnsigned_decimalChars _
  rw [realChars]
  cases x.negative with
  | true => exact ⟨true, _, rfl, hsize⟩
  | false => exact ⟨false, _, rfl, hsize⟩

theorem IsUnsigned.exists_cons {cs : List Char} (h : IsUnsigned cs) :
    ∃ c more, cs = c :: more ∧ isDigit c = true := by
  obtain ⟨whole, tail, rfl, hne, hwhole, -⟩ := h
  obtain ⟨c, ds, rfl⟩ := List.exists_cons_of_ne_nil hne
  exact ⟨c, _, rfl, hwhole c List.mem_cons_self⟩

theorem IsUnsigned.isShown {cs : List Char} (h : IsUnsigned cs) {c : Char} (hc : c ∈ cs) :
    Json.isShown c = true := by
  obtain ⟨whole, tail, rfl, -, hwhole, htail⟩ := h
  exact (List.mem_append.mp hc).elim (fun hc => isShown_of_isDigit (hwhole c hc)) (htail.shown c)

theorem IsNumeral.exists_cons {cs : List Char} (h : IsNumeral cs) :
    ∃ c more, cs = c :: more ∧ (c = '-' ∨ isDigit c = true) := by
  obtain ⟨negative, unsigned, rfl, hunsigned⟩ := h
  cases negative with
  | true => exact ⟨_, _, rfl, .inl rfl⟩
  | false =>
    obtain ⟨c, more, rfl, hc⟩ := hunsigned.exists_cons
    exact ⟨c, more, rfl, .inr hc⟩

theorem IsNumeral.isShown {cs : List Char} (h : IsNumeral cs) {c : Char} (hc : c ∈ cs) :
    Json.isShown c = true := by
  obtain ⟨negative, unsigned, rfl, hunsigned⟩ := h
  cases negative with
  | true => exact (List.mem_cons.mp hc).elim (fun heq => by rw [heq]; rfl) hunsigned.isShown
  | false => exact hunsigned.isShown hc

/-! ### Reading a numeral -/

/-- Digits in front of something else are taken, or refused because of a zero in front of them. -/
theorem wholeEnd_digits {whole tail left : List Char} (hne : whole ≠ [])
    (hwhole : ∀ c ∈ whole, isDigit c = true) (htail : ∀ c ∈ tail.head?, isDigit c = false)
    (h : wholeEnd (whole ++ tail) = .ok left) : left = tail := by
  obtain ⟨c, ds, rfl⟩ := List.exists_cons_of_ne_nil hne
  have hds : ∀ d ∈ ds, isDigit d = true := fun d hd => hwhole d (List.mem_cons_of_mem c hd)
  rw [List.cons_append, wholeEnd.eq_def] at h
  simp only at h
  split at h
  · cases ds with
    | cons d ds =>
      rw [List.cons_append] at h
      simp only [hds d List.mem_cons_self, if_true] at h
      cases h
    | nil =>
      rw [List.nil_append] at h
      cases tail with
      | nil => exact (Except.ok.inj h).symm
      | cons d tail =>
        simp only [htail d rfl, Bool.false_eq_true, if_false] at h
        exact (Except.ok.inj h).symm
  · rw [if_pos (hwhole c List.mem_cons_self)] at h
    rw [← Except.ok.inj h, dropDigits, dropWhile_isDigit_append hds htail]

theorem IsUnsigned.wholeEnd {cs left : List Char} (h : IsUnsigned cs) (hrest : NumberEnds rest)
    (hread : Json.wholeEnd (cs ++ rest) = .ok left) : fractionEnd left = .ok rest := by
  obtain ⟨whole, tail, rfl, hne, hwhole, htail⟩ := h
  have hhead : ∀ c ∈ (tail ++ rest).head?, isDigit c = false := by
    cases tail with
    | nil => exact hrest.head
    | cons c tail => exact htail.head
  rw [List.append_assoc] at hread
  rw [wholeEnd_digits hne hwhole hhead hread, htail.read rest hrest]

/-- **A numeral is read as a whole**, and as a number or a part that denotes nothing. -/
theorem IsNumeral.number {cs left : List Char} (h : IsNumeral cs) {rounding : Rounding}
    {strict : Bool} {back : Json} (hrest : NumberEnds rest)
    (hread : Json.number rounding strict (cs ++ rest) = .ok (back, left)) :
    left = rest ∧ ((∃ n, back = .integer n) ∨ (∃ x, back = .real x) ∨ back = .broken) := by
  obtain ⟨negative, unsigned, rfl, hunsigned⟩ := h
  have hsign : (if ((if negative then ['-'] else []) ++ unsigned ++ rest).head? = some '-'
      then ((if negative then ['-'] else []) ++ unsigned ++ rest).drop 1
      else (if negative then ['-'] else []) ++ unsigned ++ rest) = unsigned ++ rest := by
    cases negative with
    | true => rfl
    | false =>
      obtain ⟨c, more, rfl, hc⟩ := hunsigned.exists_cons
      refine if_neg fun hminus => ?_
      rw [show c = '-' from Option.some.inj hminus] at hc
      cases hc
  rw [Json.number] at hread
  simp only [hsign, bind, Except.bind] at hread
  cases hend : Json.wholeEnd (unsigned ++ rest) with
  | error stop =>
    rw [hend] at hread
    cases hread
  | ok after =>
    simp only [hend, hunsigned.wholeEnd hrest hend] at hread
    split at hread
    · split at hread
      · cases hread
        exact ⟨rfl, .inl ⟨_, rfl⟩⟩
      · cases hread
        exact ⟨rfl, .inr (.inl ⟨_, rfl⟩)⟩
    · split at hread
      · cases hread
      · cases hread
        exact ⟨rfl, .inr (.inr rfl)⟩

end MailTriage.Json
