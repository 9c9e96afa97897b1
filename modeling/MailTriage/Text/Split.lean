/-! # Trimming and cutting texts

A character is blank when it has the Unicode property `White_Space`.  `trim` removes blanks from both
ends of a text and keeps those inside it.  `cutLast c` cuts a sequence of characters at the last `c`
in it; `stripStart c` takes one leading `c` away.  The lemmas say what the two parts are: put
together around `c` they give back the whole, and the second part has no `c`.
-/
namespace MailTriage.Text

/-! ### Blanks -/

/-- Whether a character has the property `White_Space`. -/
def isBlank (c : Char) : Bool :=
  let n := c.toNat
  (0x9 ≤ n && n ≤ 0xD) || n == 0x20 || n == 0x85 || n == 0xA0 || n == 0x1680
    || (0x2000 ≤ n && n ≤ 0x200A) || n == 0x2028 || n == 0x2029 || n == 0x202F || n == 0x205F
    || n == 0x3000

/-- The characters without the blanks they start with. -/
def trimStart (cs : List Char) : List Char := cs.dropWhile isBlank

/-- The characters without the blanks they end with. -/
def trimEnd (cs : List Char) : List Char := (cs.reverse.dropWhile isBlank).reverse

/-- The characters without the blanks at either end. -/
def trimChars (cs : List Char) : List Char := trimEnd (trimStart cs)

/-- The text without the blanks at either end. -/
def trim (s : String) : String := String.ofList (trimChars s.toList)

@[simp] theorem toList_trim (s : String) : (trim s).toList = trimChars s.toList :=
  String.toList_ofList

/-! ### Parts -/

/-- The characters before and after the last `c`; `none` when there is no `c`. -/
def cutLast (c : Char) : List Char → Option (List Char × List Char)
  | [] => none
  | x :: rest =>
    match cutLast c rest with
    | some (before, after) => some (x :: before, after)
    | none => if x = c then some ([], rest) else none

/-- The characters without a leading `c`, at most one of which is taken away. -/
def stripStart (c : Char) : List Char → List Char
  | [] => []
  | x :: rest => if x = c then rest else x :: rest

theorem cutLast_eq_none_iff {c : Char} {cs : List Char} : cutLast c cs = none ↔ c ∉ cs := by
  induction cs with
  | nil => simp [cutLast]
  | cons x rest ih =>
    cases h : cutLast c rest with
    | some p => simp [cutLast, h, show c ∈ rest from by
        by_cases hc : c ∈ rest
        · exact hc
        · rw [ih.mpr hc] at h; cases h]
    | none =>
      have hrest := ih.mp h
      by_cases hx : x = c
      · simp [cutLast, h, hx]
      · simp [cutLast, h, hx, hrest, Ne.symm hx]

theorem eq_append_of_cutLast {c : Char} {cs before after : List Char}
    (h : cutLast c cs = some (before, after)) : cs = before ++ c :: after ∧ c ∉ after := by
  induction cs generalizing before with
  | nil => simp [cutLast] at h
  | cons x rest ih =>
    cases hr : cutLast c rest with
    | some p =>
      obtain ⟨b, a⟩ := p
      simp only [cutLast, hr, Option.some.injEq, Prod.mk.injEq] at h
      obtain ⟨rfl, rfl⟩ := h
      obtain ⟨hcs, ha⟩ := ih hr
      exact ⟨by rw [hcs]; rfl, ha⟩
    | none =>
      simp only [cutLast, hr] at h
      split at h
      · next hx =>
        simp only [Option.some.injEq, Prod.mk.injEq] at h
        obtain ⟨rfl, rfl⟩ := h
        exact ⟨by rw [hx]; rfl, cutLast_eq_none_iff.mp hr⟩
      · cases h

theorem cutLast_append {c : Char} (before : List Char) {after : List Char} (h : c ∉ after) :
    cutLast c (before ++ c :: after) = some (before, after) := by
  induction before with
  | nil => simp [cutLast, cutLast_eq_none_iff.mpr h]
  | cons x rest ih => simp [cutLast, ih]

end MailTriage.Text
