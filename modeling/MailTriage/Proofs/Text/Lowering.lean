import MailTriage.Proofs.Text.Trimming
import MailTriage.Text.Lower

/-! # Lower-casing settles a text

A text in small letters stays as it is when it is lower-cased again (`lowerChars_lowerChars`), and
lower-casing neither makes nor removes *marks*, the blanks and the signs that punctuate an address
(`filter_lowerChars`).  Both hold letter by letter, whatever stands around a letter, so they are read
off the table of capital letters, and there stretch by stretch: `capitalRuns_settle` says that no
stretch of small letters meets a stretch of capital letters, and that no mark lies in either.

What stands around a letter matters to a sigma alone, and only for whether a cased character is met
on either side (`lowerAfter_eq_of_meetsCased`).  So the parts of a text are lower-cased each on its
own wherever none is met across the cut: at an `@`, which is not cased and not looked past
(`lowerChars_append_at`), and behind an `@` or `.` that only leads the text (`lowerChars_cons_lead`).
-/
namespace MailTriage.Text

/-- Whether a character is a blank or one of the signs that punctuate an address. -/
def isMark (c : Char) : Bool := isBlank c || c = '@' || c = '.' || c = '<' || c = '>'

/-- Whether lower-casing keeps a character wherever it stands. -/
def isSmall (c : Char) : Bool := c ≠ 'Σ' && lowerChar c = [c]

/-! ### Combs of code points -/

/-- The code points `first`, `first + step`, and so on up to `last`. -/
structure Comb where
  first : Nat
  last : Nat
  step : Nat

namespace Comb

/-- Whether `n` is one of the code points. -/
def Has (s : Comb) (n : Nat) : Prop := s.first ≤ n ∧ n ≤ s.last ∧ (n - s.first) % s.step = 0

/-- A test for two combs without a common code point: one ends before the other starts, or they
take every other code point in turn. -/
def apart (s t : Comb) : Bool :=
  Nat.blt s.last t.first || Nat.blt t.last s.first
    || (Nat.beq t.step 2 && (Nat.beq s.step 2 || Nat.beq s.first s.last)
        && Nat.beq ((s.first + t.first) % 2) 1)

theorem not_has_of_apart {s t : Comb} (h : s.apart t = true) {n : Nat} (hs : s.Has n) :
    ¬ t.Has n := by
  rintro ⟨ht₁, ht₂, ht₃⟩
  obtain ⟨hs₁, hs₂, hs₃⟩ := hs
  simp only [apart, Bool.or_eq_true, Bool.and_eq_true, Nat.blt_eq, Nat.beq_eq] at h
  rcases h with (h | h) | ⟨⟨hstep, hpar⟩, hodd⟩
  · omega
  · omega
  · rw [hstep] at ht₃
    rcases hpar with hpar | hpar
    · rw [hpar] at hs₃
      omega
    · omega

end Comb

/-- The capital letters of a run. -/
def CapitalRun.capitals (run : CapitalRun) : Comb := ⟨run.first, run.last, run.step⟩

/-- The small letters of a run. -/
def CapitalRun.smalls (run : CapitalRun) : Comb :=
  ⟨(run.first + run.shift).toNat, (run.last + run.shift).toNat, run.step⟩

theorem shiftOf_eq_some {runs : List CapitalRun} {n : Nat} {shift : Int}
    (h : shiftOf runs n = some shift) : ∃ run ∈ runs, run.capitals.Has n ∧ run.shift = shift := by
  induction runs with
  | nil => cases h
  | cons run rest ih =>
    rw [shiftOf] at h
    split at h
    · cases h
    · next hfirst =>
      split at h
      · next hlast =>
        split at h
        · next hstep =>
          exact ⟨run, List.mem_cons_self, ⟨Nat.not_lt.mp hfirst, hlast, hstep⟩, by simpa using h⟩
        · cases h
      · obtain ⟨other, hmem, hother⟩ := ih h
        exact ⟨other, List.mem_cons_of_mem _ hmem, hother⟩

/-! ### The table of capital letters -/

/-- The code points of the marks. -/
def markCombs : List Comb :=
  [⟨0x9, 0xD, 1⟩, ⟨0x20, 0x20, 1⟩, ⟨0x2E, 0x2E, 1⟩, ⟨0x3C, 0x3C, 1⟩, ⟨0x3E, 0x3E, 1⟩,
    ⟨0x40, 0x40, 1⟩, ⟨0x85, 0x85, 1⟩, ⟨0xA0, 0xA0, 1⟩, ⟨0x1680, 0x1680, 1⟩, ⟨0x2000, 0x200A, 1⟩,
    ⟨0x2028, 0x2029, 1⟩, ⟨0x202F, 0x202F, 1⟩, ⟨0x205F, 0x205F, 1⟩, ⟨0x3000, 0x3000, 1⟩]

/-- The code point of `İ`, whose small form takes two characters. -/
def dottedComb : Comb := ⟨0x130, 0x130, 1⟩

theorem exists_markComb {c : Char} (h : isMark c = true) : ∃ s ∈ markCombs, s.Has c.toNat := by
  have hcode : ∀ d : Char, c = d → c.toNat = d.toNat := fun _ hd => congrArg _ hd
  simp only [isMark, isBlank, Bool.or_eq_true, Bool.and_eq_true, decide_eq_true_eq,
    beq_iff_eq] at h
  simp only [markCombs, List.mem_cons, List.not_mem_nil, or_false, exists_eq_or_imp,
    exists_eq_left, Comb.Has, Nat.mod_one, and_true]
  rcases h with (((h | h) | h) | h) | h
  · omega
  all_goals
    have := hcode _ h
    simp only [Char.reduceToNat] at this
    omega

/-- Whether the small letters of a run are code points of characters, none of which is a capital
letter, and no mark lies among its letters. -/
def CapitalRun.settles (run : CapitalRun) : Bool :=
  decide (0 ≤ run.first + run.shift)
    && (Nat.blt run.smalls.last 0xD800
        || (Nat.blt 0xDFFF run.smalls.first && Nat.blt run.smalls.last 0x110000))
    && run.smalls.apart dottedComb
    && capitalRuns.all (fun other => run.smalls.apart other.capitals)
    && markCombs.all (fun mark => run.capitals.apart mark && run.smalls.apart mark)

theorem capitalRuns_settle : ∀ run ∈ capitalRuns, run.settles = true :=
  List.all_eq_true.mp (by decide +kernel)

theorem CapitalRun.has_smalls {run : CapitalRun} {n : Nat} (h : run.settles = true)
    (hn : run.capitals.Has n) : run.smalls.Has (n + run.shift).toNat := by
  simp only [settles, Bool.and_eq_true, decide_eq_true_eq] at h
  obtain ⟨hfirst, hlast, hstep⟩ := hn
  simp only [capitals] at hfirst hlast hstep
  have h0 := h.1.1.1.1
  refine ⟨by simp only [smalls]; omega, by simp only [smalls]; omega, ?_⟩
  rw [show (n + run.shift).toNat - run.smalls.first = n - run.first by
    simp only [smalls]; omega]
  exact hstep

theorem CapitalRun.isValidChar {run : CapitalRun} {n : Nat} (h : run.settles = true)
    (hn : run.smalls.Has n) : n.isValidChar := by
  simp only [settles, Bool.and_eq_true, Bool.or_eq_true, Nat.blt_eq] at h
  obtain ⟨hfirst, hlast, -⟩ := hn
  rcases h.1.1.1.2 with h | ⟨h₁, h₂⟩
  · exact .inl (by omega)
  · exact .inr ⟨by omega, by omega⟩

theorem toNat_ofNat_of_isValidChar {n : Nat} (h : n.isValidChar) : (Char.ofNat n).toNat = n := by
  unfold Char.ofNat
  rw [dif_pos h]
  rfl

/-- A character that is no capital letter is kept by lower-casing. -/
theorem isSmall_of_shiftOf_eq_none {c : Char} (hdotted : c ≠ 'İ')
    (h : shiftOf capitalRuns c.toNat = none) : isSmall c = true := by
  have hsigma : c ≠ 'Σ' := by
    rintro rfl
    exact absurd h (by decide +kernel)
  simp [isSmall, lowerChar, hsigma, hdotted, h]

/-- The small letters of a run are kept, and none of them is a mark. -/
theorem CapitalRun.small_of_mem {run : CapitalRun} (hrun : run ∈ capitalRuns) {n : Nat}
    (hn : run.smalls.Has n) :
    isSmall (Char.ofNat n) = true ∧ isMark (Char.ofNat n) = false := by
  have hsettles := capitalRuns_settle run hrun
  have hcode : (Char.ofNat n).toNat = n := toNat_ofNat_of_isValidChar (isValidChar hsettles hn)
  simp only [settles, Bool.and_eq_true, List.all_eq_true] at hsettles
  obtain ⟨⟨⟨-, hdotted⟩, hcapitals⟩, hmarks⟩ := hsettles
  have hshift : shiftOf capitalRuns n = none := by
    refine Option.eq_none_iff_forall_ne_some.mpr fun shift h => ?_
    obtain ⟨other, hother, hhas, -⟩ := shiftOf_eq_some h
    exact Comb.not_has_of_apart (hcapitals other hother) hn hhas
  constructor
  · refine isSmall_of_shiftOf_eq_none (fun h => ?_) (by rw [hcode]; exact hshift)
    refine Comb.not_has_of_apart hdotted hn ?_
    rw [← hcode, h]
    exact ⟨by decide, by decide, by decide⟩
  · refine Bool.eq_false_iff.mpr fun h => ?_
    obtain ⟨mark, hmem, hmark⟩ := exists_markComb h
    rw [hcode] at hmark
    exact Comb.not_has_of_apart (hmarks mark hmem).2 hn hmark

/-! ### One letter -/

theorem isSmall_of_isMark {c : Char} (h : isMark c = true) : isSmall c = true := by
  obtain ⟨mark, hmem, hmark⟩ := exists_markComb h
  refine isSmall_of_shiftOf_eq_none (by rintro rfl; exact absurd h (by decide)) ?_
  refine Option.eq_none_iff_forall_ne_some.mpr fun shift hshift => ?_
  obtain ⟨run, hrun, hhas, -⟩ := shiftOf_eq_some hshift
  have hsettles := capitalRuns_settle run hrun
  simp only [CapitalRun.settles, Bool.and_eq_true, List.all_eq_true] at hsettles
  exact Comb.not_has_of_apart (hsettles.2 mark hmem).1 hhas hmark

theorem lowerAt_of_isSmall {c : Char} (h : isSmall c = true) (before after : List Char) :
    lowerAt before c after = [c] := by
  simp only [isSmall, Bool.and_eq_true, decide_eq_true_eq] at h
  rw [lowerAt, if_neg h.1, h.2]

/-- What becomes of a character is kept, and it is a mark only if the character is that mark. -/
theorem settled_of_mem_lowerAt {before after : List Char} {c d : Char}
    (h : d ∈ lowerAt before c after) : isSmall d = true ∧ (isMark d = true → d = c) := by
  rw [lowerAt] at h
  split at h
  · have hd : d = 'ς' ∨ d = 'σ' := by
      split at h
      · exact .inl (List.mem_singleton.mp h)
      · exact .inr (List.mem_singleton.mp h)
    rcases hd with rfl | rfl <;> exact ⟨by decide +kernel, fun hm => absurd hm (by decide)⟩
  · next hsigma =>
    rw [lowerChar] at h
    split at h
    · have hd : d = 'i' ∨ d = '\u0307' := by simpa using h
      rcases hd with rfl | rfl <;> exact ⟨by decide +kernel, fun hm => absurd hm (by decide)⟩
    · next hdotted =>
      split at h
      · next shift hshift =>
        obtain ⟨run, hrun, hhas, rfl⟩ := shiftOf_eq_some hshift
        obtain ⟨hsmall, hmark⟩ := run.small_of_mem hrun
          (CapitalRun.has_smalls (capitalRuns_settle run hrun) hhas)
        rw [List.mem_singleton.mp h]
        exact ⟨hsmall, fun hm => absurd hm (by simp [hmark])⟩
      · next hshift =>
        rw [List.mem_singleton.mp h]
        exact ⟨isSmall_of_shiftOf_eq_none hdotted hshift, fun _ => rfl⟩

theorem lowerAt_ne_nil (before : List Char) (c : Char) (after : List Char) :
    lowerAt before c after ≠ [] := by
  rw [lowerAt, lowerChar]
  split
  · simp
  · split
    · simp
    · split <;> simp

/-! ### A whole text -/

theorem isSmall_of_mem_lowerAfter {before cs : List Char} {d : Char}
    (h : d ∈ lowerAfter before cs) : isSmall d = true := by
  induction cs generalizing before with
  | nil => cases h
  | cons c rest ih =>
    rw [lowerAfter_cons, List.mem_append] at h
    rcases h with h | h
    · exact (settled_of_mem_lowerAt h).1
    · exact ih h

theorem isSmall_of_mem_lowerChars {cs : List Char} {d : Char} (h : d ∈ lowerChars cs) :
    isSmall d = true := isSmall_of_mem_lowerAfter h

theorem lowerAfter_of_isSmall {cs : List Char} (h : ∀ c ∈ cs, isSmall c = true)
    (before : List Char) : lowerAfter before cs = cs := by
  induction cs generalizing before with
  | nil => rfl
  | cons c rest ih =>
    rw [lowerAfter_cons, lowerAt_of_isSmall (h c List.mem_cons_self),
      ih fun d hd => h d (List.mem_cons_of_mem c hd)]
    rfl

/-- A text in small letters is kept. -/
theorem lowerChars_of_isSmall {cs : List Char} (h : ∀ c ∈ cs, isSmall c = true) :
    lowerChars cs = cs := lowerAfter_of_isSmall h []

/-- **Lower-casing a second time changes nothing.** -/
@[simp] theorem lowerChars_lowerChars (cs : List Char) :
    lowerChars (lowerChars cs) = lowerChars cs :=
  lowerChars_of_isSmall fun _ => isSmall_of_mem_lowerChars

theorem filter_lowerAfter {p : Char → Bool} (hp : ∀ c, p c = true → isMark c = true)
    (before cs : List Char) : (lowerAfter before cs).filter p = cs.filter p := by
  induction cs generalizing before with
  | nil => rfl
  | cons c rest ih =>
    rw [lowerAfter_cons, List.filter_append, ih]
    by_cases hc : p c = true
    · -- a mark is kept
      rw [lowerAt_of_isSmall (isSmall_of_isMark (hp c hc)), ← List.filter_append]
      rfl
    · -- and nothing else becomes one
      have hnone : (lowerAt before c rest).filter p = [] := by
        refine List.filter_eq_nil_iff.mpr fun d hd hpd => hc ?_
        exact (settled_of_mem_lowerAt hd).2 (hp d hpd) ▸ hpd
      rw [hnone, List.filter_cons_of_neg hc]
      rfl

/-- **The marks stay the same, in number and order.** -/
theorem filter_lowerChars {p : Char → Bool} (hp : ∀ c, p c = true → isMark c = true)
    (cs : List Char) : (lowerChars cs).filter p = cs.filter p := filter_lowerAfter hp [] cs

theorem mem_of_mem_lowerChars {cs : List Char} {d : Char} (h : d ∈ lowerChars cs)
    (hd : isMark d = true) : d ∈ cs := by
  have hmem : d ∈ (lowerChars cs).filter isMark := List.mem_filter.mpr ⟨h, hd⟩
  rw [filter_lowerChars fun _ => id] at hmem
  exact (List.mem_filter.mp hmem).1

theorem lowerChars_ne_nil {cs : List Char} (h : cs ≠ []) : lowerChars cs ≠ [] := by
  obtain ⟨c, rest, rfl⟩ := List.exists_cons_of_ne_nil h
  rw [lowerChars, lowerAfter_cons]
  exact List.append_ne_nil_of_left_ne_nil (lowerAt_ne_nil [] c rest) _

theorem head_lowerChars_of_isMark {cs : List Char} {d : Char} (h : d ∈ (lowerChars cs).head?)
    (hd : isMark d = true) : d ∈ cs.head? := by
  cases cs with
  | nil => cases h
  | cons c rest =>
    rw [lowerChars, lowerAfter_cons] at h
    obtain ⟨a, small, ha⟩ := List.exists_cons_of_ne_nil (lowerAt_ne_nil [] c rest)
    rw [ha] at h
    have hmem : d ∈ lowerAt [] c rest := by
      rw [ha, ← Option.some_inj.mp h]
      exact List.mem_cons_self
    exact congrArg some ((settled_of_mem_lowerAt hmem).2 hd).symm

theorem last_lowerAfter_of_isMark {before cs : List Char} {d : Char}
    (h : d ∈ (lowerAfter before cs).getLast?) (hd : isMark d = true) : d ∈ cs.getLast? := by
  induction cs generalizing before with
  | nil => cases h
  | cons c rest ih =>
    rw [lowerAfter_cons, List.getLast?_append] at h
    cases hrest : (lowerAfter (c :: before) rest).getLast? with
    | none =>
      have hnil : rest = [] := by
        cases rest with
        | nil => rfl
        | cons e rest =>
          rw [lowerAfter_cons, List.getLast?_eq_none_iff, List.append_eq_nil_iff] at hrest
          exact absurd hrest.1 (lowerAt_ne_nil _ _ _)
      rw [hrest] at h
      subst hnil
      have hmem := List.mem_of_getLast? (show (lowerAt before c []).getLast? = some d from h)
      exact congrArg some ((settled_of_mem_lowerAt hmem).2 hd).symm
    | some e =>
      rw [hrest] at h
      have hlast := @ih (c :: before) (by rw [hrest]; exact h)
      rw [List.getLast?_cons, Option.mem_def.mp hlast]
      rfl

/-- Small letters at the end of a text are kept, and no mark comes up before them that was not
there. -/
theorem exists_lowerAfter_append {back : List Char} (hback : ∀ c ∈ back, isSmall c = true)
    (before front : List Char) :
    ∃ small, lowerAfter before (front ++ back) = small ++ back
      ∧ ∀ d ∈ small, isMark d = true → d ∈ front := by
  induction front generalizing before with
  | nil =>
    exact ⟨[], lowerAfter_of_isSmall hback before, fun _ hd => absurd hd List.not_mem_nil⟩
  | cons c rest ih =>
    obtain ⟨small, hsmall, hmarks⟩ := ih (c :: before)
    refine ⟨lowerAt before c (rest ++ back) ++ small, ?_, fun d hd hmark => ?_⟩
    · rw [List.cons_append, lowerAfter_cons, hsmall, List.append_assoc]
    · rcases List.mem_append.mp hd with hd | hd
      · rw [(settled_of_mem_lowerAt hd).2 hmark]
        exact List.mem_cons_self
      · exact List.mem_cons_of_mem c (hmarks d hd hmark)

/-! ### What stands around a text -/

theorem meetsCased_cons_congr {before before' : List Char} (c : Char)
    (h : meetsCased before = meetsCased before') :
    meetsCased (c :: before) = meetsCased (c :: before') := by
  rw [meetsCased, meetsCased, h]

/-- Characters across which no cased one is met do not show from the other side of a text. -/
theorem meetsCased_append {back : List Char} (h : meetsCased back = false) (front : List Char) :
    meetsCased (front ++ back) = meetsCased front := by
  induction front with
  | nil => exact h
  | cons c rest ih => rw [List.cons_append, meetsCased, meetsCased, ih]

/-- Of the characters before a text it only matters whether a cased one is met among them. -/
theorem lowerAfter_eq_of_meetsCased {before before' : List Char}
    (h : meetsCased before = meetsCased before') (cs : List Char) :
    lowerAfter before cs = lowerAfter before' cs := by
  induction cs generalizing before before' with
  | nil => rfl
  | cons c rest ih =>
    have hat : lowerAt before c rest = lowerAt before' c rest := by
      rw [lowerAt, lowerAt, endsWord, endsWord, h]
    rw [lowerAfter_cons, lowerAfter_cons, hat, ih (meetsCased_cons_congr c h)]

/-- A text is lower-cased without what follows it when no cased character is met there. -/
theorem lowerAfter_append {back : List Char} (h : meetsCased back = false)
    (before front : List Char) :
    lowerAfter before (front ++ back)
      = lowerAfter before front ++ lowerAfter (front.reverse ++ before) back := by
  induction front generalizing before with
  | nil => rfl
  | cons c rest ih =>
    have hat : lowerAt before c (rest ++ back) = lowerAt before c rest := by
      rw [lowerAt, lowerAt, endsWord, endsWord, meetsCased_append h]
    rw [List.cons_append, lowerAfter_cons, lowerAfter_cons, hat, ih, List.append_assoc,
      List.reverse_cons, List.append_assoc, List.singleton_append]

/-- Nothing is met from either side of an `@`. -/
theorem meetsCased_at (cs : List Char) : meetsCased ('@' :: cs) = false := by
  rw [meetsCased, if_neg (by decide +kernel)]
  decide +kernel

/-- **An `@` keeps its two sides apart**: each of them is lower-cased as if it stood alone. -/
theorem lowerChars_append_at (front back : List Char) :
    lowerChars (front ++ '@' :: back) = lowerChars front ++ '@' :: lowerChars back := by
  have hback : meetsCased ('@' :: front.reverse) = meetsCased [] := meetsCased_at front.reverse
  rw [lowerChars, lowerAfter_append (meetsCased_at back), List.append_nil, lowerAfter_cons,
    lowerAt_of_isSmall (isSmall_of_isMark (by decide)), lowerAfter_eq_of_meetsCased hback]
  rfl

/-- An `@` or `.` in front of a text leaves it as it is lower-cased alone: an `@` stops the search
for a cased character, and the search looks past a `.` to find none. -/
theorem lowerChars_cons_lead {c : Char} (h : c = '@' ∨ c = '.') (cs : List Char) :
    lowerChars (c :: cs) = c :: lowerChars cs := by
  have hmark : isMark c = true := by rcases h with rfl | rfl <;> decide
  have hmeets : meetsCased [c] = meetsCased [] := by rcases h with rfl | rfl <;> decide +kernel
  rw [lowerChars, lowerAfter_cons, lowerAt_of_isSmall (isSmall_of_isMark hmark),
    lowerAfter_eq_of_meetsCased hmeets]
  rfl

/-- A trimmed text is trimmed in small letters, too. -/
theorem Trimmed.lowerChars {cs : List Char} (h : Trimmed cs) : Trimmed (lowerChars cs) := by
  have hblank : ∀ d : Char, isBlank d = true → isMark d = true := fun d hd => by simp [isMark, hd]
  refine ⟨fun d hd => Bool.eq_false_iff.mpr fun hb => ?_,
    fun d hd => Bool.eq_false_iff.mpr fun hb => ?_⟩
  · exact absurd hb (by simp [h.head d (head_lowerChars_of_isMark hd (hblank d hb))])
  · exact absurd hb (by simp [h.last d (last_lowerAfter_of_isMark hd (hblank d hb))])

end MailTriage.Text
