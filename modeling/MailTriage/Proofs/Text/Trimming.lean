import MailTriage.Text.Split

/-! # Trimmed texts

Trimming gives a text that has no blank at either end (`trimmed_trimChars`), and such a text is
kept (`trimChars_of_trimmed`).  All later facts about trimming go through these two.
-/
namespace MailTriage.Text

/-- Neither end of the text is blank. -/
structure Trimmed (cs : List Char) : Prop where
  head : ∀ c ∈ cs.head?, isBlank c = false
  last : ∀ c ∈ cs.getLast?, isBlank c = false

/-- What is left of a trimmed text after some of its first characters still ends well. -/
theorem Trimmed.last_of_suffix {cs ds : List Char} (h : Trimmed cs) (hs : ds <:+ cs) :
    ∀ c ∈ ds.getLast?, isBlank c = false := by
  obtain ⟨front, rfl⟩ := hs
  intro c hc
  refine h.last c ?_
  rw [List.getLast?_append, Option.mem_def.mp hc]
  rfl

theorem trimStart_of_head {cs : List Char} (h : ∀ c ∈ cs.head?, isBlank c = false) :
    trimStart cs = cs := by
  cases cs with
  | nil => rfl
  | cons c rest => exact List.dropWhile_cons_of_neg (by simp [h c rfl])

theorem head_trimStart (cs : List Char) : ∀ c ∈ (trimStart cs).head?, isBlank c = false := by
  intro c hc
  have h := List.head?_dropWhile_not isBlank cs
  rw [show cs.dropWhile isBlank = trimStart cs from rfl, Option.mem_def.mp hc] at h
  simpa using h

/-- Trimming the end is trimming the start of the reversed text. -/
theorem reverse_trimEnd (cs : List Char) : (trimEnd cs).reverse = trimStart cs.reverse := by
  rw [trimEnd, List.reverse_reverse, trimStart]

theorem trimEnd_isPrefix (cs : List Char) : trimEnd cs <+: cs := by
  rw [← List.reverse_suffix, reverse_trimEnd]
  exact List.dropWhile_suffix _

theorem last_trimEnd (cs : List Char) : ∀ c ∈ (trimEnd cs).getLast?, isBlank c = false := by
  rw [← List.head?_reverse, reverse_trimEnd]
  exact head_trimStart cs.reverse

theorem trimmed_trimChars (cs : List Char) : Trimmed (trimChars cs) := by
  refine ⟨fun c hc => ?_, last_trimEnd _⟩
  obtain ⟨back, hb⟩ := trimEnd_isPrefix (trimStart cs)
  refine head_trimStart cs c ?_
  rw [← hb, List.head?_append, show (trimEnd (trimStart cs)).head? = some c from hc]
  rfl

theorem trimChars_of_trimmed {cs : List Char} (h : Trimmed cs) : trimChars cs = cs := by
  have hend : trimEnd cs = cs := by
    rw [← List.reverse_inj, reverse_trimEnd]
    exact trimStart_of_head (by rw [List.head?_reverse]; exact h.last)
  rw [trimChars, trimStart_of_head h.head, hend]

theorem trimStart_of_blank {cs : List Char} (h : ∀ c ∈ cs, isBlank c = true) :
    trimStart cs = [] := by
  have hdrop : (cs ++ []).dropWhile isBlank = [] := List.dropWhile_append_of_pos h
  rwa [List.append_nil] at hdrop

/-- A part of a text that is trimmed itself keeps blanks inside the text from being trimmed. -/
theorem trimChars_around {cs back : List Char} (front : List Char) (h : Trimmed cs) (hne : cs ≠ [])
    (hback : ∀ c ∈ back, isBlank c = true) :
    trimChars (front ++ cs ++ back) = trimStart front ++ cs := by
  have hhead : ∀ c ∈ (cs ++ back).head?, isBlank c = false := by
    obtain ⟨c, rest, rfl⟩ := List.exists_cons_of_ne_nil hne
    exact h.head
  have hstart : trimStart (front ++ cs ++ back) = trimStart front ++ (cs ++ back) := by
    rw [List.append_assoc, trimStart, List.dropWhile_append, trimStart]
    split
    · next hnil =>
      rw [List.isEmpty_iff.mp hnil, List.nil_append]
      exact trimStart_of_head hhead
    · rfl
  have hlast : ∀ c ∈ (trimStart front ++ cs).reverse.head?, isBlank c = false := by
    obtain ⟨c, hc⟩ := Option.isSome_iff_exists.mp (List.getLast?_isSome.mpr hne)
    rw [List.head?_reverse, List.getLast?_append, hc]
    exact fun d hd => h.last d (by rw [hc]; exact hd)
  rw [trimChars, hstart, ← List.append_assoc, ← List.reverse_inj, reverse_trimEnd,
    List.reverse_append, trimStart, List.dropWhile_append_of_pos (by simpa using hback)]
  exact trimStart_of_head hlast

/-- The trimmed texts are those that trimming keeps. -/
@[simp] theorem trimChars_trimChars (cs : List Char) : trimChars (trimChars cs) = trimChars cs :=
  trimChars_of_trimmed (trimmed_trimChars cs)

theorem trimChars_isInfix (cs : List Char) : trimChars cs <:+: cs :=
  (trimEnd_isPrefix _).isInfix.trans (List.dropWhile_suffix _).isInfix

/-- A predicate that no blank meets selects the same characters before and after trimming. -/
theorem filter_trimChars {p : Char → Bool} (hp : ∀ c, p c = true → isBlank c = false)
    (cs : List Char) : (trimChars cs).filter p = cs.filter p := by
  have hstart : ∀ ds : List Char, (trimStart ds).filter p = ds.filter p := by
    intro ds
    induction ds with
    | nil => rfl
    | cons d rest ih =>
      by_cases hd : isBlank d
      · have hpd : ¬ p d = true := fun h => absurd hd (by simp [hp d h])
        rw [List.filter_cons_of_neg hpd, ← ih]
        exact congrArg _ (List.dropWhile_cons_of_pos hd)
      · exact congrArg _ (List.dropWhile_cons_of_neg hd)
  have hend : ∀ ds : List Char, (trimEnd ds).filter p = ds.filter p := by
    intro ds
    rw [← List.reverse_inj, ← List.filter_reverse, ← List.filter_reverse, reverse_trimEnd, hstart]
  rw [trimChars, hend, hstart]

end MailTriage.Text
