import MailTriage.Json.Texts
import MailTriage.Proofs.Json.Compact

/-! # A list of texts read back

The reader for arrays of texts takes back what was written for them, whatever the texts hold
(`readTexts_ofTexts`).
-/
namespace MailTriage.Json

theorem textItem_quoted (s : String) (rest : List Char) :
    textItem (quoted s ++ rest) = .ok (s, rest) := by
  have hquoted : quoted s ++ rest = '"' :: (s.toList.flatMap escaped ++ '"' :: rest) := by
    simp [quoted]
  rw [hquoted, textItem, skipGap_cons rfl]
  simp only [textBody_quoted, bind, Except.bind]
  rw [Option.getD_some, String.ofList_toList]
  rfl

/-- One text and a comma are read, then the other texts. -/
theorem textItems_comma (s : String) (next : Json) (more : List Json) (fuel : Nat)
    (rest : List Char) :
    textItems (fuel + 1) (compactItems (.text s :: next :: more) ++ ']' :: rest)
      = (textItems fuel (compactItems (next :: more) ++ ']' :: rest)).map
        fun (texts, left) => (s :: texts, left) := by
  obtain ⟨c, cs, heq, hc⟩ := exists_cons_compactItems next more
  obtain ⟨hgap, hbracket, -⟩ := startsValue_spec hc
  have hcomma : ∀ left, skipGap (',' :: left) = ',' :: left := fun left => skipGap_cons rfl left
  rw [compactItems_cons_cons, List.append_assoc, List.cons_append, textItems]
  rw [show (Json.text s).compactChars = quoted s from rfl, textItem_quoted]
  simp only [bind, Except.bind, hcomma, heq, List.cons_append, skipGap_cons hgap]
  split
  · next heq => cases heq
  · next heq => exact absurd (List.cons.inj heq).1 hbracket
  · rfl

/-- The texts of an array read back, up to and with its closing bracket. -/
theorem textItems_compactItems (s : String) (more : List String) (fuel : Nat) (rest : List Char)
    (h : more.length < fuel) :
    textItems fuel (compactItems ((s :: more).map .text) ++ ']' :: rest)
      = .ok (s :: more, rest) := by
  induction more generalizing s fuel with
  | nil =>
    obtain ⟨fuel, rfl⟩ := Nat.exists_eq_succ_of_ne_zero (Nat.ne_of_gt h)
    rw [List.map_singleton, compactItems, textItems]
    rw [show (Json.text s).compactChars = quoted s from rfl, textItem_quoted]
    rfl
  | cons next more ih =>
    obtain ⟨fuel, rfl⟩ := Nat.exists_eq_succ_of_ne_zero (Nat.ne_of_gt (Nat.zero_lt_of_lt h))
    rw [List.map_cons, List.map_cons, textItems_comma, ← List.map_cons,
      ih next fuel (Nat.lt_of_succ_lt_succ h)]
    rfl

theorem length_le_length_compactItems (items : List Json) :
    items.length ≤ (compactItems items).length + 1 := by
  induction items with
  | nil => exact Nat.zero_le _
  | cons item rest ih =>
    cases rest with
    | nil => exact Nat.succ_le_succ (Nat.zero_le _)
    | cons next more =>
      simp only [compactItems_cons_cons, List.length_append, List.length_cons] at ih ⊢
      omega

/-- **A list of texts reads back as it was.** -/
theorem readTexts_ofTexts (texts : List String) :
    readTexts (ofTexts texts).compact = .ok texts := by
  have hread : textArray (ofTexts texts).compactChars = .ok (texts, []) := by
    rw [ofTexts, compactChars, List.cons_append, textArray, skipGap_cons rfl]
    cases texts with
    | nil => rfl
    | cons s more =>
      -- the reader looks for a closing bracket first, so the first character has to be known
      obtain ⟨c, cs, heq, hc⟩ := exists_cons_compactItems (.text s) (more.map .text)
      obtain ⟨hgap, hbracket, -⟩ := startsValue_spec hc
      have hopen : skipGap (compactItems ((s :: more).map .text) ++ [']'])
          = compactItems ((s :: more).map .text) ++ [']'] := by
        rw [List.map_cons, heq]
        exact skipGap_cons hgap _
      have hfuel := length_le_length_compactItems ((s :: more).map .text)
      rw [List.length_map, List.length_cons] at hfuel
      simp only [hopen]
      split
      · next hnil => rw [List.map_cons, heq] at hnil; cases hnil
      · next hclose =>
        rw [List.map_cons, heq] at hclose
        exact absurd (List.cons.inj hclose).1 hbracket
      · refine textItems_compactItems s more _ [] ?_
        rw [List.length_append, List.length_singleton]
        omega
  rw [readTexts, readWhole]
  rw [show (ofTexts texts).compact.toList = (ofTexts texts).compactChars from String.toList_ofList]
  simp only [bind, Except.bind, hread]
  rfl

end MailTriage.Json
