import MailTriage.Proofs.Address

/-! # Display names

An address in angle brackets is read as if it stood alone, whatever display name comes before it
(`normalizeChars_wrapped`): the `>` at the end is the last one of the header, the `<` before the
address is the last one before that, and the blanks around the address go with the second trimming.
A `>` inside the address would not matter, a `<` would.  Together with `Sender.parse?_email` this
makes reading a sender a retraction onto the addresses in normal form.
-/
namespace MailTriage
namespace Address

/-- What stands between the last `<` and a `>` that ends the text. -/
theorem unwrapChars_wrapped (name : List Char) {address : List Char} (hopen : '<' ∉ address) :
    unwrapChars (name ++ ('<' :: address ++ ['>'])) = address := by
  have hclose : Text.cutLast '>' (name ++ ('<' :: address ++ ['>']))
      = some (name ++ '<' :: address, []) := by
    rw [← List.append_assoc]
    exact Text.cutLast_append _ List.not_mem_nil
  rw [unwrapChars, hclose]
  simp only [List.not_mem_nil, if_false, Text.cutLast_append name hopen]

/-- An address that stands alone is only trimmed and lower-cased. -/
theorem normalizeChars_of_open_not_mem {address : List Char} (hopen : '<' ∉ address) :
    normalizeChars address = Text.lowerChars (Text.trimChars address) := by
  have hbare : Bare (Text.trimChars address) :=
    bare_of_open_not_mem fun hmem => hopen ((Text.trimChars_isInfix address).mem hmem)
  rw [normalizeChars, unwrapChars_of_bare hbare, Text.trimChars_trimChars]

/-- A display name, brackets around the address and blanks after them change nothing. -/
theorem normalizeChars_wrapped (name : List Char) {address blanks : List Char}
    (hopen : '<' ∉ address) (hblanks : ∀ c ∈ blanks, Text.isBlank c = true) :
    normalizeChars (name ++ ('<' :: address ++ ['>']) ++ blanks) = normalizeChars address := by
  have htrimmed : Text.Trimmed ('<' :: address ++ ['>']) := by
    refine ⟨fun c hc => ?_, fun c hc => ?_⟩
    · obtain rfl : '<' = c := Option.some_inj.mp hc
      decide
    · rw [List.getLast?_append] at hc
      obtain rfl : '>' = c := Option.some_inj.mp hc
      decide
  rw [normalizeChars, Text.trimChars_around name htrimmed (List.cons_ne_nil _ _) hblanks,
    unwrapChars_wrapped _ hopen, normalizeChars_of_open_not_mem hopen]

end Address

open Address

namespace Sender

/-- Senders are read off the normal form of the text alone. -/
theorem parse?_congr {text text' : String}
    (h : normalizeChars text.toList = normalizeChars text'.toList) : parse? text = parse? text' := by
  rw [parse?, parse?, normalizeEmail, normalizeEmail, h]

/-- An address that stands alone and has a domain is read. -/
theorem parse?_of_lower_trim {text user domain : String} (hopen : '<' ∉ text.toList)
    (hemail : Text.lower (Text.trim text) = user ++ "@" ++ domain) (hne : domain ≠ "")
    (hat : '@' ∉ domain.toList) :
    parse? text = some ⟨user ++ "@" ++ domain, domain⟩ := by
  have hnormal : String.ofList (normalizeChars text.toList) = user ++ "@" ++ domain := by
    rw [normalizeChars_of_open_not_mem hopen, ← hemail, ← String.toList_inj, String.toList_ofList,
      Text.toList_lower, Text.toList_trim]
  have hdomain : extractDomain (user ++ "@" ++ domain) = some domain :=
    extractDomain_eq_some_iff.mpr ⟨hne, hat, user.toList, by simp⟩
  refine parse?_eq_some_iff.mpr ⟨?_, hdomain⟩
  simp only [normalizeEmail, hnormal, hdomain, Option.isSome_some, if_true]

/-- **Reading a sender is a retraction.**  The address of a sender that was read is trimmed, in small
letters, ends in the domain behind its last `@`, and is read as the same sender again.  And an
address may stand in angle brackets behind any display name, blanks in front of it included, with
blanks after it; if it has a domain, it is read. -/
theorem parse?_retraction (text : String) :
    (∀ s, parse? text = some s →
      parse? s.email = some s
        ∧ Text.trim s.email = s.email ∧ Text.lower s.email = s.email
        ∧ s.domain ≠ "" ∧ '@' ∉ s.domain.toList ∧ ∃ user, s.email = user ++ "@" ++ s.domain)
      ∧ ('<' ∉ text.toList →
        (∀ name blanks : String, (∀ c ∈ blanks.toList, Text.isBlank c = true) →
          parse? (name ++ "<" ++ text ++ ">" ++ blanks) = parse? text)
        ∧ ∀ user domain, Text.lower (Text.trim text) = user ++ "@" ++ domain → domain ≠ "" →
          '@' ∉ domain.toList → parse? text = some ⟨user ++ "@" ++ domain, domain⟩) := by
  constructor
  · intro s hs
    have hnormal := normal_email hs
    obtain ⟨hne, hat, front, hfront⟩ := extractDomain_eq_some_iff.mp (extractDomain_email hs)
    refine ⟨parse?_email hs, ?_, ?_, hne, hat, String.ofList front, ?_⟩
    · rw [← String.toList_inj, Text.toList_trim, Text.trimChars_of_trimmed hnormal.trimmed]
    · rw [← String.toList_inj, Text.toList_lower, Text.lowerChars_of_isSmall hnormal.small]
    · rw [← String.toList_inj, hfront]
      simp
  · intro hopen
    refine ⟨fun name blanks hblanks => parse?_congr ?_,
      fun user domain hemail hne hat => parse?_of_lower_trim hopen hemail hne hat⟩
    rw [← normalizeChars_wrapped name.toList hopen hblanks]
    simp

/-- A display name with angle brackets of its own, capital letters and blanks on all sides. -/
theorem parse?_retraction_news :
    parse? "  Ann <Bob>  <\tNews@Shop.IO > " = some ⟨"news@shop.io", "shop.io"⟩
      ∧ parse? "news@shop.io" = some ⟨"news@shop.io", "shop.io"⟩ := by
  obtain ⟨hwrapped, halone⟩ := (parse?_retraction "\tNews@Shop.IO ").2 (by decide)
  have hnews := halone "news" "shop.io" (by decide +kernel) (by decide) (by decide)
  exact ⟨(hwrapped "  Ann <Bob>  " " " (List.all_eq_true.mp rfl)).trans hnews,
    ((parse?_retraction _).1 _ hnews).1⟩

end Sender
end MailTriage
