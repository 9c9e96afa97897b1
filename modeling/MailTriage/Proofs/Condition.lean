import MailTriage.Condition
import MailTriage.Proofs.Domain

/-! # Normal forms of conditions

The address of a condition has a normal form that stays (`normalized_normalized_email`).  Its domain
has not: a condition in normal form is one again exactly when its domain, if it has one, starts with
no `@`, `.` or blank (`normalized_normalized_iff`).
-/
namespace MailTriage

theorem Text.lower_trim_lower_trim (s : String) :
    lower (trim (lower (trim s))) = lower (trim s) := by
  rw [← String.toList_inj]
  simp only [toList_lower, toList_trim]
  rw [trimChars_of_trimmed (trimmed_trimChars _).lowerChars, lowerChars_lowerChars]

namespace Condition

theorem nonempty?_eq_some_iff {s t : String} : nonempty? s = some t ↔ s = t ∧ t ≠ "" := by
  rw [nonempty?]
  split
  · next h =>
    refine iff_of_false nofun ?_
    rintro ⟨rfl, hne⟩
    exact hne h
  · next h =>
    rw [Option.some_inj]
    constructor
    · rintro rfl
      exact ⟨rfl, h⟩
    · rintro ⟨rfl, -⟩
      rfl

theorem normalized_email_eq_some_iff {c : Condition} {email : String} :
    c.normalized.email = some email
      ↔ ∃ text, c.email = some text ∧ Text.lower (Text.trim text) = email ∧ email ≠ "" := by
  show c.email.bind _ = _ ↔ _
  rw [Option.bind_eq_some_iff]
  exact exists_congr fun text => and_congr_right fun _ => nonempty?_eq_some_iff

theorem normalized_domain_eq_some_iff {c : Condition} {domain : String} :
    c.normalized.domain = some domain
      ↔ ∃ text, c.domain = some text ∧ normalizeDomain text = domain ∧ domain ≠ "" := by
  show c.domain.bind _ = _ ↔ _
  rw [Option.bind_eq_some_iff]
  exact exists_congr fun text => and_congr_right fun _ => nonempty?_eq_some_iff

theorem normalized_normalized_email (c : Condition) :
    c.normalized.normalized.email = c.normalized.email := by
  refine Option.ext fun email => ?_
  rw [normalized_email_eq_some_iff]
  constructor
  · rintro ⟨text, htext, rfl, -⟩
    obtain ⟨written, -, rfl, -⟩ := normalized_email_eq_some_iff.mp htext
    rw [htext, Text.lower_trim_lower_trim]
  · intro h
    obtain ⟨written, -, rfl, hne⟩ := normalized_email_eq_some_iff.mp h
    exact ⟨_, h, Text.lower_trim_lower_trim written, hne⟩

/-- **A normal form is kept exactly when its domain starts with no `@`, `.` or blank.** -/
theorem normalized_normalized_iff (c : Condition) :
    c.normalized.normalized = c.normalized ↔ ∀ domain ∈ c.normalized.domain, StartsFirm domain := by
  constructor
  · intro h domain hdomain
    obtain ⟨text, -, rfl, -⟩ := normalized_domain_eq_some_iff.mp hdomain
    have hagain : c.normalized.normalized.domain = some (normalizeDomain text) := by
      rw [h]
      exact hdomain
    obtain ⟨text', htext', heq, -⟩ := normalized_domain_eq_some_iff.mp hagain
    rw [Option.some_inj.mp (htext'.symm.trans hdomain)] at heq
    exact (normalizeDomain_normalizeDomain_iff text).mp heq
  · intro h
    have hdomain : c.normalized.normalized.domain = c.normalized.domain := by
      cases hc : c.normalized.domain with
      | none =>
        show c.normalized.domain.bind _ = none
        rw [hc]
        rfl
      | some domain =>
        obtain ⟨text, -, rfl, hne⟩ := normalized_domain_eq_some_iff.mp hc
        exact normalized_domain_eq_some_iff.mpr
          ⟨_, hc, (normalizeDomain_normalizeDomain_iff text).mpr (h _ hc), hne⟩
    exact Condition.mk.injEq .. |>.mpr ⟨c.normalized_normalized_email, hdomain⟩

end Condition
end MailTriage
