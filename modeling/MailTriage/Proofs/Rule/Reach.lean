import MailTriage.Proofs.Rule.Decision
import MailTriage.Proofs.Rule.Draft

/-! # Senders that a condition reaches

An accepted condition is dead if it covers no sender.  Validation looks for a domain in the address
that a display name wraps, but the condition that it gives keeps the display name, which no sender's
address has; and it does not look at the domain, which is normalized once more when it is compared.
`Condition.validate_live_iff` says exactly which accepted conditions are dead.
-/
namespace MailTriage

/-! ### Domains of senders -/

/-- A text can be the domain of a sender. -/
def IsSenderDomain (domain : String) : Prop :=
  domain ≠ "" ∧ '@' ∉ domain.toList ∧ Address.Bare domain.toList

theorem isSenderDomain_of_parse? {text : String} {s : Sender} (h : Sender.parse? text = some s) :
    IsSenderDomain s.domain := by
  have hbare := (Sender.normal_email h).bare
  obtain ⟨hne, hat, front, hfront⟩ := extractDomain_eq_some_iff.mp (Sender.extractDomain_email h)
  refine ⟨hne, hat, ?_⟩
  rw [hfront, ← List.singleton_append, ← List.append_assoc] at hbare
  exact hbare.of_append

/-- A normal form that can be the domain of a sender is the domain of one with a given name. -/
theorem parse?_of_isSenderDomain {text : String} (h : IsSenderDomain (normalizeDomain text))
    {name : Char} (hname : name = 'a' ∨ name = 'b') :
    Sender.parse? (String.ofList (name :: '@' :: (normalizeDomain text).toList))
      = some { email := String.ofList (name :: '@' :: (normalizeDomain text).toList)
               domain := normalizeDomain text } := by
  obtain ⟨hne, hat, hbare⟩ := h
  have hname' : Text.isBlank name = false ∧ Text.isSmall name = true ∧ name ≠ '<' ∧ name ≠ '>' := by
    rcases hname with rfl | rfl <;> decide +kernel
  have hnormal : Address.Normal (name :: '@' :: (normalizeDomain text).toList) := by
    have hcs : (normalizeDomain text).toList ≠ [] := fun h => hne (String.toList_eq_nil_iff.mp h)
    refine ⟨⟨fun c hc => ?_, fun c hc => ?_⟩, fun c hc => ?_, ?_⟩
    · cases hc
      exact hname'.1
    · rw [List.getLast?_cons_of_ne_nil (List.cons_ne_nil _ _),
        List.getLast?_cons_of_ne_nil hcs] at hc
      exact last_normalizeDomain text c hc
    · rcases List.mem_cons.mp hc with rfl | hc
      · exact hname'.2.1
      · rcases List.mem_cons.mp hc with rfl | hc
        · decide +kernel
        · exact isSmall_of_mem_normalizeDomain hc
    · exact Address.bare_append_of_not_mem [name, '@'] hbare
        (by simp [Ne.symm hname'.2.2.1]) (by simp [Ne.symm hname'.2.2.2])
  have hdomain : extractDomain (String.ofList (name :: '@' :: (normalizeDomain text).toList))
      = some (normalizeDomain text) :=
    extractDomain_eq_some_iff.mpr ⟨hne, hat, [name], by rw [String.toList_ofList]; rfl⟩
  refine Sender.parse?_eq_some_iff.mpr ⟨?_, hdomain⟩
  exact normalizeEmail_of_normal (by rwa [String.toList_ofList]) hdomain

/-- A condition whose domain can be that of a sender covers some sender through its domain: of two
senders at the domain at most one has the address that the condition names. -/
theorem Condition.exists_sender_of_domain {c : Condition} {domain : String}
    (h : c.normalized.domain = some domain) (hsenders : IsSenderDomain domain) :
    ∃ text sender, Sender.parse? text = some sender ∧ sender.domain = domain
      ∧ c.reason? sender = some .domain := by
  obtain ⟨text, -, rfl, -⟩ := normalized_domain_eq_some_iff.mp h
  have hparse := fun (name : Char) (hname : name = 'a' ∨ name = 'b') =>
    parse?_of_isSenderDomain hsenders hname
  generalize normalizeDomain text = domain at h hparse
  by_cases hemail : c.normalized.email = some (String.ofList ('a' :: '@' :: domain.toList))
  · refine ⟨_, _, hparse 'b' (.inr rfl), rfl, reason?_eq_domain_iff.mpr ⟨?_, h⟩⟩
    rw [hemail]
    intro heq
    have hchars := String.ofList_injective (Option.some_inj.mp heq)
    exact absurd (List.cons.inj hchars).1 (by decide)
  · exact ⟨_, _, hparse 'a' (.inl rfl), rfl, reason?_eq_domain_iff.mpr ⟨hemail, h⟩⟩

/-! ### Normal forms of addresses and display names -/

namespace Address

theorem normalizeChars_of_bare {cs : List Char} (h : Bare cs) :
    normalizeChars cs = Text.lowerChars (Text.trimChars cs) := by
  have hbare : Bare (Text.trimChars cs) := by
    rw [Bare, brackets_trimChars]
    exact h
  rw [normalizeChars, unwrapChars_of_bare hbare,
    Text.trimChars_of_trimmed (Text.trimmed_trimChars cs)]

/-- A trimmed text in small letters has the display names that the text has. -/
theorem bare_lower_trim {text : String} :
    Bare (Text.lower (Text.trim text)).toList ↔ Bare text.toList := by
  rw [Text.toList_lower, Text.toList_trim, Bare, brackets_lowerChars, brackets_trimChars, Bare]

end Address

/-- Without a display name there is nothing to an address but trimming and small letters. -/
theorem normalizeEmail_of_bare {text : String} (h : Address.Bare text.toList)
    (hdomain : (normalizeEmail (Text.lower (Text.trim text))).isSome = true) :
    normalizeEmail text = some (Text.lower (Text.trim text)) := by
  have hnormal : ∀ {t : String}, Address.Bare t.toList →
      String.ofList (Address.normalizeChars t.toList) = Text.lower (Text.trim t) := by
    intro t ht
    rw [Address.normalizeChars_of_bare ht, ← String.toList_inj, String.toList_ofList,
      Text.toList_lower, Text.toList_trim]
  unfold normalizeEmail at hdomain ⊢
  rw [hnormal (Address.bare_lower_trim.mpr h), Text.lower_trim_lower_trim] at hdomain
  rw [hnormal h]
  dsimp only at hdomain ⊢
  split at hdomain
  · next hsome => exact if_pos hsome
  · cases hdomain

/-! ### Accepted conditions -/

namespace Condition

/-- The condition covers the sender that a text names, through its address. -/
def CoversNamed (c : Condition) (text : String) : Prop :=
  ∃ s, Sender.parse? text = some s ∧ c.reason? s = some .email

/-- The condition covers somebody. -/
def Live (c : Condition) : Prop := ∃ text s, Sender.parse? text = some s ∧ c.covers s = true

theorem CoversNamed.live {c : Condition} {text : String} (h : c.CoversNamed text) : c.Live := by
  obtain ⟨s, hparse, hreason⟩ := h
  refine ⟨text, s, hparse, ?_⟩
  unfold covers
  rw [hreason]
  rfl

/-- What is accepted for an address alone is the address, trimmed and in small letters, and there is
an address in it. -/
theorem eq_of_validate_email {text : String} {accepted : Condition}
    (h : ({ email := some text } : Condition).validate = .ok accepted) :
    accepted.normalized.email = some (Text.lower (Text.trim text))
      ∧ accepted.normalized.domain = none
      ∧ (normalizeEmail (Text.lower (Text.trim text))).isSome = true := by
  obtain ⟨rfl, hnonempty, hemail⟩ := validate_eq_ok_iff.mp h
  rw [normalized_normalized_email]
  cases heq : ({ email := some text } : Condition).normalized.email with
  | none =>
    unfold isEmpty at hnonempty
    rw [heq] at hnonempty
    cases hnonempty
  | some email =>
    obtain ⟨_, htext, rfl, -⟩ := normalized_email_eq_some_iff.mp heq
    obtain rfl := Option.some_inj.mp htext
    exact ⟨rfl, rfl, hemail _ heq⟩

/-- A condition that is accepted for an address without a display name covers the sender that the
address names. -/
theorem coversNamed_of_bare {text : String} {accepted : Condition}
    (h : ({ email := some text } : Condition).validate = .ok accepted)
    (hbare : Address.Bare text.toList) : accepted.CoversNamed text := by
  obtain ⟨hemail, -, hdomain⟩ := eq_of_validate_email h
  have hnormal := normalizeEmail_of_bare hbare hdomain
  obtain ⟨-, domain, hextract⟩ := normalizeEmail_eq_some hnormal
  exact ⟨{ email := Text.lower (Text.trim text), domain },
    Sender.parse?_eq_some_iff.mpr ⟨hnormal, hextract⟩, reason?_eq_email_iff.mpr hemail⟩

/-- With a display name it covers nobody: every sender's address is free of one. -/
theorem not_live_of_not_bare {text : String} {accepted : Condition}
    (h : ({ email := some text } : Condition).validate = .ok accepted)
    (hbare : ¬ Address.Bare text.toList) : ¬ accepted.Live := by
  rintro ⟨written, s, hparse, hcovers⟩
  obtain ⟨hemail, hdomain, -⟩ := eq_of_validate_email h
  rcases covers_iff.mp hcovers with hsame | hsame
  · have hs : Text.lower (Text.trim text) = s.email := by
      rw [hemail] at hsame
      exact Option.some_inj.mp hsame
    have hbareEmail := (Sender.normal_email hparse).bare
    rw [← hs] at hbareEmail
    exact hbare (Address.bare_lower_trim.mp hbareEmail)
  · rw [hdomain] at hsame
    cases hsame

/-- What is accepted for a domain alone covers the senders whose domain it is when it has been
normalized once more. -/
theorem live_iff_of_validate_domain {text : String} {accepted : Condition}
    (h : ({ domain := some text } : Condition).validate = .ok accepted) :
    accepted.Live ↔ IsSenderDomain (normalizeDomain (normalizeDomain text)) := by
  obtain ⟨rfl, -, -⟩ := validate_eq_ok_iff.mp h
  constructor
  · rintro ⟨written, s, hparse, hcovers⟩
    rcases covers_iff.mp hcovers with hsame | hsame
    · rw [normalized_normalized_email] at hsame
      cases hsame
    · obtain ⟨_, honce, hs, -⟩ := normalized_domain_eq_some_iff.mp hsame
      obtain ⟨_, htext, rfl, -⟩ := normalized_domain_eq_some_iff.mp honce
      obtain rfl := Option.some_inj.mp htext
      rw [hs]
      exact isSenderDomain_of_parse? hparse
  · intro hsenders
    have hne : normalizeDomain text ≠ "" := by
      intro hempty
      rw [hempty] at hsenders
      exact hsenders.1 normalizeDomain_empty
    have honce : ({ domain := some text } : Condition).normalized.domain
        = some (normalizeDomain text) :=
      normalized_domain_eq_some_iff.mpr ⟨text, rfl, rfl, hne⟩
    have htwice := normalized_domain_eq_some_iff.mpr ⟨_, honce, rfl, hsenders.1⟩
    obtain ⟨written, s, hparse, -, hreason⟩ := exists_sender_of_domain htwice hsenders
    refine ⟨written, s, hparse, ?_⟩
    unfold covers
    rw [hreason]
    rfl

/-- **Which accepted conditions are dead.**  A condition that is accepted for an address alone covers
the sender that the address names, unless there is a display name; then it covers nobody.  A
condition that is accepted for a domain alone covers somebody exactly when the domain, normalized
twice, can be that of a sender. -/
theorem validate_live_iff (text : String) (accepted : Condition) :
    (({ email := some text } : Condition).validate = .ok accepted →
        (accepted.CoversNamed text ↔ Address.Bare text.toList)
          ∧ (accepted.Live ↔ Address.Bare text.toList))
      ∧ (({ domain := some text } : Condition).validate = .ok accepted →
        (accepted.Live ↔ IsSenderDomain (normalizeDomain (normalizeDomain text)))) := by
  refine ⟨fun h => ?_, live_iff_of_validate_domain⟩
  by_cases hbare : Address.Bare text.toList
  · have hcovers := coversNamed_of_bare h hbare
    exact ⟨iff_of_true hcovers hbare, iff_of_true hcovers.live hbare⟩
  · have hdead := not_live_of_not_bare h hbare
    exact ⟨iff_of_false (fun hcovers => hdead hcovers.live) hbare, iff_of_false hdead hbare⟩

/-- An address with capital letters and a domain with a point in front are accepted and cover their
senders. -/
theorem live_vendor :
    ({ email := some "jane@vendor.io" } : Condition).CoversNamed " Jane@Vendor.io"
      ∧ ({ domain := some "vendor.io" } : Condition).Live := by
  have hemail : ({ email := some " Jane@Vendor.io" } : Condition).validate
      = .ok { email := some "jane@vendor.io" } := rfl
  have hdomain : ({ domain := some ".vendor.io" } : Condition).validate
      = .ok { domain := some "vendor.io" } := rfl
  have hbare : Address.Bare " Jane@Vendor.io".toList :=
    Address.bare_of_open_not_mem (by decide)
  have hsenders : IsSenderDomain (normalizeDomain (normalizeDomain ".vendor.io")) := by
    have hnormal : normalizeDomain (normalizeDomain ".vendor.io") = "vendor.io" := by decide
    rw [hnormal]
    exact ⟨by decide, by decide, Address.bare_of_open_not_mem (by decide)⟩
  exact ⟨((validate_live_iff _ _).1 hemail).1.mpr hbare,
    ((validate_live_iff _ _).2 hdomain).mpr hsenders⟩

/-- **Accepted and dead.**  An address with its display name is accepted and does not cover the sender
that it names, and a domain of two points is accepted and covers nobody. -/
theorem not_live_accepted :
    (({ email := some "Jane <jane@vendor.io>" } : Condition).validate
        = .ok { email := some "jane <jane@vendor.io>" }
      ∧ ¬ ({ email := some "jane <jane@vendor.io>" } : Condition).CoversNamed
          "Jane <jane@vendor.io>")
      ∧ ({ domain := some ".." } : Condition).validate = .ok { domain := some "." }
      ∧ ¬ ({ domain := some "." } : Condition).Live := by
  have hemail : ({ email := some "Jane <jane@vendor.io>" } : Condition).validate
      = .ok { email := some "jane <jane@vendor.io>" } := rfl
  have hdomain : ({ domain := some ".." } : Condition).validate = .ok { domain := some "." } := rfl
  refine ⟨⟨hemail, fun hcovers => ?_⟩, hdomain, fun hlive => ?_⟩
  · refine not_live_of_not_bare hemail (fun hbare => ?_) hcovers.live
    exact hbare (by decide) (by decide)
  · have hsenders := (live_iff_of_validate_domain hdomain).mp hlive
    have hempty : normalizeDomain (normalizeDomain "..") = "" := by decide
    exact hsenders.1 hempty

end Condition
end MailTriage
