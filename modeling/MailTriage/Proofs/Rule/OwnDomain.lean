import MailTriage.Proofs.Rule.Reach

/-! # A domain covers its own senders

A condition and a sender come to their domains in different ways.  The condition's domain is trimmed,
put in small letters by itself and then freed of a leading `@` and `.`; the sender's is cut off an
address that was put in small letters as a whole.  Small letters depend on what stands around a
letter, so it takes an argument that both ways end with the same text: the `@` of an address keeps
its two sides apart (`Text.lowerChars_append_at`), and the signs that may lead a domain do not show
in it (`Text.lowerChars_cons_lead`).  Whoever sends from a domain is therefore covered by a condition
on that domain, in whichever of its spellings (`Condition.covers_ownDomain`).
-/
namespace MailTriage

/-- A domain as somebody may write it behind the `@` of an address, in any letters. -/
structure IsWrittenDomain (domain : String) : Prop where
  ne_empty : domain ≠ ""
  at_not_mem : '@' ∉ domain.toList
  /-- There is no display name in it to be taken off. -/
  open_not_mem : '<' ∉ domain.toList
  trimmed : Text.Trimmed domain.toList
  /-- It does not start with a point, which counts as a sign in front of the domain. -/
  head : '.' ∉ domain.toList.head?

namespace IsWrittenDomain

variable {domain : String}

theorem toList_ne_nil (h : IsWrittenDomain domain) : domain.toList ≠ [] :=
  fun hnil => h.ne_empty (String.toList_eq_nil_iff.mp hnil)

theorem at_not_mem_lower (h : IsWrittenDomain domain) : '@' ∉ (Text.lower domain).toList := by
  rw [Text.toList_lower]
  exact fun hmem => h.at_not_mem (Text.mem_of_mem_lowerChars hmem (by decide))

theorem lower_ne_empty (h : IsWrittenDomain domain) : Text.lower domain ≠ "" := by
  rw [Ne, ← String.toList_eq_nil_iff, Text.toList_lower]
  exact Text.lowerChars_ne_nil h.toList_ne_nil

/-- With an `@` in front of it the domain ends an address without blanks at that end. -/
theorem trimmed_cons_at (h : IsWrittenDomain domain) : Text.Trimmed ('@' :: domain.toList) where
  head c hc := by
    cases hc
    decide
  last c hc := by
    rw [List.getLast?_cons_of_ne_nil h.toList_ne_nil] at hc
    exact h.trimmed.last c hc

end IsWrittenDomain

/-! ### The sender -/

/-- The domain of an address is lower-cased as if it stood alone. -/
theorem Sender.exists_of_writtenDomain {localPart domain : String}
    (hlocal : '<' ∉ localPart.toList) (h : IsWrittenDomain domain) :
    ∃ s, parse? (localPart ++ "@" ++ domain) = some s ∧ s.domain = Text.lower domain := by
  have hchars : (localPart ++ "@" ++ domain).toList
      = localPart.toList ++ '@' :: domain.toList ++ [] := by
    simp
  have hbare : Address.Bare (localPart ++ "@" ++ domain).toList := by
    refine Address.bare_of_open_not_mem ?_
    simpa [hchars] using ⟨hlocal, h.open_not_mem⟩
  have hnormal : Address.normalizeChars (localPart ++ "@" ++ domain).toList
      = Text.lowerChars (Text.trimStart localPart.toList) ++ '@' :: (Text.lower domain).toList := by
    rw [Address.normalizeChars_of_bare hbare, hchars,
      Text.trimChars_around localPart.toList h.trimmed_cons_at (List.cons_ne_nil _ _) (by simp),
      Text.lowerChars_append_at, Text.toList_lower]
  have hdomain : extractDomain
      (String.ofList (Address.normalizeChars (localPart ++ "@" ++ domain).toList))
      = some (Text.lower domain) := by
    refine extractDomain_eq_some_iff.mpr ⟨h.lower_ne_empty, h.at_not_mem_lower,
      Text.lowerChars (Text.trimStart localPart.toList), ?_⟩
    rw [String.toList_ofList, hnormal]
  refine ⟨{ email := _, domain := Text.lower domain }, parse?_eq_some_iff.mpr ⟨?_, hdomain⟩, rfl⟩
  rw [normalizeEmail]
  exact if_pos (by rw [hdomain]; rfl)

/-! ### The condition -/

/-- What may be written in front of a domain. -/
def domainLeads : List String := ["", "@", ".", "@."]

section
variable {lead : String} {cs : List Char}

theorem eq_of_mem_domainLeads (h : lead ∈ domainLeads) :
    lead = "" ∨ lead = "@" ∨ lead = "." ∨ lead = "@." := by
  simpa [domainLeads] using h

theorem Text.Trimmed.lead_append (h : Trimmed cs) (hlead : lead ∈ domainLeads) (hne : cs ≠ []) :
    Trimmed (lead.toList ++ cs) where
  head c hc := by
    rcases eq_of_mem_domainLeads hlead with rfl | rfl | rfl | rfl
    · exact h.head c hc
    all_goals
      cases hc
      decide
  last c hc := by
    obtain ⟨last, hlast⟩ := Option.isSome_iff_exists.mp (List.getLast?_isSome.mpr hne)
    rw [List.getLast?_append, hlast] at hc
    exact h.last c (by rw [hlast]; exact hc)

/-- The signs in front do not show in the small letters of the domain. -/
theorem Text.lowerChars_lead_append (hlead : lead ∈ domainLeads) (cs : List Char) :
    lowerChars (lead.toList ++ cs) = lead.toList ++ lowerChars cs := by
  rcases eq_of_mem_domainLeads hlead with rfl | rfl | rfl | rfl
  · rfl
  · exact lowerChars_cons_lead (.inl rfl) cs
  · exact lowerChars_cons_lead (.inr rfl) cs
  · show lowerChars ('@' :: '.' :: cs) = '@' :: '.' :: lowerChars cs
    rw [lowerChars_cons_lead (.inl rfl), lowerChars_cons_lead (.inr rfl)]

/-- They are taken off again, and no more than they. -/
theorem Text.stripStart_lead_append (hlead : lead ∈ domainLeads) (hat : '@' ∉ cs.head?)
    (hpoint : '.' ∉ cs.head?) : stripStart '.' (stripStart '@' (lead.toList ++ cs)) = cs := by
  rcases eq_of_mem_domainLeads hlead with rfl | rfl | rfl | rfl
  · show stripStart '.' (stripStart '@' cs) = cs
    rw [stripStart_of_head hat, stripStart_of_head hpoint]
  · show stripStart '.' (stripStart '@' ('@' :: cs)) = cs
    rw [stripStart_cons_self, stripStart_of_head hpoint]
  · show stripStart '.' (stripStart '@' ('.' :: cs)) = cs
    rw [stripStart_of_head (c := '@') (by simp), stripStart_cons_self]
  · show stripStart '.' (stripStart '@' ('@' :: '.' :: cs)) = cs
    rw [stripStart_cons_self, stripStart_cons_self]

end

/-- **All spellings of a domain have one normal form**, the domain in small letters. -/
theorem normalizeDomain_of_writtenDomain {domain lead before after : String}
    (h : IsWrittenDomain domain) (hlead : lead ∈ domainLeads)
    (hbefore : ∀ c ∈ before.toList, Text.isBlank c = true)
    (hafter : ∀ c ∈ after.toList, Text.isBlank c = true) :
    normalizeDomain (before ++ lead ++ domain ++ after) = Text.lower domain := by
  have hchars : (before ++ lead ++ domain ++ after).toList
      = before.toList ++ (lead.toList ++ domain.toList) ++ after.toList := by
    simp
  have hat : '@' ∉ (Text.lowerChars domain.toList).head? := fun hmem =>
    h.at_not_mem (Text.mem_of_mem_lowerChars (List.mem_of_head? hmem) (by decide))
  have hpoint : '.' ∉ (Text.lowerChars domain.toList).head? := fun hmem =>
    h.head (Text.head_lowerChars_of_isMark hmem (by decide))
  rw [← String.toList_inj, toList_normalizeDomain, Text.toList_lower, normalDomainChars, hchars,
    Text.trimChars_around before.toList (h.trimmed.lead_append hlead h.toList_ne_nil)
      (List.append_ne_nil_of_right_ne_nil _ h.toList_ne_nil) hafter,
    Text.trimStart_of_blank hbefore, List.nil_append, Text.lowerChars_lead_append hlead,
    Text.stripStart_lead_append hlead hat hpoint]

/-- **A condition on a domain covers every sender at the domain**, in whichever letters and with
whichever signs in front and blanks around it the domain is written. -/
theorem Condition.covers_ownDomain {localPart domain lead before after : String}
    (hlocal : '<' ∉ localPart.toList) (hdomain : IsWrittenDomain domain)
    (hlead : lead ∈ domainLeads) (hbefore : ∀ c ∈ before.toList, Text.isBlank c = true)
    (hafter : ∀ c ∈ after.toList, Text.isBlank c = true) :
    ∃ s, Sender.parse? (localPart ++ "@" ++ domain) = some s
      ∧ ({ domain := some (before ++ lead ++ domain ++ after) } : Condition).reason? s
        = some .domain := by
  obtain ⟨s, hparse, hs⟩ := Sender.exists_of_writtenDomain hlocal hdomain
  refine ⟨s, hparse, reason?_eq_domain_iff.mpr ⟨nofun, normalized_domain_eq_some_iff.mpr ?_⟩⟩
  refine ⟨_, rfl, ?_, hs ▸ hdomain.lower_ne_empty⟩
  rw [normalizeDomain_of_writtenDomain hdomain hlead hbefore hafter, hs]

/-- Capital sigmas at the end of a word, before the `@` and after a point: they come out alike in the
sender's domain and in the condition's. -/
theorem Condition.covers_ownDomain_sigma :
    ∃ s, Sender.parse? "ΑΣ@ΟΔΟΣ.Σ" = some s
      ∧ ({ domain := some " @.ΟΔΟΣ.Σ\t" } : Condition).reason? s = some .domain := by
  have hdomain : IsWrittenDomain "ΟΔΟΣ.Σ" :=
    ⟨by decide, by decide, by decide, ⟨by rintro c ⟨⟩; rfl, by rintro c ⟨⟩; rfl⟩, by decide⟩
  have haddress : "ΑΣ" ++ "@" ++ "ΟΔΟΣ.Σ" = "ΑΣ@ΟΔΟΣ.Σ" := by decide
  have hspelling : " " ++ "@." ++ "ΟΔΟΣ.Σ" ++ "\t" = " @.ΟΔΟΣ.Σ\t" := by decide
  rw [← haddress, ← hspelling]
  exact covers_ownDomain (by decide) hdomain (by decide) (List.all_eq_true.mp rfl)
    (List.all_eq_true.mp rfl)

end MailTriage
