import MailTriage.Proofs.Inspection.Conflict

/-! # What two conditions have in common, in either order

The comparison of two conditions is symmetric but for one case: when each of the two names an
address within the domain that the other one names, and the domains differ, the address of whichever
condition comes first is reported.  Exactly then the description of the overlap depends on the order
(`Condition.overlap?_comm_iff`).
-/
namespace MailTriage

/-! ### Crossed conditions -/

namespace Condition

/-- Each of two conditions names an address within the domain that the other one names, and these
domains differ. -/
def Crosses (a b : Condition) : Prop :=
  a.normalized.domain ≠ b.normalized.domain
    ∧ (emailWithin? a.normalized b.normalized).isSome = true
    ∧ (emailWithin? b.normalized a.normalized).isSome = true

instance (a b : Condition) : Decidable (a.Crosses b) := inferInstanceAs (Decidable (_ ∧ _))

theorem Crosses.symm {a b : Condition} (h : a.Crosses b) : b.Crosses a :=
  ⟨Ne.symm h.1, h.2.2, h.2.1⟩

theorem commonValue?_eq_some_iff {s t : Option String} {value : String} :
    commonValue? s t = some value ↔ s = some value ∧ t = some value := by
  cases s with
  | none => simp [commonValue?]
  | some s =>
    cases t with
    | none => simp [commonValue?]
    | some t =>
      by_cases h : s = t
      · simp [commonValue?, h]
      · simp only [commonValue?, if_neg h, Option.some.injEq]
        constructor
        · intro hnone
          cases hnone
        · rintro ⟨rfl, rfl⟩
          exact absurd rfl h

theorem commonValue?_comm (s t : Option String) : commonValue? s t = commonValue? t s := by
  refine Option.ext fun value => ?_
  rw [commonValue?_eq_some_iff, commonValue?_eq_some_iff, and_comm]

theorem emailWithin?_eq_some_iff {a b : Condition} {overlap : Overlap} :
    emailWithin? a b = some overlap ↔ ∃ email domain, a.email = some email
      ∧ b.domain = some domain ∧ extractDomain email = some domain
      ∧ overlap = .emailWithin email domain := by
  rw [emailWithin?]
  cases ha : a.email with
  | none => simp
  | some email =>
    cases hb : b.domain with
    | none => simp
    | some domain =>
      by_cases h : extractDomain email = some domain
      · simp [h, eq_comm]
      · simp [h]

/-- Conditions that cross have nothing else in common, so their overlap starts with the address of
the first. -/
theorem Crosses.overlap?_eq {a b : Condition} (h : a.Crosses b) :
    a.overlap? b = emailWithin? a.normalized b.normalized := by
  obtain ⟨hdomains, hab, hba⟩ := h
  obtain ⟨_, hwithin⟩ := Option.isSome_iff_exists.mp hab
  obtain ⟨_, hwithin'⟩ := Option.isSome_iff_exists.mp hba
  obtain ⟨email, domain, hemail, hdomain, hextract, -⟩ := emailWithin?_eq_some_iff.mp hwithin
  obtain ⟨email', domain', hemail', hdomain', hextract', -⟩ := emailWithin?_eq_some_iff.mp hwithin'
  have hnoDomain : commonValue? a.normalized.domain b.normalized.domain = none := by
    refine Option.eq_none_iff_forall_ne_some.mpr fun value hvalue => ?_
    obtain ⟨ha, hb⟩ := commonValue?_eq_some_iff.mp hvalue
    exact hdomains (ha.trans hb.symm)
  -- an address lies in one domain only, so a common address would give a common domain
  have hnoEmail : commonValue? a.normalized.email b.normalized.email = none := by
    refine Option.eq_none_iff_forall_ne_some.mpr fun value hvalue => ?_
    obtain ⟨ha, hb⟩ := commonValue?_eq_some_iff.mp hvalue
    obtain rfl := Option.some_inj.mp (hemail.symm.trans ha)
    obtain rfl := Option.some_inj.mp (hemail'.symm.trans hb)
    rw [hdomain, hdomain', ← hextract, ← hextract'] at hdomains
    exact hdomains rfl
  rw [overlap?]
  simp only [hnoEmail, hnoDomain, hwithin]
  rfl

/-- **What two conditions have in common does not depend on their order, unless they cross.** -/
theorem overlap?_comm {a b : Condition} (h : ¬ a.Crosses b) : a.overlap? b = b.overlap? a := by
  rw [overlap?, overlap?]
  simp only [commonValue?_comm b.normalized.email, commonValue?_comm b.normalized.domain]
  cases hemail : commonValue? a.normalized.email b.normalized.email with
  | some email => rfl
  | none =>
    cases hdomain : commonValue? a.normalized.domain b.normalized.domain with
    | some domain => rfl
    | none =>
      cases hab : emailWithin? a.normalized b.normalized with
      | none => cases emailWithin? b.normalized a.normalized <;> rfl
      | some overlap =>
        cases hba : emailWithin? b.normalized a.normalized with
        | none => rfl
        | some overlap' =>
          -- both addresses lie in the other one's domain, so the domains would have to be the same
          refine absurd ⟨fun heq => ?_, by rw [hab]; rfl, by rw [hba]; rfl⟩ h
          obtain ⟨_, domain, _, hb, _⟩ := emailWithin?_eq_some_iff.mp hab
          rw [commonValue?_eq_some_iff.mpr ⟨heq.trans hb, hb⟩] at hdomain
          cases hdomain

theorem isSome_overlap?_comm (a b : Condition) :
    (a.overlap? b).isSome = (b.overlap? a).isSome := by
  by_cases h : a.Crosses b
  · rw [h.overlap?_eq, h.symm.overlap?_eq, h.2.1, h.2.2]
  · rw [overlap?_comm h]

/-- Two texts that are cut at their last `@` have the same part after it if they are the same. -/
theorem eq_of_append_at {front front' back back' : List Char} (hback : '@' ∉ back)
    (hback' : '@' ∉ back') (h : front ++ '@' :: back = front' ++ '@' :: back') : back = back' := by
  have hcut := Text.cutLast_append front hback
  rw [h, Text.cutLast_append front' hback'] at hcut
  exact (congrArg Prod.snd (Option.some_inj.mp hcut)).symm

/-- Addresses within different domains are described differently. -/
theorem describe_emailWithin_ne {email domain email' domain' : String}
    (h : extractDomain email = some domain) (h' : extractDomain email' = some domain')
    (hne : domain ≠ domain') :
    (Overlap.emailWithin email domain).describe ≠ (Overlap.emailWithin email' domain').describe := by
  intro heq
  obtain ⟨-, hat, front, hfront⟩ := extractDomain_eq_some_iff.mp h
  obtain ⟨-, hat', front', hfront'⟩ := extractDomain_eq_some_iff.mp h'
  -- after the last `@` the domain stands twice, once as the end of the address
  have hlists := congrArg String.toList heq
  simp only [Overlap.describe, String.toList_append, hfront, hfront', List.append_assoc,
    List.cons_append] at hlists
  have hbacks := eq_of_append_at (by simp [hat]) (by simp [hat'])
    (List.append_cancel_left hlists)
  have hlength := congrArg List.length hbacks
  simp only [List.length_append] at hlength
  have hdomains := (List.append_inj hbacks (by omega)).1
  exact hne (String.toList_inj.mp hdomains)

/-- **Exactly when two conditions cross, the description of what they have in common depends on
their order.** -/
theorem overlap?_comm_iff {a b : Condition} :
    (a.overlap? b).map Overlap.describe = (b.overlap? a).map Overlap.describe
      ↔ ¬ a.Crosses b := by
  refine ⟨fun heq hcross => ?_, fun h => by rw [overlap?_comm h]⟩
  obtain ⟨_, hwithin⟩ := Option.isSome_iff_exists.mp hcross.2.1
  obtain ⟨_, hwithin'⟩ := Option.isSome_iff_exists.mp hcross.2.2
  obtain ⟨email, domain, -, hdomain, hextract, rfl⟩ := emailWithin?_eq_some_iff.mp hwithin
  obtain ⟨email', domain', -, hdomain', hextract', rfl⟩ := emailWithin?_eq_some_iff.mp hwithin'
  rw [hcross.overlap?_eq, hcross.symm.overlap?_eq, hwithin, hwithin'] at heq
  refine describe_emailWithin_ne hextract hextract' ?_ (Option.some_inj.mp heq)
  rintro rfl
  exact hcross.1 (hdomain'.trans hdomain.symm)

end Condition

end MailTriage
