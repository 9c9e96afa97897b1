import MailTriage.Inspection.Conflict
import MailTriage.Proofs.Rule.Decision

/-! # No ambiguity is missed

Conflicts are looked for without any sender, by comparing two conditions field by field.  Two
conditions that cover a common sender always overlap (`isSome_overlap?`), so whenever a sender shows
two rules to decide differently, the pair is among the conflicts that are found
(`findConflicts_complete`).
-/
namespace MailTriage

/-! ### Overlaps -/

namespace Condition

theorem isSome_emailWithin? {a b : Condition} {email domain : String} (ha : a.email = some email)
    (hb : b.domain = some domain) (h : extractDomain email = some domain) :
    (emailWithin? a b).isSome = true := by
  simp [emailWithin?, ha, hb, h]

theorem isSome_orElse_iff {α : Type} {o o' : Option α} :
    (o <|> o').isSome = true ↔ o.isSome = true ∨ o'.isSome = true := by
  cases o <;> simp

/-- **Conditions with a common sender overlap.**  Each of them covers the sender through its address
or through its domain, and each of the four cases is one that the comparison looks at. -/
theorem isSome_overlap? {a b : Condition} {s : Sender}
    (hs : extractDomain s.email = some s.domain) (ha : a.covers s = true)
    (hb : b.covers s = true) : (a.overlap? b).isSome = true := by
  rw [overlap?]
  simp only [isSome_orElse_iff]
  -- the sender's address lies in its domain, which settles the two mixed cases
  rcases covers_iff.mp ha with ha | ha <;> rcases covers_iff.mp hb with hb | hb
  · exact .inl (by simp [commonValue?, ha, hb])
  · exact .inr (.inr (.inl (isSome_emailWithin? ha hb hs)))
  · exact .inr (.inr (.inr (isSome_emailWithin? hb ha hs)))
  · exact .inr (.inl (by simp [commonValue?, ha, hb]))

end Condition

/-! ### Pairs of a list -/

/-- What is found in the pairs of a list is what the test finds in an earlier and a later member. -/
theorem mem_pairwiseFindings {α β : Type} {test : α → α → Option β} {l : List α} {found : β} :
    found ∈ pairwiseFindings test l ↔ ∃ a b, [a, b].Sublist l ∧ test a b = some found := by
  induction l with
  | nil => simp [pairwiseFindings]
  | cons x rest ih =>
    rw [pairwiseFindings, List.mem_append, List.mem_filterMap, ih]
    constructor
    · rintro (⟨b, hb, htest⟩ | ⟨a, b, hab, htest⟩)
      · exact ⟨x, b, List.Sublist.cons_cons x (List.singleton_sublist.mpr hb), htest⟩
      · exact ⟨a, b, hab.cons x, htest⟩
    · rintro ⟨a, b, hab, htest⟩
      rcases List.sublist_cons_iff.mp hab with hab | ⟨tail, htail, hsub⟩
      · exact .inr ⟨a, b, hab, htest⟩
      · obtain ⟨rfl, rfl⟩ := List.cons.inj htail
        exact .inl ⟨b, List.singleton_sublist.mp hsub, htest⟩

/-- Of two different members of a list one comes before the other. -/
theorem sublist_of_mem_of_ne {α : Type} {l : List α} {a b : α} (ha : a ∈ l) (hb : b ∈ l)
    (hne : a ≠ b) : [a, b].Sublist l ∨ [b, a].Sublist l := by
  induction l with
  | nil => cases ha
  | cons x rest ih =>
    rcases List.mem_cons.mp ha with rfl | hax
    · rcases List.mem_cons.mp hb with rfl | hbx
      · exact absurd rfl hne
      · exact .inl (List.Sublist.cons_cons a (List.singleton_sublist.mpr hbx))
    · rcases List.mem_cons.mp hb with rfl | hbx
      · exact .inr (List.Sublist.cons_cons b (List.singleton_sublist.mpr hax))
      · exact (ih hax hbx).imp (·.cons x) (·.cons x)

/-! ### Conflicts -/

namespace Conflict

/-- A conflict of a kind between two rules, named in ascending order. -/
def IsBetween (c : Conflict) (kind : ConflictKind) (a b : String) : Prop :=
  c.kind = kind ∧ c.ruleIds.Perm [a, b] ∧ c.ruleIds.Pairwise (· ≤ ·)

theorem IsBetween.symm {c : Conflict} {kind : ConflictKind} {a b : String}
    (h : c.IsBetween kind a b) : c.IsBetween kind b a :=
  ⟨h.1, h.2.1.trans (List.Perm.swap b a []), h.2.2⟩

theorem isBetween_between (kind : ConflictKind) (overlap : Overlap) (priority : Option Int64)
    (a b : String × String) :
    (between kind overlap priority a b).IsBetween kind a.1 b.1 := by
  rw [between]
  by_cases h : b.1 < a.1
  · rw [if_pos h]
    exact ⟨rfl, List.Perm.swap a.1 b.1 [], by simpa [ruleIds] using String.not_lt.mp (String.lt_asymm h)⟩
  · rw [if_neg h]
    exact ⟨rfl, List.Perm.refl _, by simpa [ruleIds] using String.not_lt.mp h⟩

end Conflict

/-- A conflict of two rules is found in whichever order they are compared. -/
theorem exists_mem_pairwiseFindings {α : Type} {test : α → α → Option Conflict} {l : List α}
    {kind : ConflictKind} (idOf : α → String) {a b : α} (ha : a ∈ l) (hb : b ∈ l) (hne : a ≠ b)
    (hab : ∃ c, test a b = some c ∧ c.IsBetween kind (idOf a) (idOf b))
    (hba : ∃ c, test b a = some c ∧ c.IsBetween kind (idOf b) (idOf a)) :
    ∃ c ∈ pairwiseFindings test l, c.IsBetween kind (idOf a) (idOf b) := by
  rcases sublist_of_mem_of_ne ha hb hne with hsub | hsub
  · obtain ⟨c, htest, hc⟩ := hab
    exact ⟨c, mem_pairwiseFindings.mpr ⟨a, b, hsub, htest⟩, hc⟩
  · obtain ⟨c, htest, hc⟩ := hba
    exact ⟨c, mem_pairwiseFindings.mpr ⟨b, a, hsub, htest⟩, hc.symm⟩

theorem LabelRule.exists_conflict? {a b : LabelRule} {s : Sender}
    (hs : extractDomain s.email = some s.domain) (ha : a.condition.covers s = true)
    (hb : b.condition.covers s = true) (hlabels : a.labels ≠ b.labels) :
    ∃ c, a.conflict? b = some c ∧ c.IsBetween .labelLabel a.id b.id := by
  obtain ⟨overlap, hoverlap⟩ := Option.isSome_iff_exists.mp (Condition.isSome_overlap? hs ha hb)
  refine ⟨_, ?_, Conflict.isBetween_between .labelLabel overlap none (a.id, a.result)
    (b.id, b.result)⟩
  rw [LabelRule.conflict?, if_neg hlabels, hoverlap]
  rfl

theorem AssigneeRule.exists_conflict? {a b : AssigneeRule} {s : Sender}
    (hs : extractDomain s.email = some s.domain) (ha : a.condition.covers s = true)
    (hb : b.condition.covers s = true) (hpriority : a.priority = b.priority)
    (hemail : Text.eqIgnoringAsciiCase a.assigneeEmail b.assigneeEmail = false) :
    ∃ c, a.conflict? b = some c ∧ c.IsBetween .assigneeAssignee a.id b.id := by
  obtain ⟨overlap, hoverlap⟩ := Option.isSome_iff_exists.mp (Condition.isSome_overlap? hs ha hb)
  refine ⟨_, ?_, Conflict.isBetween_between .assigneeAssignee overlap (some a.priority)
    (a.id, a.assigneeEmail) (b.id, b.assigneeEmail)⟩
  rw [AssigneeRule.conflict?, if_neg (by simp [hpriority, hemail]), hoverlap]
  rfl

theorem eqIgnoringAsciiCase_comm (s t : String) :
    Text.eqIgnoringAsciiCase s t = Text.eqIgnoringAsciiCase t s := by
  rw [Bool.eq_iff_iff, Text.eqIgnoringAsciiCase_iff, Text.eqIgnoringAsciiCase_iff, eq_comm]

theorem mem_findConflicts {c : Conflict} {labelRules : List LabelRule}
    {assigneeRules : List AssigneeRule} :
    c ∈ findConflicts labelRules assigneeRules
      ↔ c ∈ labelConflicts labelRules ∨ c ∈ assigneeConflicts assigneeRules := by
  rw [findConflicts, List.mem_mergeSort, List.mem_append]

/-! ### Completeness -/

/-- Two label rules that apply to one sender and put different labels on it are in conflict. -/
theorem exists_labelConflict {rules : List LabelRule} {a b : LabelRule} {s : Sender}
    (hs : extractDomain s.email = some s.domain) (ha : a ∈ rules) (hb : b ∈ rules)
    (haS : a.applies s = true) (hbS : b.applies s = true) (hlabels : a.labels ≠ b.labels) :
    ∃ c ∈ labelConflicts rules, c.IsBetween .labelLabel a.id b.id := by
  rw [LabelRule.applies, Bool.and_eq_true] at haS hbS
  refine exists_mem_pairwiseFindings LabelRule.id
    (List.mem_filter.mpr ⟨ha, haS.1⟩) (List.mem_filter.mpr ⟨hb, hbS.1⟩) ?_ ?_ ?_
  · exact fun h => hlabels (congrArg _ h)
  · exact LabelRule.exists_conflict? hs haS.2 hbS.2 hlabels
  · exact LabelRule.exists_conflict? hs hbS.2 haS.2 hlabels.symm

/-- Two assignee rules that apply to one sender with one priority and name different people are in
conflict. -/
theorem exists_assigneeConflict {rules : List AssigneeRule} {a b : AssigneeRule} {s : Sender}
    (hs : extractDomain s.email = some s.domain) (ha : a ∈ rules) (hb : b ∈ rules)
    (haS : a.applies s = true) (hbS : b.applies s = true) (hpriority : a.priority = b.priority)
    (hemail : Text.eqIgnoringAsciiCase a.assigneeEmail b.assigneeEmail = false) :
    ∃ c ∈ assigneeConflicts rules, c.IsBetween .assigneeAssignee a.id b.id := by
  rw [AssigneeRule.applies, Bool.and_eq_true] at haS hbS
  refine exists_mem_pairwiseFindings AssigneeRule.id
    (List.mem_filter.mpr ⟨ha, haS.1⟩) (List.mem_filter.mpr ⟨hb, hbS.1⟩) ?_ ?_ ?_
  · rintro rfl
    rw [Text.eqIgnoringAsciiCase_iff.mpr rfl] at hemail
    cases hemail
  · exact AssigneeRule.exists_conflict? hs haS.2 hbS.2 hpriority hemail
  · exact AssigneeRule.exists_conflict? hs hbS.2 haS.2 hpriority.symm
      (by rw [eqIgnoringAsciiCase_comm, hemail])

/-- Only rules of the smallest priority can change places: whichever order the rules come in, the
winner's priority is the same. -/
theorem priority_eq_of_perm {s : Sender} {rules rules' : List AssigneeRule}
    (hperm : rules'.Perm rules) {a b : AssigneeRule} (ha : a ∈ rules) (hb : b ∈ rules')
    (haS : a.applies s = true) (hbS : b.applies s = true)
    (hleast : ∀ other ∈ rules, other.applies s = true → a.priority ≤ other.priority)
    (hleast' : ∀ other ∈ rules', other.applies s = true → b.priority ≤ other.priority) :
    a.priority = b.priority :=
  Int64.le_antisymm (hleast b (hperm.mem_iff.mp hb) hbS) (hleast' a (hperm.mem_iff.mpr ha) haS)

/-- **No ambiguity is missed.**  If the order of the assignee rules decides which person a sender
goes to, the two rules that win are reported; and if two label rules that apply to a sender put
different labels on it, they are reported. -/
theorem findConflicts_complete :
    (∀ (labelRules : List LabelRule) (rules rules' : List AssigneeRule) (senderText : String)
        (winner winner' : ResolvedAssignee), rules'.Perm rules →
        resolveAssignee senderText rules = some winner →
        resolveAssignee senderText rules' = some winner' →
        Text.eqIgnoringAsciiCase winner.assigneeEmail winner'.assigneeEmail = false →
        ∃ c ∈ findConflicts labelRules rules,
          c.IsBetween .assigneeAssignee winner.ruleId winner'.ruleId)
      ∧ ∀ (rules : List LabelRule) (assigneeRules : List AssigneeRule) (senderText : String)
        (s : Sender) (i j : Nat) (a b : LabelRule), Sender.parse? senderText = some s →
        rules[i]? = some a → rules[j]? = some b → a.applies s = true → b.applies s = true →
        a.labels ≠ b.labels →
        ∃ c ∈ findConflicts rules assigneeRules, c.IsBetween .labelLabel a.id b.id := by
  constructor
  · intro labelRules rules rules' senderText winner winner' hperm hwinner hwinner' hemail
    obtain ⟨s, hparse, hwinner⟩ := Option.bind_eq_some_iff.mp hwinner
    rw [resolveAssignee, hparse, Option.bind_some] at hwinner'
    obtain ⟨a, ha, hresolve, hleast⟩ := exists_least_of_resolveAssigneeFor hwinner
    obtain ⟨b, hb, hresolve', hleast'⟩ := exists_least_of_resolveAssigneeFor hwinner'
    have haS := AssigneeRule.isSome_resolve?_iff.mp (Option.isSome_of_eq_some hresolve)
    have hbS := AssigneeRule.isSome_resolve?_iff.mp (Option.isSome_of_eq_some hresolve')
    obtain ⟨-, -, hid, hmail, -⟩ := AssigneeRule.resolve?_eq_some_iff.mp hresolve
    obtain ⟨-, -, hid', hmail', -⟩ := AssigneeRule.resolve?_eq_some_iff.mp hresolve'
    rw [hmail, hmail'] at hemail
    obtain ⟨c, hc, hbetween⟩ := exists_assigneeConflict (Sender.extractDomain_email hparse) ha
      (hperm.mem_iff.mp hb) haS hbS (priority_eq_of_perm hperm ha hb haS hbS hleast hleast') hemail
    exact ⟨c, mem_findConflicts.mpr (.inr hc), by rw [hid, hid']; exact hbetween⟩
  · intro rules assigneeRules senderText s i j a b hparse hi hj haS hbS hlabels
    obtain ⟨c, hc, hbetween⟩ := exists_labelConflict (Sender.extractDomain_email hparse)
      (List.mem_of_getElem? hi) (List.mem_of_getElem? hj) haS hbS hlabels
    exact ⟨c, mem_findConflicts.mpr (.inl hc), hbetween⟩

/-- An assignee rule for the senders of one domain. -/
def vendorAssigneeRule (id assigneeEmail : String) : AssigneeRule :=
  { id, enabled := true, priority := 0, condition := { domain := some "vendor.io" }
    assigneeEmail, unassignedOnly := true, broadDomainConfirmed := false, createdAt := .epoch
    updatedAt := none }

/-- A label rule for the senders of one domain. -/
def vendorLabelRule (id label : String) : LabelRule :=
  { id, condition := { domain := some "vendor.io" }, labels := .singleton label, assignTo := none
    enabled := true, createdAt := .epoch }

theorem resolveAssignee_vendor (id email id' email' : String) :
    resolveAssignee "x@vendor.io" [vendorAssigneeRule id email, vendorAssigneeRule id' email']
      = some { ruleId := id, assigneeEmail := email, priority := 0, reason := .domain } := by
  have hsender : Sender.parse? "x@vendor.io"
      = some { email := "x@vendor.io", domain := "vendor.io" } := by decide
  have hreason : Condition.reason? { domain := some "vendor.io" }
      { email := "x@vendor.io", domain := "vendor.io" } = some .domain := by decide
  have hsorted : [vendorAssigneeRule id email, vendorAssigneeRule id' email'].Pairwise
      fun a b => decide (a.priority ≤ b.priority) = true :=
    List.pairwise_pair.mpr (decide_eq_true (Int64.le_refl 0))
  rw [resolveAssignee, hsender, Option.bind_some, resolveAssigneeFor, evaluationOrder,
    List.mergeSort_of_pairwise hsorted, List.findSome?_cons, AssigneeRule.resolve?]
  simp only [vendorAssigneeRule, hreason]
  rfl

/-- Of two rules for one domain the first one wins, whichever it is, and two labels for it are both
put on: both pairs are reported. -/
theorem findConflicts_vendor :
    (∃ c ∈ findConflicts [] [vendorAssigneeRule "1" "a@desk.io", vendorAssigneeRule "2" "b@desk.io"],
        c.IsBetween .assigneeAssignee "1" "2")
      ∧ ∃ c ∈ findConflicts [vendorLabelRule "1" "VIP", vendorLabelRule "2" "News"] [],
        c.IsBetween .labelLabel "1" "2" := by
  obtain ⟨hassignee, hlabel⟩ := findConflicts_complete
  refine ⟨?_, ?_⟩
  · exact hassignee [] _ _ "x@vendor.io" _ _ (List.Perm.swap _ _ [])
      (resolveAssignee_vendor "1" "a@desk.io" "2" "b@desk.io")
      (resolveAssignee_vendor "2" "b@desk.io" "1" "a@desk.io") (by decide)
  · exact hlabel _ [] "x@vendor.io" { email := "x@vendor.io", domain := "vendor.io" } 0 1
      (vendorLabelRule "1" "VIP") (vendorLabelRule "2" "News") (by decide) rfl rfl (by decide)
      (by decide) (by decide)

end MailTriage
