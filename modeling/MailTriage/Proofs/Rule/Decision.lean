import MailTriage.Rule.Decision
import MailTriage.Proofs.Address

/-! # What wins a decision

A condition covers a sender through its address or through its domain (`covers_iff`), and of all
assignee rules that apply to a sender the one that resolves it has the smallest priority
(`exists_least_of_resolveAssigneeFor`).  Where rules come in an order of their own, a decision that
takes the first thing some rule gives takes it from the least of the rules that give anything
(`takenFromLeast_findSome?`).
-/
namespace MailTriage

/-! ### The least of some rules -/

/-- The outcome is what one of the rules gives, the one that comes before all others that give
anything; and nothing if none of them does. -/
def TakenFromLeast {Rule α : Type} (before : Rule → Rule → Prop) (gives : Rule → Option α)
    (rules : List Rule) (outcome : Option α) : Prop :=
  (outcome = none ↔ ∀ rule ∈ rules, gives rule = none)
    ∧ ∀ given, outcome = some given ↔ ∃ rule ∈ rules, gives rule = some given
      ∧ ∀ other ∈ rules, (gives other).isSome = true → other = rule ∨ before rule other

theorem takenFromLeast_findSome? {Rule α : Type} {before : Rule → Rule → Prop}
    (hasymm : ∀ a b, before a b → ¬ before b a) (gives : Rule → Option α) {rules : List Rule}
    (hordered : rules.Pairwise before) :
    TakenFromLeast before gives rules (rules.findSome? gives) := by
  refine ⟨List.findSome?_eq_none_iff, fun given => ⟨fun h => ?_, ?_⟩⟩
  · obtain ⟨earlier, rule, later, rfl, hrule, hearlier⟩ := List.findSome?_eq_some_iff.mp h
    refine ⟨rule, by simp, hrule, fun other hother hgives => ?_⟩
    rcases List.mem_append.mp hother with hother | hother
    · rw [hearlier other hother] at hgives
      cases hgives
    · rcases List.mem_cons.mp hother with rfl | hother
      · exact .inl rfl
      · exact .inr ((List.pairwise_cons.mp (List.pairwise_append.mp hordered).2.1).1 other hother)
  · rintro ⟨rule, hrule, hgives, hleast⟩
    obtain ⟨earlier, later, rfl⟩ := List.append_of_mem hrule
    refine List.findSome?_eq_some_iff.mpr ⟨earlier, rule, later, rfl, hgives, fun other hother => ?_⟩
    -- a rule that comes earlier and gives something would come before itself or both ways
    have hbefore : before other rule :=
      (List.pairwise_append.mp hordered).2.2 other hother rule List.mem_cons_self
    cases hgiven : gives other with
    | none => rfl
    | some _ =>
      rcases hleast other (List.mem_append_left _ hother) (by rw [hgiven]; rfl) with rfl | hafter
      · exact absurd hbefore (hasymm _ _ hbefore)
      · exact absurd hbefore (hasymm _ _ hafter)

theorem findSome?_filter_eq {α β : Type} (p : α → Bool) (f : α → Option β) (list : List α) :
    (list.filter p).findSome? f = list.findSome? fun a => if p a then f a else none := by
  induction list with
  | nil => rfl
  | cons a rest ih =>
    by_cases hp : p a = true
    · rw [List.filter_cons_of_pos hp, List.findSome?_cons, List.findSome?_cons, if_pos hp, ih]
    · rw [List.filter_cons_of_neg hp, List.findSome?_cons, if_neg hp, ih]

/-- A search does not notice members that it passes over. -/
theorem findSome?_filter {α β : Type} {p : α → Bool} {f : α → Option β} {l : List α}
    (h : ∀ a, p a = false → f a = none) : (l.filter p).findSome? f = l.findSome? f := by
  rw [findSome?_filter_eq]
  refine congrArg (List.findSome? · l) (funext fun a => ?_)
  cases ha : p a with
  | true => rfl
  | false => exact (h a ha).symm

/-! ### Conditions and decisions -/

theorem decideLabels_eq (text : String) (rules : List LabelRule) :
    decideLabels text rules = (Sender.parse? text).elim {} (decideLabelsFor · rules) := by
  delta decideLabels
  cases Sender.parse? text <;> rfl

namespace Condition

variable {c : Condition} {s : Sender}

theorem reason?_eq_email_iff : c.reason? s = some .email ↔ c.normalized.email = some s.email := by
  rw [reason?]
  split
  · next h => exact iff_of_true rfl h
  · next h => exact iff_of_false (by split <;> simp) h

theorem reason?_eq_domain_iff :
    c.reason? s = some .domain
      ↔ c.normalized.email ≠ some s.email ∧ c.normalized.domain = some s.domain := by
  rw [reason?]
  split
  · next h => simp [h]
  · next h => simp [h]

theorem covers_iff :
    c.covers s = true ↔ c.normalized.email = some s.email ∨ c.normalized.domain = some s.domain := by
  rw [covers, reason?]
  split
  · next h => simp [h]
  · next h => simp [h]

end Condition

namespace AssigneeRule

variable {rule : AssigneeRule} {s : Sender}

theorem resolve?_eq_some_iff {winner : ResolvedAssignee} :
    rule.resolve? s = some winner ↔ rule.enabled = true
      ∧ rule.condition.reason? s = some winner.reason ∧ winner.ruleId = rule.id
      ∧ winner.assigneeEmail = rule.assigneeEmail ∧ winner.priority = rule.priority := by
  obtain ⟨ruleId, email, priority, reason⟩ := winner
  rw [resolve?]
  cases rule.enabled with
  | false => simp
  | true =>
    simp only [if_true, Option.map_eq_some_iff, ResolvedAssignee.mk.injEq, true_and]
    constructor
    · rintro ⟨found, hfound, rfl, rfl, rfl, rfl⟩
      exact ⟨hfound, rfl, rfl, rfl⟩
    · rintro ⟨hfound, rfl, rfl, rfl⟩
      exact ⟨reason, hfound, rfl, rfl, rfl, rfl⟩

theorem isSome_resolve?_iff : (rule.resolve? s).isSome = true ↔ rule.applies s = true := by
  rw [resolve?, applies, Condition.covers]
  cases rule.enabled <;> simp

end AssigneeRule

theorem AssigneeRule.priority_le_trans (a b c : AssigneeRule)
    (hab : decide (a.priority ≤ b.priority) = true) (hbc : decide (b.priority ≤ c.priority) = true) :
    decide (a.priority ≤ c.priority) = true := by
  rw [decide_eq_true_eq] at *
  exact Int64.le_trans hab hbc

theorem AssigneeRule.priority_le_total (a b : AssigneeRule) :
    (decide (a.priority ≤ b.priority) || decide (b.priority ≤ a.priority)) = true := by
  rw [Bool.or_eq_true, decide_eq_true_eq, decide_eq_true_eq]
  exact Int64.le_total _ _

/-- Rules are tried by ascending priority. -/
theorem pairwise_evaluationOrder (rules : List AssigneeRule) :
    (evaluationOrder rules).Pairwise (·.priority ≤ ·.priority) :=
  (List.pairwise_mergeSort AssigneeRule.priority_le_trans AssigneeRule.priority_le_total rules).imp
    of_decide_eq_true

theorem evaluationOrder_eq_self {rules : List AssigneeRule}
    (h : rules.Pairwise (·.priority ≤ ·.priority)) : evaluationOrder rules = rules :=
  List.mergeSort_of_pairwise (h.imp decide_eq_true)

theorem mem_evaluationOrder {rule : AssigneeRule} {rules : List AssigneeRule} :
    rule ∈ evaluationOrder rules ↔ rule ∈ rules := List.mem_mergeSort

/-- **The winner has the smallest priority.**  It is one of the rules, it applies, and no rule that
applies has a smaller priority. -/
theorem exists_least_of_resolveAssigneeFor {s : Sender} {rules : List AssigneeRule}
    {winner : ResolvedAssignee} (h : resolveAssigneeFor s rules = some winner) :
    ∃ rule ∈ rules, rule.resolve? s = some winner
      ∧ ∀ other ∈ rules, other.applies s = true → rule.priority ≤ other.priority := by
  obtain ⟨earlier, rule, later, horder, hrule, hearlier⟩ := List.findSome?_eq_some_iff.mp h
  refine ⟨rule, ?_, hrule, fun other hother happlies => ?_⟩
  · exact mem_evaluationOrder.mp (by rw [horder]; simp)
  · have hsorted := pairwise_evaluationOrder rules
    rw [horder] at hsorted
    have hmem : other ∈ earlier ++ rule :: later := horder ▸ mem_evaluationOrder.mpr hother
    rcases List.mem_append.mp hmem with hmem | hmem
    · -- The rules that are tried before the winner do not apply.
      rw [← AssigneeRule.isSome_resolve?_iff, hearlier other hmem] at happlies
      cases happlies
    · rcases List.mem_cons.mp hmem with rfl | hmem
      · exact Int64.le_refl _
      · exact (List.pairwise_cons.mp (List.pairwise_append.mp hsorted).2.1).1 other hmem

end MailTriage
