import Mathlib.Data.List.Nodup
import MailTriage.Proofs.Inspection.ConflictOrder

/-! # What a conflict report says

A report says exactly which rules are in conflict (`findConflicts_exact`).  Two rules of one kind are
in it once if they are enabled, cover common senders and decide differently, and no other pair is.
Each conflict names its rules in the order of their ids and tells what each of them decides in the
same order, and the conflicts come in strictly ascending order of kind and ids.

The generic part is about findings in pairs of rules that are told apart by their ids
(`reportsExactly_pairwiseFindings`); either kind of rules adds what its members can disagree about.
-/
namespace MailTriage

/-! ### Conflicts between rules with different ids -/

namespace Conflict

/-- One conflict comes strictly before another: by kind, then by the ids of the rules. -/
def Precedes (c d : Conflict) : Prop :=
  c.kind.rank < d.kind.rank ∨ c.kind.rank = d.kind.rank ∧ c.ruleIds < d.ruleIds

/-- A conflict that is reported before one with another key strictly precedes it. -/
theorem precedes_of_reportedBefore {c d : Conflict} (h : reportedBefore c d = true)
    (hkey : ¬ c.SameKey d) : c.Precedes d := by
  rcases reportedBefore_iff.mp h with hkind | ⟨hkind, hids⟩
  · exact .inl hkind
  · refine .inr ⟨hkind, ?_⟩
    have hne : c.ruleIds ≠ d.ruleIds := fun hids => hkey ⟨ConflictKind.rank_inj.mp hkind, hids⟩
    rw [Ne, ruleIds_eq_iff] at hne
    unfold ruleIds
    rw [List.cons_lt_cons_iff, List.cons_lt_cons_iff]
    rcases hids with hfirst | ⟨hfirst, hsecond⟩
    · exact .inl hfirst
    · refine .inr ⟨hfirst, .inl (String.not_le.mp fun hle => hne ⟨hfirst, ?_⟩)⟩
      exact String.le_antisymm hsecond hle

/-- A conflict names two rules in the order of their ids and says in that order what they decide. -/
def Pairs (c : Conflict) (a b : String × String) : Prop :=
  a.1 < b.1 ∧ c.ruleIds = [a.1, b.1] ∧ c.results = [a.2, b.2]

/-- Of two rules with different ids the conflict puts the ids and the decisions in order together. -/
theorem pairs_between (kind : ConflictKind) (overlap : Overlap) (priority : Option Int64)
    {a b : String × String} (hid : a.1 ≠ b.1) :
    (between kind overlap priority a b).Pairs a b
      ∨ (between kind overlap priority a b).Pairs b a := by
  unfold between
  by_cases h : b.1 < a.1
  · rw [if_pos h]
    exact .inr ⟨h, rfl, rfl⟩
  · rw [if_neg h]
    have hle : a.1 ≤ b.1 := String.not_lt.mp h
    exact .inl ⟨String.not_le.mp fun hge => hid (String.le_antisymm hle hge), rfl, rfl⟩

end Conflict

/-! ### Reports on one kind of rules -/

section
variable {Rule : Type}

/-- A report says exactly which of some rules are in conflict: there is a conflict for two of them if
and only if they disagree, and each conflict is one of two of the rules, in the order of their ids and
with what they decide. -/
structure ReportsExactly (report : List Conflict) (kind : ConflictKind) (rules : List Rule)
    (idOf resultOf : Rule → String) (disagree : Rule → Rule → Prop) : Prop where
  present_iff : ∀ a ∈ rules, ∀ b ∈ rules,
    (∃ c ∈ report, c.IsBetween kind (idOf a) (idOf b)) ↔ disagree a b
  of_rules : ∀ c ∈ report, c.kind = kind →
    ∃ a ∈ rules, ∃ b ∈ rules, c.Pairs (idOf a, resultOf a) (idOf b, resultOf b)

variable {kind : ConflictKind} {rules : List Rule} {test : Rule → Rule → Option Conflict}
  {idOf resultOf : Rule → String} {disagree : Rule → Rule → Prop} {enabled : Rule → Bool}

/-- Two pairs of the same members are one pair in either order. -/
theorem eq_or_eq_of_pair_perm {α : Type} {a b c d : α} (h : [a, b].Perm [c, d]) :
    a = c ∧ b = d ∨ a = d ∧ b = c := by
  have ha : a = c ∨ a = d := by simpa using h.subset List.mem_cons_self
  rcases ha with rfl | rfl
  · exact .inl ⟨rfl, by simpa using h⟩
  · have hswap : [a, b].Perm [a, c] := h.trans (List.Perm.swap a c [])
    exact .inr ⟨rfl, by simpa using hswap⟩

/-- A finding comes from two enabled rules with different ids. -/
theorem exists_of_mem_pairwiseFindings (hids : (rules.map idOf).Nodup) {c : Conflict}
    (hc : c ∈ pairwiseFindings test (rules.filter enabled)) :
    ∃ a ∈ rules, ∃ b ∈ rules, enabled a = true ∧ enabled b = true ∧ idOf a ≠ idOf b
      ∧ test a b = some c := by
  obtain ⟨a, b, hsub, hab⟩ := mem_pairwiseFindings.mp hc
  obtain ⟨ha, haOn⟩ := List.mem_filter.mp (hsub.subset List.mem_cons_self)
  obtain ⟨hb, hbOn⟩ := List.mem_filter.mp (hsub.subset (List.mem_cons_of_mem a List.mem_cons_self))
  have hdiffer : rules.Pairwise fun a b => idOf a ≠ idOf b := List.pairwise_map.mp hids
  have hne := List.pairwise_pair.mp (hdiffer.sublist (hsub.trans List.filter_sublist))
  exact ⟨a, ha, b, hb, haOn, hbOn, hne, hab⟩

/-- **Findings in pairs report exactly**, if the test finds something in two enabled rules exactly
when they disagree, and then a conflict between them. -/
theorem reportsExactly_pairwiseFindings (hids : (rules.map idOf).Nodup)
    (hsymm : ∀ a b, disagree a b → disagree b a) (hirrefl : ∀ a, ¬ disagree a a)
    (htest : ∀ a b, enabled a = true → enabled b = true →
      ((test a b).isSome = true ↔ disagree a b))
    (henabled : ∀ a b, disagree a b → enabled a = true ∧ enabled b = true)
    (hbetween : ∀ a b c, test a b = some c →
      ∃ overlap priority, c = .between kind overlap priority (idOf a, resultOf a) (idOf b, resultOf b)) :
    ReportsExactly (pairwiseFindings test (rules.filter enabled)) kind rules idOf resultOf
      disagree := by
  have hisBetween : ∀ a b c, test a b = some c → c.IsBetween kind (idOf a) (idOf b) := by
    intro a b c hc
    obtain ⟨overlap, priority, rfl⟩ := hbetween a b c hc
    exact Conflict.isBetween_between kind overlap priority _ _
  constructor
  · intro a ha b hb
    constructor
    · rintro ⟨c, hc, hab⟩
      obtain ⟨x, hx, y, hy, hxOn, hyOn, -, hxy⟩ := exists_of_mem_pairwiseFindings hids hc
      have hdisagree : disagree x y := (htest x y hxOn hyOn).mp (Option.isSome_of_eq_some hxy)
      -- the conflict names the rules it was found in, so these are the two, in either order
      have hperm : [idOf x, idOf y].Perm [idOf a, idOf b] :=
        (hisBetween x y c hxy).2.1.symm.trans hab.2.1
      rcases eq_or_eq_of_pair_perm hperm with ⟨hxa, hyb⟩ | ⟨hxb, hya⟩
      · obtain rfl := List.inj_on_of_nodup_map hids hx ha hxa
        obtain rfl := List.inj_on_of_nodup_map hids hy hb hyb
        exact hdisagree
      · obtain rfl := List.inj_on_of_nodup_map hids hx hb hxb
        obtain rfl := List.inj_on_of_nodup_map hids hy ha hya
        exact hsymm _ _ hdisagree
    · intro hdisagree
      obtain ⟨haOn, hbOn⟩ := henabled a b hdisagree
      have hfound : ∀ x y, enabled x = true → enabled y = true → disagree x y →
          ∃ c, test x y = some c ∧ c.IsBetween kind (idOf x) (idOf y) := by
        intro x y hx hy hxy
        obtain ⟨c, hc⟩ := Option.isSome_iff_exists.mp ((htest x y hx hy).mpr hxy)
        exact ⟨c, hc, hisBetween x y c hc⟩
      refine exists_mem_pairwiseFindings idOf (List.mem_filter.mpr ⟨ha, haOn⟩)
        (List.mem_filter.mpr ⟨hb, hbOn⟩) ?_ (hfound a b haOn hbOn hdisagree)
        (hfound b a hbOn haOn (hsymm a b hdisagree))
      rintro rfl
      exact hirrefl a hdisagree
  · intro c hc _
    obtain ⟨x, hx, y, hy, -, -, hne, hxy⟩ := exists_of_mem_pairwiseFindings hids hc
    obtain ⟨overlap, priority, rfl⟩ := hbetween x y c hxy
    rcases Conflict.pairs_between kind overlap priority
      (a := (idOf x, resultOf x)) (b := (idOf y, resultOf y)) hne with h | h
    · exact ⟨x, hx, y, hy, h⟩
    · exact ⟨y, hy, x, hx, h⟩

end

/-! ### What rules can disagree about -/

/-- Two enabled label rules cover common senders and put different labels on their messages. -/
def LabelRule.Disagrees (a b : LabelRule) : Prop :=
  a.enabled = true ∧ b.enabled = true ∧ (a.condition.overlap? b.condition).isSome = true
    ∧ a.labels ≠ b.labels

/-- Two enabled assignee rules of one priority cover common senders and name different people. -/
def AssigneeRule.Disagrees (a b : AssigneeRule) : Prop :=
  a.enabled = true ∧ b.enabled = true ∧ (a.condition.overlap? b.condition).isSome = true
    ∧ a.priority = b.priority
    ∧ Text.eqIgnoringAsciiCase a.assigneeEmail b.assigneeEmail = false

theorem LabelRule.isSome_conflict?_iff {a b : LabelRule} (ha : a.enabled = true)
    (hb : b.enabled = true) : (a.conflict? b).isSome = true ↔ a.Disagrees b := by
  rw [Option.isSome_iff_exists, Disagrees, Option.isSome_iff_exists]
  constructor
  · rintro ⟨c, hc⟩
    obtain ⟨hlabels, overlap, hoverlap, -⟩ := conflict?_eq_some_iff.mp hc
    exact ⟨ha, hb, ⟨overlap, hoverlap⟩, hlabels⟩
  · rintro ⟨-, -, ⟨overlap, hoverlap⟩, hlabels⟩
    exact ⟨_, conflict?_eq_some_iff.mpr ⟨hlabels, overlap, hoverlap, rfl⟩⟩

theorem AssigneeRule.isSome_conflict?_iff {a b : AssigneeRule} (ha : a.enabled = true)
    (hb : b.enabled = true) : (a.conflict? b).isSome = true ↔ a.Disagrees b := by
  rw [Option.isSome_iff_exists, Disagrees, Option.isSome_iff_exists]
  constructor
  · rintro ⟨c, hc⟩
    obtain ⟨hpriority, hemail, overlap, hoverlap, -⟩ := conflict?_eq_some_iff.mp hc
    exact ⟨ha, hb, ⟨overlap, hoverlap⟩, hpriority, hemail⟩
  · rintro ⟨-, -, ⟨overlap, hoverlap⟩, hpriority, hemail⟩
    exact ⟨_, conflict?_eq_some_iff.mpr ⟨hpriority, hemail, overlap, hoverlap, rfl⟩⟩

theorem reportsExactly_labelConflicts {rules : List LabelRule}
    (hids : (rules.map (·.id)).Nodup) :
    ReportsExactly (labelConflicts rules) .labelLabel rules LabelRule.id LabelRule.result
      LabelRule.Disagrees := by
  refine reportsExactly_pairwiseFindings hids ?_ ?_ ?_ ?_ ?_
  · rintro a b ⟨ha, hb, hoverlap, hlabels⟩
    exact ⟨hb, ha, Condition.isSome_overlap?_comm a.condition b.condition ▸ hoverlap, hlabels.symm⟩
  · rintro a ⟨-, -, -, hlabels⟩
    exact hlabels rfl
  · exact fun a b => LabelRule.isSome_conflict?_iff
  · exact fun a b h => ⟨h.1, h.2.1⟩
  · intro a b c hc
    obtain ⟨-, overlap, -, rfl⟩ := LabelRule.conflict?_eq_some_iff.mp hc
    exact ⟨overlap, none, rfl⟩

theorem reportsExactly_assigneeConflicts {rules : List AssigneeRule}
    (hids : (rules.map (·.id)).Nodup) :
    ReportsExactly (assigneeConflicts rules) .assigneeAssignee rules AssigneeRule.id
      AssigneeRule.assigneeEmail AssigneeRule.Disagrees := by
  refine reportsExactly_pairwiseFindings hids ?_ ?_ ?_ ?_ ?_
  · rintro a b ⟨ha, hb, hoverlap, hpriority, hemail⟩
    exact ⟨hb, ha, Condition.isSome_overlap?_comm a.condition b.condition ▸ hoverlap,
      hpriority.symm, eqIgnoringAsciiCase_comm a.assigneeEmail b.assigneeEmail ▸ hemail⟩
  · rintro a ⟨-, -, -, -, hemail⟩
    rw [Text.eqIgnoringAsciiCase_iff.mpr rfl] at hemail
    cases hemail
  · exact fun a b => AssigneeRule.isSome_conflict?_iff
  · exact fun a b h => ⟨h.1, h.2.1⟩
  · intro a b c hc
    obtain ⟨-, -, overlap, -, rfl⟩ := AssigneeRule.conflict?_eq_some_iff.mp hc
    exact ⟨overlap, some a.priority, rfl⟩

/-! ### Whole reports -/

/-- A report that has the conflicts of one kind among others reports them exactly. -/
theorem ReportsExactly.of_mem_iff {Rule : Type} {report all : List Conflict} {kind : ConflictKind}
    {rules : List Rule} {idOf resultOf : Rule → String} {disagree : Rule → Rule → Prop}
    (h : ReportsExactly report kind rules idOf resultOf disagree)
    (hmem : ∀ c, c.kind = kind → (c ∈ all ↔ c ∈ report)) :
    ReportsExactly all kind rules idOf resultOf disagree where
  present_iff a ha b hb := by
    rw [← h.present_iff a ha b hb]
    exact exists_congr fun c => and_congr_left fun hc => hmem c hc.1
  of_rules c hc hkind := h.of_rules c ((hmem c hkind).mp hc) hkind

section
variable {labelRules : List LabelRule} {assigneeRules : List AssigneeRule} {c : Conflict}

theorem mem_findConflicts_labelLabel (hkind : c.kind = .labelLabel) :
    c ∈ findConflicts labelRules assigneeRules ↔ c ∈ labelConflicts labelRules := by
  rw [mem_findConflicts]
  refine or_iff_left fun hc => ?_
  rw [kind_of_mem_assigneeConflicts hc] at hkind
  cases hkind

theorem mem_findConflicts_assigneeAssignee (hkind : c.kind = .assigneeAssignee) :
    c ∈ findConflicts labelRules assigneeRules ↔ c ∈ assigneeConflicts assigneeRules := by
  rw [mem_findConflicts]
  refine or_iff_right fun hc => ?_
  rw [kind_of_mem_labelConflicts hc] at hkind
  cases hkind

/-- No conflict between rules of different kinds is looked for. -/
theorem kind_ne_crossType (h : c ∈ findConflicts labelRules assigneeRules) :
    c.kind ≠ .crossType := by
  intro hkind
  rcases mem_findConflicts.mp h with hc | hc
  · rw [kind_of_mem_labelConflicts hc] at hkind
    cases hkind
  · rw [kind_of_mem_assigneeConflicts hc] at hkind
    cases hkind

/-- **A report says exactly which rules are in conflict**, once for each pair of them and in strictly
ascending order, if no two rules of one kind share their id. -/
theorem findConflicts_exact (hlabels : (labelRules.map (·.id)).Nodup)
    (hassignees : (assigneeRules.map (·.id)).Nodup) :
    (findConflicts labelRules assigneeRules).Pairwise Conflict.Precedes
      ∧ ReportsExactly (findConflicts labelRules assigneeRules) .labelLabel labelRules
          LabelRule.id LabelRule.result LabelRule.Disagrees
      ∧ ReportsExactly (findConflicts labelRules assigneeRules) .assigneeAssignee assigneeRules
          AssigneeRule.id AssigneeRule.assigneeEmail AssigneeRule.Disagrees
      ∧ ∀ c ∈ findConflicts labelRules assigneeRules, c.kind ≠ .crossType := by
  refine ⟨?_, ?_, ?_, fun c => kind_ne_crossType⟩
  · have hsorted : (findConflicts labelRules assigneeRules).Pairwise
        fun c d => Conflict.reportedBefore c d = true :=
      List.pairwise_mergeSort Conflict.reportedBefore_trans Conflict.reportedBefore_total _
    refine (hsorted.and (pairwise_findConflicts hlabels hassignees)).imp fun h => ?_
    exact Conflict.precedes_of_reportedBefore h.1 h.2
  · exact (reportsExactly_labelConflicts hlabels).of_mem_iff
      fun c => mem_findConflicts_labelLabel
  · exact (reportsExactly_assigneeConflicts hassignees).of_mem_iff
      fun c => mem_findConflicts_assigneeAssignee

end

/-- Of three rules for one domain, in any order, the two with different labels are reported once, the
smaller id with its label first. -/
theorem findConflicts_exact_vendor :
    (∃ c ∈ findConflicts [vendorLabelRule "3" "News", vendorLabelRule "1" "VIP",
          vendorLabelRule "2" "VIP"] [],
        c.IsBetween .labelLabel "3" "1" ∧ c.results = ["VIP", "News"])
      ∧ ¬ ∃ c ∈ findConflicts [vendorLabelRule "3" "News", vendorLabelRule "1" "VIP",
          vendorLabelRule "2" "VIP"] [], c.IsBetween .labelLabel "1" "2" := by
  have hlabels : ([vendorLabelRule "3" "News", vendorLabelRule "1" "VIP",
      vendorLabelRule "2" "VIP"].map (·.id)).Nodup := by decide
  have hassignees : (([] : List AssigneeRule).map (·.id)).Nodup := List.nodup_nil
  obtain ⟨-, hreport, -, -⟩ := findConflicts_exact hlabels hassignees
  have hdisagree : (vendorLabelRule "3" "News").Disagrees (vendorLabelRule "1" "VIP") :=
    ⟨rfl, rfl, by decide, by decide⟩
  constructor
  · obtain ⟨c, hc, hbetween⟩ := (hreport.present_iff _ (by simp) _ (by simp)).mpr hdisagree
    refine ⟨c, hc, hbetween, ?_⟩
    obtain ⟨a, ha, b, hb, hlt, hids, hresults⟩ := hreport.of_rules c hc hbetween.1
    have hperm : [a.id, b.id].Perm ["3", "1"] := hids ▸ hbetween.2.1
    rw [hresults]
    simp only [List.mem_cons, List.not_mem_nil, or_false] at ha hb
    rcases ha with rfl | rfl | rfl <;> rcases hb with rfl | rfl | rfl <;> revert hlt hperm <;> decide
  · intro hconflict
    obtain ⟨-, -, -, hlabels⟩ := (hreport.present_iff (vendorLabelRule "1" "VIP") (by simp)
      (vendorLabelRule "2" "VIP") (by simp)).mp hconflict
    exact hlabels rfl

end MailTriage
