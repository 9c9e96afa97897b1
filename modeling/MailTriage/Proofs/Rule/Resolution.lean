import MailTriage.Proofs.Rule.Decision

/-! # Which assignee rule wins

To find an assignee, all rules are sorted by priority, the disabled ones and those that do not cover
the sender included, and the first one in this order that applies is taken.  The sort is stable: it
may as well be done when other rules have been left out (`filter_evaluationOrder`), and rules of one
priority stay in the order in which they are listed (`filter_priority_evaluationOrder`).  So the
winner can be told from the list as it stands: of the *foremost* rules, those with the smallest
priority of all that contend for the sender, it is the one listed first
(`resolveAssigneeFor_eq_find?`).  Which rules are foremost does not depend on the order of the list,
and the order decides only between them (`resolveAssignee_leastFirst`).
-/
namespace MailTriage

/-! ### Sorting and leaving out -/

/-- Where a list is cut into members that have a property and members that have not, there is one
place for the cut. -/
theorem append_cut_unique {α : Type} {p : α → Bool} {front back front' back' : List α}
    (h : front ++ back = front' ++ back') (hfront : ∀ a ∈ front, p a = true)
    (hback : ∀ a ∈ back, p a = false) (hfront' : ∀ a ∈ front', p a = true)
    (hback' : ∀ a ∈ back', p a = false) : front = front' ∧ back = back' := by
  have hfilter := congrArg (List.filter p) h
  rw [List.filter_append, List.filter_append, List.filter_eq_self.mpr hfront,
    List.filter_eq_self.mpr hfront', List.filter_eq_nil_iff.mpr (by simpa using hback),
    List.filter_eq_nil_iff.mpr (by simpa using hback'), List.append_nil, List.append_nil] at hfilter
  subst hfilter
  exact ⟨rfl, List.append_cancel_left h⟩

/-- A stable sort may be done before or after some members are left out. -/
theorem filter_mergeSort {α : Type} {le : α → α → Bool}
    (htrans : ∀ a b c, le a b = true → le b c = true → le a c = true)
    (htotal : ∀ a b, (le a b || le b a) = true) (p : α → Bool) (l : List α) :
    (l.mergeSort le).filter p = (l.filter p).mergeSort le := by
  induction l with
  | nil => rw [List.mergeSort_nil, List.filter_nil, List.mergeSort_nil]
  | cons a rest ih =>
    obtain ⟨front, back, hsort, hrest, hfront⟩ := List.mergeSort_cons htrans htotal a rest
    rw [hrest, List.filter_append] at ih
    by_cases ha : p a = true
    · -- both sorts put the new member between the same two parts of the sorted rest
      obtain ⟨front', back', hsort', hrest', hfront'⟩ :=
        List.mergeSort_cons htrans htotal a (rest.filter p)
      have hback : ∀ b ∈ back, le a b = true := by
        have hsorted := List.pairwise_mergeSort htrans htotal (a :: rest)
        rw [hsort] at hsorted
        exact (List.pairwise_cons.mp (List.pairwise_append.mp hsorted).2.1).1
      have hback' : ∀ b ∈ back', le a b = true := by
        have hsorted := List.pairwise_mergeSort htrans htotal (a :: rest.filter p)
        rw [hsort'] at hsorted
        exact (List.pairwise_cons.mp (List.pairwise_append.mp hsorted).2.1).1
      obtain ⟨rfl, rfl⟩ := append_cut_unique (ih.trans hrest')
        (fun b hb => hfront b (List.mem_filter.mp hb).1)
        (fun b hb => by simp [hback b (List.mem_filter.mp hb).1]) hfront'
        (fun b hb => by simp [hback' b hb])
      rw [hsort, List.filter_cons_of_pos ha, hsort', List.filter_append, List.filter_cons_of_pos ha]
    · rw [hsort, List.filter_cons_of_neg ha, ← ih, List.filter_append, List.filter_cons_of_neg ha]

theorem filter_evaluationOrder (p : AssigneeRule → Bool) (rules : List AssigneeRule) :
    (evaluationOrder rules).filter p = evaluationOrder (rules.filter p) :=
  filter_mergeSort AssigneeRule.priority_le_trans AssigneeRule.priority_le_total p rules

/-! ### Foremost rules -/

/-- The rule is enabled and covers the sender that a text names. -/
def AssigneeRule.Contends (text : String) (rule : AssigneeRule) : Prop :=
  rule.enabled = true ∧ (matchAssigneeRule text rule).isSome = true

instance (text : String) (rule : AssigneeRule) : Decidable (rule.Contends text) :=
  inferInstanceAs (Decidable (_ ∧ _))

/-- The rule contends for the sender, and no rule of the list that does has a smaller priority. -/
def AssigneeRule.IsForemost (text : String) (rules : List AssigneeRule) (rule : AssigneeRule) :
    Prop :=
  rule.Contends text ∧ ∀ other ∈ rules, other.Contends text → rule.priority ≤ other.priority

instance (text : String) (rules : List AssigneeRule) (rule : AssigneeRule) :
    Decidable (rule.IsForemost text rules) :=
  inferInstanceAs (Decidable (_ ∧ _))

namespace AssigneeRule

variable {text : String} {s : Sender} {rules rules' : List AssigneeRule} {rule other : AssigneeRule}

theorem contends_iff (h : Sender.parse? text = some s) :
    rule.Contends text ↔ rule.applies s = true := by
  rw [Contends, matchAssigneeRule, h, Option.bind_some, applies, Condition.covers, Bool.and_eq_true]

theorem not_contends (h : Sender.parse? text = none) : ¬ rule.Contends text := by
  rw [Contends, matchAssigneeRule, h]
  exact fun hcontends => absurd hcontends.2 (by simp)

theorem not_contends_iff :
    ¬ rule.Contends text ↔ (rule.enabled = true → matchAssigneeRule text rule = none) := by
  rw [Contends, not_and, Bool.not_eq_true, Option.isSome_eq_false_iff, Option.isNone_iff_eq_none]

theorem IsForemost.priority_eq (h : rule.IsForemost text rules) (h' : other.IsForemost text rules)
    (hmem : rule ∈ rules) (hmem' : other ∈ rules) : rule.priority = other.priority :=
  Int64.le_antisymm (h.2 other hmem' h'.1) (h'.2 rule hmem h.1)

theorem isForemost_of_find?
    (h : (rules.find? fun rule => rule.IsForemost text rules') = some rule) :
    rule.IsForemost text rules' := by
  simpa using List.find?_some h

/-- Which rules are foremost does not depend on the order of the list. -/
theorem isForemost_congr (hperm : rules'.Perm rules) :
    rule.IsForemost text rules' ↔ rule.IsForemost text rules :=
  and_congr_right fun _ => forall_congr' fun _ => imp_congr_left hperm.mem_iff

end AssigneeRule

/-! ### The winner -/

/-- Rules of one priority are tried in the order in which they are listed. -/
theorem filter_priority_evaluationOrder (priority : Int64) (rules : List AssigneeRule) :
    (evaluationOrder rules).filter (·.priority = priority)
      = rules.filter (·.priority = priority) := by
  rw [filter_evaluationOrder]
  refine evaluationOrder_eq_self (List.pairwise_of_forall_mem_list fun a ha b hb => ?_)
  rw [of_decide_eq_true (List.mem_filter.mp ha).2, of_decide_eq_true (List.mem_filter.mp hb).2]
  exact Int64.le_refl priority

/-- A rule that is tried before all others that apply is the first of the foremost ones. -/
theorem find?_isForemost_of_evaluationOrder {text : String} {s : Sender}
    (h : Sender.parse? text = some s) {rules : List AssigneeRule} {first : AssigneeRule}
    {rest : List AssigneeRule}
    (horder : evaluationOrder (rules.filter (·.applies s)) = first :: rest) :
    (rules.find? fun rule => rule.IsForemost text rules) = some first := by
  have hmem : ∀ rule, rule ∈ first :: rest ↔ rule ∈ rules ∧ rule.applies s = true := fun rule => by
    rw [← horder, mem_evaluationOrder, List.mem_filter]
  have hleast : ∀ rule ∈ first :: rest, first.priority ≤ rule.priority := by
    have hsorted := pairwise_evaluationOrder (rules.filter (·.applies s))
    rw [horder] at hsorted
    exact List.forall_mem_cons.mpr ⟨Int64.le_refl _, (List.pairwise_cons.mp hsorted).1⟩
  obtain ⟨hfirst, happlies⟩ := (hmem first).mp List.mem_cons_self
  have hforemost : ∀ rule ∈ rules, rule.IsForemost text rules
      ↔ rule.priority = first.priority ∧ rule.applies s = true := by
    intro rule hrule
    rw [AssigneeRule.IsForemost, AssigneeRule.contends_iff h]
    constructor
    · rintro ⟨hrules, hle⟩
      exact ⟨Int64.le_antisymm (hle first hfirst ((AssigneeRule.contends_iff h).mpr happlies))
        (hleast rule ((hmem rule).mpr ⟨hrule, hrules⟩)), hrules⟩
    · rintro ⟨hpriority, hrules⟩
      refine ⟨hrules, fun other hother hcontends => ?_⟩
      rw [hpriority]
      exact hleast other ((hmem other).mpr ⟨hother, (AssigneeRule.contends_iff h).mp hcontends⟩)
  have hfilter : (rules.filter fun rule => rule.IsForemost text rules)
      = (rules.filter (·.applies s)).filter (·.priority = first.priority) := by
    rw [List.filter_filter]
    refine List.filter_congr fun rule hrule => ?_
    rw [decide_eq_decide.mpr (hforemost rule hrule), Bool.decide_and, Bool.decide_eq_true]
  rw [← List.head?_filter, hfilter, ← filter_priority_evaluationOrder, horder]
  simp

/-- **The first foremost rule wins.** -/
theorem resolveAssigneeFor_eq_find? {text : String} {s : Sender} (h : Sender.parse? text = some s)
    (rules : List AssigneeRule) :
    resolveAssigneeFor s rules
      = (rules.find? fun rule => rule.IsForemost text rules).bind (·.resolve? s) := by
  have hsearch : resolveAssigneeFor s rules
      = (evaluationOrder (rules.filter (·.applies s))).findSome? (·.resolve? s) := by
    rw [← filter_evaluationOrder, resolveAssigneeFor]
    refine (findSome?_filter fun rule hrule => ?_).symm
    rw [← Option.not_isSome_iff_eq_none, AssigneeRule.isSome_resolve?_iff, hrule]
    exact Bool.false_ne_true
  rw [hsearch]
  cases horder : evaluationOrder (rules.filter (·.applies s)) with
  | nil =>
    have hnone : (rules.find? fun rule => rule.IsForemost text rules) = none := by
      refine List.find?_eq_none.mpr fun rule hrule hforemost => ?_
      have happlies := (AssigneeRule.contends_iff h).mp (of_decide_eq_true hforemost).1
      have hmem : rule ∈ rules.filter (·.applies s) := List.mem_filter.mpr ⟨hrule, happlies⟩
      rw [← mem_evaluationOrder, horder] at hmem
      exact absurd hmem List.not_mem_nil
    rw [hnone]
    rfl
  | cons first rest =>
    have happlies : first.applies s = true := by
      have hmem : first ∈ evaluationOrder (rules.filter (·.applies s)) := by
        rw [horder]
        exact List.mem_cons_self
      exact (List.mem_filter.mp (mem_evaluationOrder.mp hmem)).2
    obtain ⟨winner, hwinner⟩ :=
      Option.isSome_iff_exists.mp (AssigneeRule.isSome_resolve?_iff.mpr happlies)
    rw [find?_isForemost_of_evaluationOrder h horder, Option.bind_some, List.findSome?_cons, hwinner]

/-- What the rule comes to for the sender that a text names, whether or not it is enabled. -/
def AssigneeRule.resolveFor? (text : String) (rule : AssigneeRule) : Option ResolvedAssignee :=
  (matchAssigneeRule text rule).map fun reason =>
    { ruleId := rule.id, assigneeEmail := rule.assigneeEmail, priority := rule.priority, reason }

theorem resolveAssignee_eq_find? (text : String) (rules : List AssigneeRule) :
    resolveAssignee text rules
      = (rules.find? fun rule => rule.IsForemost text rules).bind (·.resolveFor? text) := by
  rw [resolveAssignee]
  cases hparse : Sender.parse? text with
  | none =>
    have hnone : (rules.find? fun rule => rule.IsForemost text rules) = none :=
      List.find?_eq_none.mpr fun rule _ hforemost =>
        AssigneeRule.not_contends hparse (of_decide_eq_true hforemost).1
    rw [hnone]
    rfl
  | some s =>
    rw [Option.bind_some, resolveAssigneeFor_eq_find? hparse]
    refine Option.bind_congr fun rule hrule => ?_
    have henabled := (AssigneeRule.isForemost_of_find? hrule).1.1
    rw [AssigneeRule.resolve?, if_pos henabled, AssigneeRule.resolveFor?, matchAssigneeRule, hparse,
      Option.bind_some]

theorem resolveAssignee_eq_none_iff {text : String} {rules : List AssigneeRule} :
    resolveAssignee text rules = none
      ↔ ∀ rule ∈ rules, rule.enabled = true → matchAssigneeRule text rule = none := by
  simp only [← AssigneeRule.not_contends_iff]
  cases hparse : Sender.parse? text with
  | none =>
    rw [resolveAssignee, hparse]
    exact iff_of_true rfl fun _ _ => AssigneeRule.not_contends hparse
  | some s =>
    simp only [AssigneeRule.contends_iff hparse, ← AssigneeRule.isSome_resolve?_iff,
      Option.not_isSome_iff_eq_none]
    rw [resolveAssignee, hparse, Option.bind_some, resolveAssigneeFor, List.findSome?_eq_none_iff]
    exact forall_congr' fun rule => imp_congr_left mem_evaluationOrder

/-- Whether somebody is assigned does not depend on the order of the list. -/
theorem resolveAssignee_eq_none_congr {text : String} {rules rules' : List AssigneeRule}
    (hperm : rules'.Perm rules) :
    resolveAssignee text rules' = none ↔ resolveAssignee text rules = none := by
  rw [resolveAssignee_eq_none_iff, resolveAssignee_eq_none_iff]
  exact forall_congr' fun _ => imp_congr_left hperm.mem_iff

/-- Whoever wins does so through a foremost rule. -/
theorem exists_isForemost_of_resolveAssignee {text : String} {rules : List AssigneeRule}
    {winner : ResolvedAssignee} (h : resolveAssignee text rules = some winner) :
    ∃ rule ∈ rules, rule.IsForemost text rules ∧ rule.resolveFor? text = some winner := by
  rw [resolveAssignee_eq_find?] at h
  obtain ⟨rule, hfind, hwinner⟩ := Option.bind_eq_some_iff.mp h
  exact ⟨rule, List.mem_of_find?_eq_some hfind, AssigneeRule.isForemost_of_find? hfind, hwinner⟩

theorem AssigneeRule.priority_of_resolveFor? {text : String} {rule : AssigneeRule}
    {winner : ResolvedAssignee} (h : rule.resolveFor? text = some winner) :
    winner.priority = rule.priority := by
  obtain ⟨reason, -, rfl⟩ := Option.map_eq_some_iff.mp h
  rfl

/-- In another order of the list another rule may win, but that rule is foremost as well. -/
theorem exists_isForemost_of_perm {text : String} {rules rules' : List AssigneeRule}
    (hperm : rules'.Perm rules) {winner : ResolvedAssignee}
    (h : resolveAssignee text rules = some winner) :
    ∃ winner', resolveAssignee text rules' = some winner'
      ∧ ∃ rule ∈ rules, ∃ other ∈ rules, rule.IsForemost text rules ∧ other.IsForemost text rules
        ∧ rule.resolveFor? text = some winner ∧ other.resolveFor? text = some winner' := by
  have hsome : resolveAssignee text rules' ≠ none := by
    rw [Ne, resolveAssignee_eq_none_congr hperm, h]
    exact Option.some_ne_none winner
  obtain ⟨winner', h'⟩ := Option.ne_none_iff_exists'.mp hsome
  obtain ⟨rule, hmem, hforemost, hwinner⟩ := exists_isForemost_of_resolveAssignee h
  obtain ⟨other, hmem', hforemost', hwinner'⟩ := exists_isForemost_of_resolveAssignee h'
  exact ⟨winner', h', rule, hmem, other, hperm.mem_iff.mp hmem', hforemost,
    (AssigneeRule.isForemost_congr hperm).mp hforemost', hwinner, hwinner'⟩

/-- **The first rule with the smallest priority wins.**  Nobody is assigned exactly when no enabled
rule covers the sender; otherwise the first foremost rule of the list gives the assignee.  Another
order of the list leaves the winner's priority as it is, and the winner, too, unless two different
rules are foremost. -/
theorem resolveAssignee_leastFirst (text : String) (rules : List AssigneeRule) :
    (resolveAssignee text rules = none
        ↔ ∀ rule ∈ rules, rule.enabled = true → matchAssigneeRule text rule = none)
      ∧ resolveAssignee text rules
        = (rules.find? fun rule => rule.IsForemost text rules).bind (·.resolveFor? text)
      ∧ ∀ rules', rules'.Perm rules →
        (resolveAssignee text rules').map (·.priority)
            = (resolveAssignee text rules).map (·.priority)
          ∧ ((∀ rule ∈ rules, ∀ other ∈ rules, rule.IsForemost text rules →
              other.IsForemost text rules → rule = other) →
            resolveAssignee text rules' = resolveAssignee text rules) := by
  refine ⟨resolveAssignee_eq_none_iff, resolveAssignee_eq_find? text rules, fun rules' hperm => ?_⟩
  cases h : resolveAssignee text rules with
  | none =>
    rw [(resolveAssignee_eq_none_congr hperm).mpr h]
    exact ⟨rfl, fun _ => rfl⟩
  | some winner =>
    obtain ⟨winner', h', rule, hmem, other, hmem', hforemost, hforemost', hwinner, hwinner'⟩ :=
      exists_isForemost_of_perm hperm h
    rw [h', Option.map_some, Option.map_some, AssigneeRule.priority_of_resolveFor? hwinner,
      AssigneeRule.priority_of_resolveFor? hwinner', hforemost.priority_eq hforemost' hmem hmem']
    refine ⟨rfl, fun hunique => ?_⟩
    rw [← hwinner, ← hwinner', hunique rule hmem other hmem' hforemost hforemost']

/-- A rule of the support desk for the senders of one domain. -/
def deskRule (id : String) (priority : Int64) (enabled : Bool) : AssigneeRule :=
  { id, enabled, priority, condition := { domain := some "@Vendor.io" }
    assigneeEmail := id ++ "@desk.io", unassignedOnly := true, broadDomainConfirmed := false
    createdAt := .epoch, updatedAt := none }

/-- Of two enabled rules the one with the smaller priority wins in either order, and the disabled one
with a still smaller priority does not count. -/
theorem resolveAssignee_leastFirst_desk :
    resolveAssignee "X@vendor.io" [deskRule "off" (-1) false, deskRule "ann" 0 true,
        deskRule "bob" 5 true]
      = resolveAssignee "X@vendor.io" [deskRule "bob" 5 true, deskRule "off" (-1) false,
        deskRule "ann" 0 true] := by
  have hperm : [deskRule "off" (-1) false, deskRule "ann" 0 true, deskRule "bob" 5 true].Perm
      [deskRule "bob" 5 true, deskRule "off" (-1) false, deskRule "ann" 0 true] :=
    List.perm_append_singleton (deskRule "bob" 5 true)
      [deskRule "off" (-1) false, deskRule "ann" 0 true]
  exact ((resolveAssignee_leastFirst _ _).2.2 _ hperm).2 (by decide +kernel)

end MailTriage
