import MailTriage.Proofs.Rule.Decision

/-! # Labels are collected rule by rule

What some label rules decide for a sender is what one pass over them collects: a rule that does not
apply is passed over, one that does adds its labels and gives its assignment if none has been given
yet (`decideLabelsFor_eq_foldl`).  The labels are a union and do not depend on the order, the
assignment goes to the first rule that has one.  Both are joined in one operation that is associative
(`LabelDecision.join`), and whatever has been collected already, the remaining rules add to it what
they decide by themselves (`foldl_collect`); the laws of `decideLabels_distributes` follow.
-/
namespace MailTriage

namespace TextSet

@[simp] theorem empty_union (s : TextSet) : ∅ ∪ s = s := ext fun _ => by simp

@[simp] theorem union_empty (s : TextSet) : s ∪ ∅ = s := ext fun _ => by simp

theorem union_assoc (s t u : TextSet) : s ∪ t ∪ u = s ∪ (t ∪ u) := ext fun _ => by simp [or_assoc]

end TextSet

/-! ### Joined decisions -/

namespace LabelDecision

/-- One decision after another: the labels of both, and the assignment of the first that has one. -/
def join (d e : LabelDecision) : LabelDecision where
  labels := d.labels ∪ e.labels
  assignTo := d.assignTo.or e.assignTo

@[simp] theorem empty_join (d : LabelDecision) : join {} d = d := by
  simp [join]

@[simp] theorem join_empty (d : LabelDecision) : d.join {} = d := by
  simp [join]

theorem join_assoc (d e f : LabelDecision) : (d.join e).join f = d.join (e.join f) := by
  simp [join, TextSet.union_assoc, Option.or_assoc]

/-- What a pass over label rules has collected after one rule more. -/
def collect (s : Sender) (d : LabelDecision) (rule : LabelRule) : LabelDecision :=
  if rule.applies s then d.join { labels := rule.labels, assignTo := rule.assignTo } else d

end LabelDecision

/-! ### One pass over the rules -/

section
variable {s : Sender}

theorem decideLabelsFor_cons_of_applies {rule : LabelRule} (h : rule.applies s = true)
    (rest : List LabelRule) :
    decideLabelsFor s (rule :: rest)
      = LabelDecision.join { labels := rule.labels, assignTo := rule.assignTo }
          (decideLabelsFor s rest) := by
  have hfilter : (rule :: rest).filter (·.applies s) = rule :: rest.filter (·.applies s) :=
    List.filter_cons_of_pos h
  rw [decideLabelsFor, hfilter, List.findSome?_cons, decideLabelsFor, LabelDecision.join]
  cases rule.assignTo <;> rfl

theorem decideLabelsFor_cons_of_not_applies {rule : LabelRule} (h : ¬ rule.applies s = true)
    (rest : List LabelRule) : decideLabelsFor s (rule :: rest) = decideLabelsFor s rest := by
  have hfilter : (rule :: rest).filter (·.applies s) = rest.filter (·.applies s) :=
    List.filter_cons_of_neg h
  rw [decideLabelsFor, hfilter, decideLabelsFor]

/-- **What is left of a pass adds what it decides by itself**, whatever has been collected. -/
theorem foldl_collect (d : LabelDecision) (rules : List LabelRule) :
    rules.foldl (LabelDecision.collect s) d = d.join (decideLabelsFor s rules) := by
  induction rules generalizing d with
  | nil => exact d.join_empty.symm
  | cons rule rest ih =>
    rw [List.foldl_cons, ih, LabelDecision.collect]
    by_cases h : rule.applies s = true
    · rw [if_pos h, LabelDecision.join_assoc, decideLabelsFor_cons_of_applies h]
    · rw [if_neg h, decideLabelsFor_cons_of_not_applies h]

/-- The decision is what a pass over all rules collects. -/
theorem decideLabelsFor_eq_foldl (s : Sender) (rules : List LabelRule) :
    decideLabelsFor s rules = rules.foldl (LabelDecision.collect s) {} := by
  rw [foldl_collect, LabelDecision.empty_join]

theorem decideLabelsFor_append (front back : List LabelRule) :
    decideLabelsFor s (front ++ back)
      = (decideLabelsFor s front).join (decideLabelsFor s back) := by
  rw [decideLabelsFor_eq_foldl, List.foldl_append, foldl_collect, ← decideLabelsFor_eq_foldl]

theorem mem_labels_decideLabelsFor {label : String} {rules : List LabelRule} :
    label ∈ (decideLabelsFor s rules).labels
      ↔ ∃ rule ∈ rules, rule.applies s = true ∧ label ∈ rule.labels := by
  show label ∈ TextSet.unions ((rules.filter (·.applies s)).map (·.labels)) ↔ _
  simp only [TextSet.mem_unions, List.mem_map, List.mem_filter]
  constructor
  · rintro ⟨_, ⟨rule, ⟨hrule, happlies⟩, rfl⟩, hlabel⟩
    exact ⟨rule, hrule, happlies, hlabel⟩
  · rintro ⟨rule, hrule, happlies, hlabel⟩
    exact ⟨_, ⟨rule, ⟨hrule, happlies⟩, rfl⟩, hlabel⟩

end

/-! ### The sender that a text names -/

/-- The rule is enabled and covers the sender that a text names. -/
def LabelRule.AppliesTo (text : String) (rule : LabelRule) : Prop :=
  rule.enabled = true ∧ ∃ s, Sender.parse? text = some s ∧ rule.condition.covers s = true

section
variable {text : String} {rule : LabelRule} {rules rules' : List LabelRule}

theorem LabelRule.appliesTo_iff {s : Sender} (h : Sender.parse? text = some s) :
    rule.AppliesTo text ↔ rule.applies s = true := by
  simp [AppliesTo, applies, h]

theorem decideLabels_append (text : String) (front back : List LabelRule) :
    decideLabels text (front ++ back)
      = (decideLabels text front).join (decideLabels text back) := by
  simp only [decideLabels_eq]
  cases Sender.parse? text with
  | none => rfl
  | some s => exact decideLabelsFor_append front back

theorem mem_labels_decideLabels {label : String} :
    label ∈ (decideLabels text rules).labels
      ↔ ∃ rule ∈ rules, rule.AppliesTo text ∧ label ∈ rule.labels := by
  rw [decideLabels_eq]
  cases hparse : Sender.parse? text with
  | none => simp [LabelRule.AppliesTo, hparse]
  | some s =>
    simp only [LabelRule.appliesTo_iff hparse]
    exact mem_labels_decideLabelsFor

/-- A rule that does not apply decides nothing. -/
theorem decideLabels_singleton_of_not (h : ¬ rule.AppliesTo text) : decideLabels text [rule] = {} := by
  rw [decideLabels_eq]
  cases hparse : Sender.parse? text with
  | none => rfl
  | some s =>
    rw [LabelRule.appliesTo_iff hparse] at h
    exact decideLabelsFor_cons_of_not_applies h []

theorem mem_labels_of_subset (h : rules ⊆ rules') {label : String}
    (hlabel : label ∈ (decideLabels text rules).labels) :
    label ∈ (decideLabels text rules').labels := by
  obtain ⟨rule, hrule, happlies, hmem⟩ := mem_labels_decideLabels.mp hlabel
  exact mem_labels_decideLabels.mpr ⟨rule, h hrule, happlies, hmem⟩

end

/-- **Labels are collected rule by rule.**  Two lists of rules decide together the labels of both,
and the assignment of the first unless it has none.  The labels are those of the rules that apply;
more rules give no fewer labels, and neither the order of the rules nor how often a rule is listed
shows in them.  A rule that does not apply may stand anywhere without an effect. -/
theorem decideLabels_distributes (text : String) :
    (∀ front back, decideLabels text (front ++ back)
        = { labels := (decideLabels text front).labels ∪ (decideLabels text back).labels
            assignTo := (decideLabels text front).assignTo.or (decideLabels text back).assignTo })
      ∧ (∀ rules label, label ∈ (decideLabels text rules).labels
        ↔ ∃ rule ∈ rules, rule.AppliesTo text ∧ label ∈ rule.labels)
      ∧ (∀ rules rules', rules ⊆ rules' → ∀ label ∈ (decideLabels text rules).labels,
        label ∈ (decideLabels text rules').labels)
      ∧ (∀ rules rules', (∀ rule, rule ∈ rules ↔ rule ∈ rules') →
        (decideLabels text rules).labels = (decideLabels text rules').labels)
      ∧ ∀ front back rule, ¬ rule.AppliesTo text →
        decideLabels text (front ++ rule :: back) = decideLabels text (front ++ back) := by
  refine ⟨decideLabels_append text, fun rules label => mem_labels_decideLabels,
    fun rules rules' hsub label => mem_labels_of_subset hsub, fun rules rules' hsame => ?_,
    fun front back rule hrule => ?_⟩
  · refine TextSet.ext fun label => ⟨mem_labels_of_subset ?_, mem_labels_of_subset ?_⟩
    · exact fun rule => (hsame rule).mp
    · exact fun rule => (hsame rule).mpr
  · rw [← List.singleton_append, decideLabels_append, decideLabels_append,
      decideLabels_singleton_of_not hrule, LabelDecision.empty_join, decideLabels_append]

/-- A rule of the support desk for the senders of one domain. -/
def deskLabelRule (id label : String) (enabled : Bool) : LabelRule :=
  { id, condition := { domain := some "@Vendor.io" }, labels := .singleton label
    assignTo := some (.assignee (id ++ "@desk.io")), enabled, createdAt := .epoch }

/-- Between two rules for a domain a disabled one has no effect, and listing one of the two once more
and in front does not show in the labels. -/
theorem decideLabels_distributes_desk :
    decideLabels "X@vendor.io" [deskLabelRule "ann" "VIP" true, deskLabelRule "off" "Old" false,
          deskLabelRule "bob" "News" true]
        = decideLabels "X@vendor.io" [deskLabelRule "ann" "VIP" true,
          deskLabelRule "bob" "News" true]
      ∧ (decideLabels "X@vendor.io" [deskLabelRule "bob" "News" true,
          deskLabelRule "ann" "VIP" true, deskLabelRule "bob" "News" true]).labels
        = (decideLabels "X@vendor.io" [deskLabelRule "ann" "VIP" true,
          deskLabelRule "bob" "News" true]).labels
      ∧ ∀ label ∈ (decideLabels "X@vendor.io" [deskLabelRule "bob" "News" true]).labels,
        label ∈ (decideLabels "X@vendor.io" [deskLabelRule "ann" "VIP" true,
          deskLabelRule "bob" "News" true]).labels := by
  obtain ⟨-, -, hmore, hsame, hinert⟩ := decideLabels_distributes "X@vendor.io"
  have hoff : ¬ (deskLabelRule "off" "Old" false).AppliesTo "X@vendor.io" :=
    fun happlies => absurd happlies.1 Bool.false_ne_true
  refine ⟨hinert [deskLabelRule "ann" "VIP" true] _ _ hoff, hsame _ _ fun rule => ?_,
    hmore _ _ (List.subset_cons_self _ _)⟩
  simp only [List.mem_cons, List.not_mem_nil, or_false]
  constructor
  · rintro (h | h | h) <;> simp [h]
  · rintro (h | h) <;> simp [h]

end MailTriage
