import MailTriage.Proofs.Inspection.Overlap

/-! # Conflicts of two rules, in either order

Conflicts are looked for in each pair of a list.  The rules of a conflict are named in the order of
their ids, so of rules with different ids no two pairs give conflicts with the same key
(`pairwise_pairwiseFindings`), and the conflict of two rules is the same in either order, but for
what their conditions have in common (`Conflict.map_withoutOverlap_between_comm`).
-/
namespace MailTriage

/-! ### Findings in pairs -/

section
variable {α β : Type} {test : α → α → Option β} {l l' : List α}

theorem pairwiseFindings_map {γ : Type} (f : β → γ) (test : α → α → Option β) (l : List α) :
    pairwiseFindings (fun a b => (test a b).map f) l = (pairwiseFindings test l).map f := by
  induction l with
  | nil => rfl
  | cons a rest ih =>
    rw [pairwiseFindings, pairwiseFindings, ih, List.map_append, List.map_filterMap]

/-- A test that does not depend on the order of a pair finds the same in whichever order the members
of a list come. -/
theorem pairwiseFindings_perm (h : l.Perm l')
    (hsymm : ∀ a ∈ l, ∀ b ∈ l, test a b = test b a) :
    (pairwiseFindings test l).Perm (pairwiseFindings test l') := by
  induction h with
  | nil => exact .refl _
  | cons a hrest ih =>
    refine (hrest.filterMap (test a)).append (ih fun b hb c hc => ?_)
    exact hsymm b (List.mem_cons_of_mem a hb) c (List.mem_cons_of_mem a hc)
  | swap a b rest =>
    have hpair : test b a = test a b := hsymm b List.mem_cons_self a (by simp)
    simp only [pairwiseFindings, List.filterMap_cons, hpair]
    cases test a b with
    | none =>
      simp only [← List.append_assoc]
      exact List.perm_append_comm.append_right _
    | some found =>
      simp only [List.cons_append, ← List.append_assoc]
      exact (List.perm_append_comm.append_right _).cons found
  | trans h₁ h₂ ih₁ ih₂ =>
    refine (ih₁ hsymm).trans (ih₂ fun a ha b hb => ?_)
    exact hsymm a (h₁.mem_iff.mpr ha) b (h₁.mem_iff.mpr hb)

/-- The same where some part of each finding is left out, of members that are told apart by a key. -/
theorem map_pairwiseFindings_perm {γ δ : Type} (blur : β → γ) (key : α → δ) (h : l.Perm l')
    (hkeys : (l.map key).Nodup)
    (hsymm : ∀ a ∈ l, ∀ b ∈ l, key a ≠ key b → (test a b).map blur = (test b a).map blur) :
    ((pairwiseFindings test l).map blur).Perm ((pairwiseFindings test l').map blur) := by
  rw [← pairwiseFindings_map, ← pairwiseFindings_map]
  refine pairwiseFindings_perm h fun a ha b hb => ?_
  by_cases heq : a = b
  · rw [heq]
  · have hdiffer : l.Pairwise fun a b => key a ≠ key b := List.pairwise_map.mp hkeys
    rcases sublist_of_mem_of_ne ha hb heq with hsub | hsub
    · have hne := List.pairwise_pair.mp (hdiffer.sublist hsub)
      exact hsymm a ha b hb hne
    · have hne := List.pairwise_pair.mp (hdiffer.sublist hsub)
      exact hsymm a ha b hb hne.symm

end

/-! ### One conflict for each pair -/

namespace Conflict

theorem IsBetween.mem_ruleIds_iff {c : Conflict} {kind : ConflictKind} {a b id : String}
    (h : c.IsBetween kind a b) : id ∈ c.ruleIds ↔ id = a ∨ id = b := by
  rw [h.2.1.mem_iff]
  simp

/-- Two conflicts that one rule has with different rules do not name the same rules. -/
theorem IsBetween.ruleIds_ne {c c' : Conflict} {kind kind' : ConflictKind} {a b b' : String}
    (h : c.IsBetween kind a b) (h' : c'.IsBetween kind' a b') (hne : b ≠ b') :
    c.ruleIds ≠ c'.ruleIds := by
  intro heq
  have hperm : [a, b].Perm [a, b'] := (heq ▸ h.2.1).symm.trans h'.2.1
  have htail := List.Perm.cons_inv hperm
  exact hne (List.singleton_inj.mp (List.singleton_perm_singleton.mp htail ▸ rfl))

end Conflict

section
variable {α : Type} {test : α → α → Option Conflict} {kind : ConflictKind} {idOf : α → String}

/-- The conflicts among rules with different ids do not name the same two rules twice. -/
theorem pairwise_pairwiseFindings {l : List α} (hids : (l.map idOf).Nodup)
    (hbetween : ∀ a b c, test a b = some c → c.IsBetween kind (idOf a) (idOf b)) :
    (pairwiseFindings test l).Pairwise fun c c' => c.ruleIds ≠ c'.ruleIds := by
  induction l with
  | nil => exact .nil
  | cons a rest ih =>
    rw [List.map_cons, List.nodup_cons] at hids
    rw [pairwiseFindings, List.pairwise_append]
    refine ⟨?_, ih hids.2, ?_⟩
    · rw [List.pairwise_filterMap]
      refine (List.pairwise_map.mp hids.2).imp fun {b b'} hne c hc c' hc' => ?_
      exact (hbetween a b c hc).ruleIds_ne (hbetween a b' c' hc') hne
    · -- a later pair does not have the first rule in it
      intro c hc c' hc' heq
      obtain ⟨b, -, htest⟩ := List.mem_filterMap.mp hc
      obtain ⟨x, y, hsub, htest'⟩ := mem_pairwiseFindings.mp hc'
      have hmem : idOf a ∈ c'.ruleIds :=
        heq ▸ (hbetween a b c htest).mem_ruleIds_iff.mpr (.inl rfl)
      rcases (hbetween x y c' htest').mem_ruleIds_iff.mp hmem with h | h
      · exact hids.1 (h ▸ List.mem_map_of_mem (hsub.subset List.mem_cons_self))
      · exact hids.1 (h ▸ List.mem_map_of_mem (hsub.subset (by simp)))

/-- If two rules come first in a list, what is found for them is what the test finds for them in
this order. -/
theorem eq_of_mem_pairwiseFindings_cons {a b : α} {rest : List α} {c d : Conflict}
    (hids : ((a :: b :: rest).map idOf).Nodup)
    (hbetween : ∀ a b c, test a b = some c → c.IsBetween kind (idOf a) (idOf b))
    (htest : test a b = some c) (hd : d ∈ pairwiseFindings test (a :: b :: rest))
    (heq : d.ruleIds = c.ruleIds) : d = c := by
  have hkeys := pairwise_pairwiseFindings hids hbetween
  rw [pairwiseFindings, List.filterMap_cons_some htest, List.cons_append] at hd hkeys
  rcases List.mem_cons.mp hd with hd | hd
  · exact hd
  · -- no later conflict names the two rules again
    exact absurd heq.symm ((List.pairwise_cons.mp hkeys).1 d hd)

end

/-! ### The order of a report -/

theorem ConflictKind.rank_inj {k l : ConflictKind} : k.rank = l.rank ↔ k = l := by
  cases k <;> cases l <;> simp [ConflictKind.rank]

namespace Conflict

/-- What a report shows of a conflict: the kind, the ids of the rules, what their conditions have in
common, what they decide, and the message. -/
def shown (c : Conflict) : ConflictKind × List String × String × List String × String :=
  (c.kind, c.ruleIds, c.overlap.describe, c.results, c.message)

/-- Two conflicts are of one kind and name the same rules. -/
def SameKey (c d : Conflict) : Prop := c.kind = d.kind ∧ c.ruleIds = d.ruleIds

theorem ruleIds_eq_iff {c d : Conflict} :
    c.ruleIds = d.ruleIds ↔ c.firstId = d.firstId ∧ c.secondId = d.secondId := by
  simp [ruleIds]

theorem reportedBefore_iff {c d : Conflict} :
    reportedBefore c d = true ↔ c.kind.rank < d.kind.rank
      ∨ c.kind.rank = d.kind.rank ∧ (c.firstId < d.firstId
        ∨ c.firstId = d.firstId ∧ c.secondId ≤ d.secondId) := by
  rw [reportedBefore]
  by_cases hkind : c.kind.rank = d.kind.rank
  · by_cases hfirst : c.firstId = d.firstId
    · simp [hkind, hfirst]
    · simp [hkind, hfirst]
  · simp [hkind]

theorem reportedBefore_trans (a b c : Conflict) (hab : reportedBefore a b = true)
    (hbc : reportedBefore b c = true) : reportedBefore a c = true := by
  rw [reportedBefore_iff] at *
  rcases hab with hab | ⟨hab, hab' | ⟨hab', hab''⟩⟩ <;>
    rcases hbc with hbc | ⟨hbc, hbc' | ⟨hbc', hbc''⟩⟩ <;>
    grind [String.lt_trans, String.le_trans]

theorem reportedBefore_total (a b : Conflict) :
    (reportedBefore a b || reportedBefore b a) = true := by
  rw [Bool.or_eq_true, reportedBefore_iff, reportedBefore_iff]
  rcases Nat.lt_trichotomy a.kind.rank b.kind.rank with h | h | h
  · exact .inl (.inl h)
  · by_cases hlt : a.firstId < b.firstId
    · exact .inl (.inr ⟨h, .inl hlt⟩)
    · by_cases hgt : b.firstId < a.firstId
      · exact .inr (.inr ⟨h.symm, .inl hgt⟩)
      · have heq := String.le_antisymm (String.not_lt.mp hgt) (String.not_lt.mp hlt)
        rcases String.le_total a.secondId b.secondId with hle | hle
        · exact .inl (.inr ⟨h, .inr ⟨heq, hle⟩⟩)
        · exact .inr (.inr ⟨h.symm, .inr ⟨heq.symm, hle⟩⟩)
  · exact .inr (.inl h)

theorem reportedBefore_antisymm {a b : Conflict} (hab : reportedBefore a b = true)
    (hba : reportedBefore b a = true) : a.SameKey b := by
  rw [reportedBefore_iff] at hab hba
  rw [SameKey, ruleIds_eq_iff, ← ConflictKind.rank_inj]
  grind [String.le_antisymm, String.lt_asymm]

theorem SameKey.symm {c d : Conflict} (h : c.SameKey d) : d.SameKey c := ⟨h.1.symm, h.2.symm⟩

/-- The same conflict without what the conditions have in common. -/
def withoutOverlap (c : Conflict) : Conflict := { c with overlap := .sameEmail "" }

theorem between_comm {kind : ConflictKind} {overlap : Overlap} {priority : Option Int64}
    {a b : String × String} (h : a.1 ≠ b.1) :
    between kind overlap priority a b = between kind overlap priority b a := by
  rw [between, between]
  by_cases hlt : a.1 < b.1
  · rw [if_pos hlt, if_neg (String.lt_asymm hlt)]
  · have hgt : b.1 < a.1 := by
      rcases String.le_total a.1 b.1 with hle | hle
      · exact absurd (String.le_antisymm hle (String.not_lt.mp hlt)) h
      · exact String.not_le.mp fun hle' => h (String.le_antisymm hle' hle)
    rw [if_pos hgt, if_neg hlt]

theorem ruleIds_between (kind : ConflictKind) (overlap overlap' : Overlap)
    (priority : Option Int64) (a b : String × String) :
    (between kind overlap priority a b).ruleIds = (between kind overlap' priority a b).ruleIds := rfl

theorem withoutOverlap_between (kind : ConflictKind) (overlap : Overlap)
    (priority : Option Int64) (a b : String × String) :
    (between kind overlap priority a b).withoutOverlap
      = between kind (.sameEmail "") priority a b := by
  rw [between, between]
  by_cases h : b.1 < a.1
  · rw [if_pos h]
    rfl
  · rw [if_neg h]
    rfl

section
variable {c d : Condition} {kind : ConflictKind} {priority : Option Int64} {a b : String × String}

theorem map_between_comm (hid : a.1 ≠ b.1) (h : ¬ c.Crosses d) :
    (c.overlap? d).map (between kind · priority a b)
      = (d.overlap? c).map (between kind · priority b a) := by
  rw [Condition.overlap?_comm h]
  simp only [between_comm hid]

/-- But for what the conditions have in common, the order of two rules never shows. -/
theorem map_withoutOverlap_between_comm (hid : a.1 ≠ b.1) :
    ((c.overlap? d).map (between kind · priority a b)).map withoutOverlap
      = ((d.overlap? c).map (between kind · priority b a)).map withoutOverlap := by
  have hsome := Condition.isSome_overlap?_comm c d
  simp only [Option.map_map, Function.comp_def, withoutOverlap_between, between_comm hid]
  cases hcd : c.overlap? d with
  | none =>
    rw [hcd] at hsome
    rw [Option.isNone_iff_eq_none.mp (Option.isSome_eq_false_iff.mp hsome.symm)]
  | some overlap =>
    rw [hcd] at hsome
    obtain ⟨overlap', hdc⟩ := Option.isSome_iff_exists.mp hsome.symm
    rw [hdc]
    rfl

end

end Conflict

/-! ### Conflicts of rules in either order -/

/-- Two enabled label rules put different labels on messages, and their conditions cross. -/
def LabelRule.Crosses (a b : LabelRule) : Prop :=
  a.enabled = true ∧ b.enabled = true ∧ a.labels ≠ b.labels ∧ a.condition.Crosses b.condition

/-- Two enabled assignee rules of one priority name different people, and their conditions cross. -/
def AssigneeRule.Crosses (a b : AssigneeRule) : Prop :=
  a.enabled = true ∧ b.enabled = true ∧ a.priority = b.priority
    ∧ Text.eqIgnoringAsciiCase a.assigneeEmail b.assigneeEmail = false
    ∧ a.condition.Crosses b.condition

namespace LabelRule

variable {a b : LabelRule} {c : Conflict}

theorem conflict?_eq_some_iff :
    a.conflict? b = some c ↔ a.labels ≠ b.labels ∧ ∃ overlap,
      a.condition.overlap? b.condition = some overlap
        ∧ .between .labelLabel overlap none (a.id, a.result) (b.id, b.result) = c := by
  rw [conflict?]
  split
  · next h =>
    constructor
    · intro hnone
      cases hnone
    · rintro ⟨hne, -⟩
      exact absurd h hne
  · next h => simp [h]

/-- Two rules for different labels conflict in what their conditions overlap in. -/
theorem conflict?_of_ne (hlabels : a.labels ≠ b.labels) :
    a.conflict? b = (a.condition.overlap? b.condition).map fun overlap =>
      .between .labelLabel overlap none (a.id, a.result) (b.id, b.result) := by
  rw [conflict?, if_neg hlabels]

theorem isBetween_of_conflict? (h : a.conflict? b = some c) :
    c.IsBetween .labelLabel a.id b.id := by
  obtain ⟨-, overlap, -, rfl⟩ := conflict?_eq_some_iff.mp h
  exact Conflict.isBetween_between .labelLabel overlap none (a.id, a.result) (b.id, b.result)

theorem conflict?_comm (hid : a.id ≠ b.id) (h : ¬ a.condition.Crosses b.condition) :
    a.conflict? b = b.conflict? a := by
  by_cases hlabels : a.labels = b.labels
  · rw [conflict?, conflict?, if_pos hlabels, if_pos hlabels.symm]
  · rw [conflict?_of_ne hlabels, conflict?_of_ne (Ne.symm hlabels)]
    exact Conflict.map_between_comm hid h

theorem map_withoutOverlap_conflict?_comm (hid : a.id ≠ b.id) :
    (a.conflict? b).map Conflict.withoutOverlap = (b.conflict? a).map Conflict.withoutOverlap := by
  by_cases hlabels : a.labels = b.labels
  · rw [conflict?, conflict?, if_pos hlabels, if_pos hlabels.symm]
  · rw [conflict?_of_ne hlabels, conflict?_of_ne (Ne.symm hlabels)]
    exact Conflict.map_withoutOverlap_between_comm hid

end LabelRule

namespace AssigneeRule

variable {a b : AssigneeRule} {c : Conflict}

theorem conflict?_eq_some_iff :
    a.conflict? b = some c ↔ a.priority = b.priority
      ∧ Text.eqIgnoringAsciiCase a.assigneeEmail b.assigneeEmail = false ∧ ∃ overlap,
        a.condition.overlap? b.condition = some overlap
          ∧ .between .assigneeAssignee overlap (some a.priority) (a.id, a.assigneeEmail)
            (b.id, b.assigneeEmail) = c := by
  rw [conflict?]
  split
  · next h =>
    constructor
    · intro hnone
      cases hnone
    · rintro ⟨hpriority, hemail, -⟩
      simp [hpriority, hemail] at h
  · next h =>
    simp only [Bool.or_eq_true, decide_eq_true_eq, not_or, Decidable.not_not,
      Bool.not_eq_true] at h
    simp [h]

theorem isBetween_of_conflict? (h : a.conflict? b = some c) :
    c.IsBetween .assigneeAssignee a.id b.id := by
  obtain ⟨-, -, overlap, -, rfl⟩ := conflict?_eq_some_iff.mp h
  exact Conflict.isBetween_between .assigneeAssignee overlap (some a.priority)
    (a.id, a.assigneeEmail) (b.id, b.assigneeEmail)

/-- Two rules of one priority for different people conflict in what their conditions overlap in. -/
theorem conflict?_of_ne (hpriority : a.priority = b.priority)
    (hemail : Text.eqIgnoringAsciiCase a.assigneeEmail b.assigneeEmail = false) :
    a.conflict? b = (a.condition.overlap? b.condition).map fun overlap =>
      .between .assigneeAssignee overlap (some a.priority) (a.id, a.assigneeEmail)
        (b.id, b.assigneeEmail) := by
  rw [conflict?, if_neg (by simp [hpriority, hemail])]

theorem conflict?_eq_none (h : ¬ (a.priority = b.priority
    ∧ Text.eqIgnoringAsciiCase a.assigneeEmail b.assigneeEmail = false)) :
    a.conflict? b = none := by
  refine Option.eq_none_iff_forall_ne_some.mpr fun c hc => h ?_
  obtain ⟨hpriority, hemail, -⟩ := conflict?_eq_some_iff.mp hc
  exact ⟨hpriority, hemail⟩

theorem conflict?_comm (hid : a.id ≠ b.id) (h : ¬ a.condition.Crosses b.condition) :
    a.conflict? b = b.conflict? a := by
  by_cases hdiffer : a.priority = b.priority
      ∧ Text.eqIgnoringAsciiCase a.assigneeEmail b.assigneeEmail = false
  · obtain ⟨hpriority, hemail⟩ := hdiffer
    rw [conflict?_of_ne hpriority hemail,
      conflict?_of_ne hpriority.symm (by rw [eqIgnoringAsciiCase_comm, hemail]), hpriority]
    exact Conflict.map_between_comm hid h
  · rw [conflict?_eq_none hdiffer, conflict?_eq_none]
    rwa [eq_comm, eqIgnoringAsciiCase_comm]

theorem map_withoutOverlap_conflict?_comm (hid : a.id ≠ b.id) :
    (a.conflict? b).map Conflict.withoutOverlap = (b.conflict? a).map Conflict.withoutOverlap := by
  by_cases hdiffer : a.priority = b.priority
      ∧ Text.eqIgnoringAsciiCase a.assigneeEmail b.assigneeEmail = false
  · obtain ⟨hpriority, hemail⟩ := hdiffer
    rw [conflict?_of_ne hpriority hemail,
      conflict?_of_ne hpriority.symm (by rw [eqIgnoringAsciiCase_comm, hemail]), hpriority]
    exact Conflict.map_withoutOverlap_between_comm hid
  · rw [conflict?_eq_none hdiffer, conflict?_eq_none]
    rwa [eq_comm, eqIgnoringAsciiCase_comm]

end AssigneeRule

end MailTriage
