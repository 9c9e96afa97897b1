import MailTriage.Proofs.Inspection.ConflictPairs

/-! # The order of the rules in a conflict report

A report lists conflicts by kind and ids, and no two of its conflicts share both
(`pairwise_findConflicts`).  So the order in which the rules come in can show in one place only, the
condition that two rules have in common.  It does show there, and exactly there: a report depends on
the order of the rules if and only if it has two rules in it that cross (`findConflicts_perm_iff`).
-/
namespace MailTriage

/-! ### Reports on the same rules in another order -/

theorem pairwise_labelConflicts {rules : List LabelRule} (hids : (rules.map (·.id)).Nodup) :
    (labelConflicts rules).Pairwise fun c d => c.ruleIds ≠ d.ruleIds :=
  pairwise_pairwiseFindings (hids.sublist (List.filter_sublist.map _))
    fun _ _ _ => LabelRule.isBetween_of_conflict?

theorem pairwise_assigneeConflicts {rules : List AssigneeRule} (hids : (rules.map (·.id)).Nodup) :
    (assigneeConflicts rules).Pairwise fun c d => c.ruleIds ≠ d.ruleIds :=
  pairwise_pairwiseFindings (hids.sublist (List.filter_sublist.map _))
    fun _ _ _ => AssigneeRule.isBetween_of_conflict?

theorem kind_of_mem_labelConflicts {rules : List LabelRule} {c : Conflict}
    (h : c ∈ labelConflicts rules) : c.kind = .labelLabel := by
  obtain ⟨a, b, -, htest⟩ := mem_pairwiseFindings.mp h
  exact (LabelRule.isBetween_of_conflict? htest).1

theorem kind_of_mem_assigneeConflicts {rules : List AssigneeRule} {c : Conflict}
    (h : c ∈ assigneeConflicts rules) : c.kind = .assigneeAssignee := by
  obtain ⟨a, b, -, htest⟩ := mem_pairwiseFindings.mp h
  exact (AssigneeRule.isBetween_of_conflict? htest).1

section
variable {labelRules labelRules' : List LabelRule} {assigneeRules assigneeRules' : List AssigneeRule}

/-- **No pair of rules is reported twice.** -/
theorem pairwise_findConflicts (hlabels : (labelRules.map (·.id)).Nodup)
    (hassignees : (assigneeRules.map (·.id)).Nodup) :
    (findConflicts labelRules assigneeRules).Pairwise fun c d => ¬ c.SameKey d := by
  have hsymm : ∀ {c d : Conflict}, ¬ c.SameKey d → ¬ d.SameKey c := fun h hdc => h hdc.symm
  rw [findConflicts, (List.mergeSort_perm _ _).pairwise_iff hsymm, List.pairwise_append]
  refine ⟨?_, ?_, ?_⟩
  · exact (pairwise_labelConflicts hlabels).imp fun hne hkey => hne hkey.2
  · exact (pairwise_assigneeConflicts hassignees).imp fun hne hkey => hne hkey.2
  · intro c hc d hd hkey
    have hkind := hkey.1
    rw [kind_of_mem_labelConflicts hc, kind_of_mem_assigneeConflicts hd] at hkind
    cases hkind

/-- Of a list in which no two conflicts name the same rules, each is known by its rules. -/
theorem Conflict.eq_of_sameKey {l : List Conflict} (h : l.Pairwise fun c d => ¬ c.SameKey d)
    {c d : Conflict} (hc : c ∈ l) (hd : d ∈ l) (hkey : c.SameKey d) : c = d := by
  by_cases heq : c = d
  · exact heq
  · rcases sublist_of_mem_of_ne hc hd heq with hsub | hsub
    · exact absurd hkey (List.pairwise_pair.mp (h.sublist hsub))
    · exact absurd hkey.symm (List.pairwise_pair.mp (h.sublist hsub))

/-- Reports with the same conflicts in them, in whichever order these were found, list them in the
same order; also when something is left out of each, but for its rules. -/
theorem map_findConflicts_eq (blur : Conflict → Conflict)
    (hkind : ∀ c, (blur c).kind = c.kind) (hids : ∀ c, (blur c).ruleIds = c.ruleIds)
    (hlabels : (labelRules.map (·.id)).Nodup) (hassignees : (assigneeRules.map (·.id)).Nodup)
    (hperm : ((labelConflicts labelRules' ++ assigneeConflicts assigneeRules').map blur).Perm
      ((labelConflicts labelRules ++ assigneeConflicts assigneeRules).map blur)) :
    (findConflicts labelRules' assigneeRules').map blur
      = (findConflicts labelRules assigneeRules).map blur := by
  -- what is left out plays no part in the order, so both reports are sorted after it is left out
  have hbefore : ∀ c d, Conflict.reportedBefore c d
      = Conflict.reportedBefore (blur c) (blur d) := by
    intro c d
    have hc := Conflict.ruleIds_eq_iff.mp (hids c)
    have hd := Conflict.ruleIds_eq_iff.mp (hids d)
    rw [Conflict.reportedBefore, Conflict.reportedBefore, hkind, hkind, hc.1, hc.2, hd.1, hd.2]
  have hsorted : ∀ found : List Conflict,
      ((found.mergeSort Conflict.reportedBefore).map blur).Pairwise
        fun c d => Conflict.reportedBefore c d = true := by
    intro found
    refine List.pairwise_map.mpr ?_
    simp only [← hbefore]
    exact List.pairwise_mergeSort Conflict.reportedBefore_trans Conflict.reportedBefore_total found
  have hkeys : ((findConflicts labelRules assigneeRules).map blur).Pairwise
      fun c d => ¬ c.SameKey d := by
    refine List.pairwise_map.mpr ((pairwise_findConflicts hlabels hassignees).imp ?_)
    intro c d hne hkey
    refine hne ?_
    rwa [Conflict.SameKey, hkind, hkind, hids, hids] at hkey
  have hsame : ((findConflicts labelRules' assigneeRules').map blur).Perm
      ((findConflicts labelRules assigneeRules).map blur) :=
    (((List.mergeSort_perm _ _).map blur).trans hperm).trans
      ((List.mergeSort_perm _ _).map blur).symm
  refine List.Perm.eq_of_pairwise (fun c d hc hd hcd hdc => ?_) (hsorted _) (hsorted _) hsame
  -- conflicts that stand before each other name the same rules, which only one conflict does
  exact Conflict.eq_of_sameKey hkeys (hsame.mem_iff.mp hc) hd
    (Conflict.reportedBefore_antisymm hcd hdc)

theorem map_labelConflicts_perm {γ : Type} (blur : Conflict → γ)
    (hperm : labelRules.Perm labelRules') (hids : (labelRules.map (·.id)).Nodup)
    (hsymm : ∀ a ∈ labelRules, ∀ b ∈ labelRules, a.enabled = true → b.enabled = true →
      a.id ≠ b.id → (a.conflict? b).map blur = (b.conflict? a).map blur) :
    ((labelConflicts labelRules).map blur).Perm ((labelConflicts labelRules').map blur) := by
  refine map_pairwiseFindings_perm blur LabelRule.id (hperm.filter _)
    (hids.sublist (List.filter_sublist.map _)) fun a ha b hb => ?_
  obtain ⟨ha, haOn⟩ := List.mem_filter.mp ha
  obtain ⟨hb, hbOn⟩ := List.mem_filter.mp hb
  exact hsymm a ha b hb haOn hbOn

theorem map_assigneeConflicts_perm {γ : Type} (blur : Conflict → γ)
    (hperm : assigneeRules.Perm assigneeRules') (hids : (assigneeRules.map (·.id)).Nodup)
    (hsymm : ∀ a ∈ assigneeRules, ∀ b ∈ assigneeRules, a.enabled = true → b.enabled = true →
      a.id ≠ b.id → (a.conflict? b).map blur = (b.conflict? a).map blur) :
    ((assigneeConflicts assigneeRules).map blur).Perm
      ((assigneeConflicts assigneeRules').map blur) := by
  refine map_pairwiseFindings_perm blur AssigneeRule.id (hperm.filter _)
    (hids.sublist (List.filter_sublist.map _)) fun a ha b hb => ?_
  obtain ⟨ha, haOn⟩ := List.mem_filter.mp ha
  obtain ⟨hb, hbOn⟩ := List.mem_filter.mp hb
  exact hsymm a ha b hb haOn hbOn

/-- Without crossed rules the order of the rules does not show at all. -/
theorem findConflicts_perm (hlabels : (labelRules.map (·.id)).Nodup)
    (hassignees : (assigneeRules.map (·.id)).Nodup)
    (hlabelCross : ∀ a ∈ labelRules, ∀ b ∈ labelRules, ¬ a.Crosses b)
    (hassigneeCross : ∀ a ∈ assigneeRules, ∀ b ∈ assigneeRules, ¬ a.Crosses b)
    (hlabelPerm : labelRules'.Perm labelRules) (hassigneePerm : assigneeRules'.Perm assigneeRules) :
    findConflicts labelRules' assigneeRules' = findConflicts labelRules assigneeRules := by
  have hlabel : ((labelConflicts labelRules).map id).Perm ((labelConflicts labelRules').map id) := by
    refine map_labelConflicts_perm id hlabelPerm.symm hlabels fun a ha b hb haOn hbOn hid => ?_
    by_cases hsame : a.labels = b.labels
    · rw [LabelRule.conflict?, LabelRule.conflict?, if_pos hsame, if_pos hsame.symm]
    · rw [LabelRule.conflict?_comm hid fun h => hlabelCross a ha b hb ⟨haOn, hbOn, hsame, h⟩]
  have hassignee : ((assigneeConflicts assigneeRules).map id).Perm
      ((assigneeConflicts assigneeRules').map id) := by
    refine map_assigneeConflicts_perm id hassigneePerm.symm hassignees
      fun a ha b hb haOn hbOn hid => ?_
    by_cases hdiffer : a.priority = b.priority
        ∧ Text.eqIgnoringAsciiCase a.assigneeEmail b.assigneeEmail = false
    · rw [AssigneeRule.conflict?_comm hid fun h =>
        hassigneeCross a ha b hb ⟨haOn, hbOn, hdiffer.1, hdiffer.2, h⟩]
    · rw [AssigneeRule.conflict?_eq_none hdiffer, AssigneeRule.conflict?_eq_none]
      rwa [eq_comm, eqIgnoringAsciiCase_comm]
  have hperm := hlabel.symm.append hassignee.symm
  rw [← List.map_append, ← List.map_append] at hperm
  have hmap := map_findConflicts_eq id (fun _ => rfl) (fun _ => rfl) hlabels hassignees hperm
  rwa [List.map_id, List.map_id] at hmap

/-- With or without crossed rules, the order shows at most in what conditions have in common. -/
theorem findConflicts_perm_withoutOverlap (hlabels : (labelRules.map (·.id)).Nodup)
    (hassignees : (assigneeRules.map (·.id)).Nodup)
    (hlabelPerm : labelRules'.Perm labelRules) (hassigneePerm : assigneeRules'.Perm assigneeRules) :
    (findConflicts labelRules' assigneeRules').map Conflict.withoutOverlap
      = (findConflicts labelRules assigneeRules).map Conflict.withoutOverlap := by
  refine map_findConflicts_eq Conflict.withoutOverlap (fun _ => rfl) (fun _ => rfl) hlabels
    hassignees ?_
  rw [List.map_append, List.map_append]
  refine (map_labelConflicts_perm _ hlabelPerm.symm hlabels ?_).symm.append
    (map_assigneeConflicts_perm _ hassigneePerm.symm hassignees ?_).symm
  · exact fun a _ b _ _ _ hid => LabelRule.map_withoutOverlap_conflict?_comm hid
  · exact fun a _ b _ _ _ hid => AssigneeRule.map_withoutOverlap_conflict?_comm hid

end

/-! ### Reports on crossed rules -/

section
variable {α : Type} {test : α → α → Option Conflict} {kind : ConflictKind} {idOf : α → String}

/-- The conflict of two crossed rules that come first is not in the report on the rules with these
two exchanged. -/
theorem exists_shown_notMem_swapped {a b : α} {rest : List α} {priority : Option Int64}
    (conditionOf : α → Condition) (resultOf : α → String)
    (hids : ((b :: a :: rest).map idOf).Nodup)
    (hbetween : ∀ a b c, test a b = some c → c.IsBetween kind (idOf a) (idOf b))
    (hab : test a b = ((conditionOf a).overlap? (conditionOf b)).map
      (Conflict.between kind · priority (idOf a, resultOf a) (idOf b, resultOf b)))
    (hba : test b a = ((conditionOf b).overlap? (conditionOf a)).map
      (Conflict.between kind · priority (idOf b, resultOf b) (idOf a, resultOf a)))
    (hcross : (conditionOf a).Crosses (conditionOf b)) :
    ∃ c ∈ pairwiseFindings test (a :: b :: rest),
      c.shown ∉ (pairwiseFindings test (b :: a :: rest)).map Conflict.shown := by
  have hid : idOf a ≠ idOf b := by
    intro heq
    exact (List.nodup_cons.mp hids).1 (heq ▸ List.mem_cons_self)
  obtain ⟨overlap, hoverlap⟩ := Option.isSome_iff_exists.mp (hcross.overlap?_eq ▸ hcross.2.1)
  obtain ⟨overlap', hoverlap'⟩ := Option.isSome_iff_exists.mp
    (hcross.symm.overlap?_eq ▸ hcross.symm.2.1)
  have hdescribe : overlap.describe ≠ overlap'.describe := by
    intro heq
    refine Condition.overlap?_comm_iff.mp ?_ hcross
    rw [hoverlap, hoverlap', Option.map_some, Option.map_some, heq]
  rw [hoverlap, Option.map_some] at hab
  rw [hoverlap', Option.map_some, ← Conflict.between_comm hid] at hba
  refine ⟨.between kind overlap priority (idOf a, resultOf a) (idOf b, resultOf b), ?_, ?_⟩
  · rw [pairwiseFindings, List.filterMap_cons_some hab]
    exact List.mem_append_left _ List.mem_cons_self
  · intro hmem
    obtain ⟨found, hfound, hshown⟩ := List.mem_map.mp hmem
    have hrules : found.ruleIds = _ := congrArg (·.2.1) hshown
    obtain rfl := eq_of_mem_pairwiseFindings_cons hids hbetween hba hfound
      (hrules.trans (Conflict.ruleIds_between ..))
    exact hdescribe (congrArg (·.2.2.1) hshown).symm

end

/-- Two different members of a list can be brought to its front, in either order. -/
theorem exists_perm_cons_cons {l : List α} {a b : α} (ha : a ∈ l) (hb : b ∈ l) (hne : a ≠ b) :
    ∃ rest, (a :: b :: rest).Perm l := by
  obtain ⟨front, back, rfl⟩ := List.append_of_mem ha
  have hb' : b ∈ front ++ back := by
    rcases List.mem_append.mp hb with hb | hb
    · exact List.mem_append_left _ hb
    · exact List.mem_append_right _ ((List.mem_cons.mp hb).resolve_left (Ne.symm hne))
  obtain ⟨front', back', heq⟩ := List.append_of_mem hb'
  refine ⟨front' ++ back', ?_⟩
  have hrest : (b :: (front' ++ back')).Perm (front ++ back) := by
    rw [heq]
    exact List.perm_middle.symm
  exact (hrest.cons a).trans List.perm_middle.symm

section
variable {labelRules : List LabelRule} {assigneeRules : List AssigneeRule}

/-- The report on crossed label rules shows which of them comes first. -/
theorem LabelRule.not_crosses_of_shown_eq (hlabels : (labelRules.map (·.id)).Nodup)
    (hsame : ∀ labelRules', labelRules'.Perm labelRules →
      (findConflicts labelRules' assigneeRules).map Conflict.shown
        = (findConflicts labelRules assigneeRules).map Conflict.shown) :
    ∀ a ∈ labelRules, ∀ b ∈ labelRules, ¬ a.Crosses b := by
  rintro a ha b hb ⟨haOn, hbOn, hdiffer, hcross⟩
  have hne : a ≠ b := fun heq => hdiffer (congrArg _ heq)
  obtain ⟨rest, hperm⟩ := exists_perm_cons_cons ha hb hne
  have hperm' : (b :: a :: rest).Perm labelRules := (List.Perm.swap a b rest).trans hperm
  have hids : ((b :: a :: rest.filter (·.enabled)).map LabelRule.id).Nodup := by
    refine ((hperm'.map LabelRule.id).nodup_iff.mpr hlabels).sublist (List.Sublist.map _ ?_)
    exact (List.filter_sublist.cons_cons a).cons_cons b
  obtain ⟨c, hc, hnot⟩ := exists_shown_notMem_swapped LabelRule.condition LabelRule.result hids
    (fun _ _ _ => LabelRule.isBetween_of_conflict?) (LabelRule.conflict?_of_ne hdiffer)
    (LabelRule.conflict?_of_ne hdiffer.symm) hcross
  -- both orders give the report on the rules as they stand, so each shows what the other shows
  have hmem : c.shown ∈ (findConflicts (b :: a :: rest) assigneeRules).map Conflict.shown := by
    rw [hsame _ hperm', ← hsame _ hperm]
    refine List.mem_map_of_mem (mem_findConflicts.mpr (.inl ?_))
    rw [labelConflicts]
    simpa only [List.filter_cons, haOn, hbOn, if_true] using hc
  obtain ⟨found, hfound, hshown⟩ := List.mem_map.mp hmem
  have hfoundKind : found.kind = c.kind := congrArg (·.1) hshown
  rcases mem_findConflicts.mp hfound with hfound | hfound
  · refine hnot (List.mem_map.mpr ⟨found, ?_, hshown⟩)
    simpa only [labelConflicts, List.filter_cons, haOn, hbOn, if_true] using hfound
  · obtain ⟨_, _, -, htest⟩ := mem_pairwiseFindings.mp hc
    have hkind := (LabelRule.isBetween_of_conflict? htest).1
    rw [kind_of_mem_assigneeConflicts hfound, hkind] at hfoundKind
    cases hfoundKind

/-- The report on crossed assignee rules shows which of them comes first. -/
theorem AssigneeRule.not_crosses_of_shown_eq (hassignees : (assigneeRules.map (·.id)).Nodup)
    (hsame : ∀ assigneeRules', assigneeRules'.Perm assigneeRules →
      (findConflicts labelRules assigneeRules').map Conflict.shown
        = (findConflicts labelRules assigneeRules).map Conflict.shown) :
    ∀ a ∈ assigneeRules, ∀ b ∈ assigneeRules, ¬ a.Crosses b := by
  rintro a ha b hb ⟨haOn, hbOn, hpriority, hemail, hcross⟩
  have hne : a ≠ b := fun heq => hcross.1 (by rw [heq])
  obtain ⟨rest, hperm⟩ := exists_perm_cons_cons ha hb hne
  have hperm' : (b :: a :: rest).Perm assigneeRules := (List.Perm.swap a b rest).trans hperm
  have hids : ((b :: a :: rest.filter (·.enabled)).map AssigneeRule.id).Nodup := by
    refine ((hperm'.map AssigneeRule.id).nodup_iff.mpr hassignees).sublist (List.Sublist.map _ ?_)
    exact (List.filter_sublist.cons_cons a).cons_cons b
  have hba := AssigneeRule.conflict?_of_ne hpriority.symm
    (by rw [eqIgnoringAsciiCase_comm, hemail])
  rw [← hpriority] at hba
  obtain ⟨c, hc, hnot⟩ := exists_shown_notMem_swapped AssigneeRule.condition
    AssigneeRule.assigneeEmail hids (fun _ _ _ => AssigneeRule.isBetween_of_conflict?)
    (AssigneeRule.conflict?_of_ne hpriority hemail) hba hcross
  have hmem : c.shown ∈ (findConflicts labelRules (b :: a :: rest)).map Conflict.shown := by
    rw [hsame _ hperm', ← hsame _ hperm]
    refine List.mem_map_of_mem (mem_findConflicts.mpr (.inr ?_))
    simpa only [assigneeConflicts, List.filter_cons, haOn, hbOn, if_true] using hc
  obtain ⟨found, hfound, hshown⟩ := List.mem_map.mp hmem
  have hfoundKind : found.kind = c.kind := congrArg (·.1) hshown
  rcases mem_findConflicts.mp hfound with hfound | hfound
  · obtain ⟨_, _, -, htest⟩ := mem_pairwiseFindings.mp hc
    have hkind := (AssigneeRule.isBetween_of_conflict? htest).1
    rw [kind_of_mem_labelConflicts hfound, hkind] at hfoundKind
    cases hfoundKind
  · refine hnot (List.mem_map.mpr ⟨found, ?_, hshown⟩)
    simpa only [assigneeConflicts, List.filter_cons, haOn, hbOn, if_true] using hfound

/-- **Where the order of the rules shows in a report.**  If no two rules cross, the report on the
same rules in another order is the same; if two cross, some order gives another report.  All reports
name the same pairs of rules in the same order, with the same decisions. -/
theorem findConflicts_perm_iff (hlabels : (labelRules.map (·.id)).Nodup)
    (hassignees : (assigneeRules.map (·.id)).Nodup) :
    ((∀ labelRules' assigneeRules', labelRules'.Perm labelRules →
        assigneeRules'.Perm assigneeRules →
        (findConflicts labelRules' assigneeRules').map Conflict.shown
          = (findConflicts labelRules assigneeRules).map Conflict.shown)
      ↔ (∀ a ∈ labelRules, ∀ b ∈ labelRules, ¬ a.Crosses b)
        ∧ ∀ a ∈ assigneeRules, ∀ b ∈ assigneeRules, ¬ a.Crosses b)
      ∧ ∀ labelRules' assigneeRules', labelRules'.Perm labelRules →
        assigneeRules'.Perm assigneeRules →
        (findConflicts labelRules' assigneeRules').map Conflict.withoutOverlap
          = (findConflicts labelRules assigneeRules).map Conflict.withoutOverlap := by
  refine ⟨⟨fun hsame => ⟨?_, ?_⟩, ?_⟩, ?_⟩
  · exact LabelRule.not_crosses_of_shown_eq hlabels fun _ hperm => hsame _ _ hperm (.refl _)
  · exact AssigneeRule.not_crosses_of_shown_eq hassignees fun _ hperm => hsame _ _ (.refl _) hperm
  · rintro ⟨hlabelCross, hassigneeCross⟩ _ _ hlabelPerm hassigneePerm
    rw [findConflicts_perm hlabels hassignees hlabelCross hassigneeCross hlabelPerm hassigneePerm]
  · exact fun _ _ => findConflicts_perm_withoutOverlap hlabels hassignees

end

/-- A label rule for one address and for all senders of one domain. -/
def partnerLabelRule (id label email domain : String) : LabelRule :=
  { id, condition := { email := some email, domain := some domain }, labels := .singleton label
    assignTo := none, enabled := true, createdAt := .epoch }

/-- Of two rules that each name an address in the domain of the other, the report shows the address
of the one that comes first. -/
theorem findConflicts_partners :
    (findConflicts [partnerLabelRule "1" "VIP" "ann@left.io" "right.io",
        partnerLabelRule "2" "News" "bob@right.io" "left.io"] []).map Conflict.shown
      ≠ (findConflicts [partnerLabelRule "2" "News" "bob@right.io" "left.io",
        partnerLabelRule "1" "VIP" "ann@left.io" "right.io"] []).map Conflict.shown := by
  have hforward : labelConflicts [partnerLabelRule "1" "VIP" "ann@left.io" "right.io",
      partnerLabelRule "2" "News" "bob@right.io" "left.io"]
      = [{ kind := .labelLabel, firstId := "1", secondId := "2"
           overlap := .emailWithin "ann@left.io" "left.io", firstResult := "VIP"
           secondResult := "News", priority := none }] := by decide
  have hbackward : labelConflicts [partnerLabelRule "2" "News" "bob@right.io" "left.io",
      partnerLabelRule "1" "VIP" "ann@left.io" "right.io"]
      = [{ kind := .labelLabel, firstId := "1", secondId := "2"
           overlap := .emailWithin "bob@right.io" "right.io", firstResult := "VIP"
           secondResult := "News", priority := none }] := by decide
  rw [findConflicts, findConflicts, hforward, hbackward]
  simp only [assigneeConflicts, List.filter_nil, pairwiseFindings, List.append_nil,
    List.mergeSort_singleton, List.map_cons, List.map_nil]
  decide

/-- Two rules for one domain give the same report in either order. -/
theorem findConflicts_perm_vendor :
    (findConflicts [vendorLabelRule "2" "News", vendorLabelRule "1" "VIP"] []).map Conflict.shown
      = (findConflicts [vendorLabelRule "1" "VIP", vendorLabelRule "2" "News"] []).map
        Conflict.shown := by
  have hlabels : ([vendorLabelRule "1" "VIP", vendorLabelRule "2" "News"].map (·.id)).Nodup := by
    decide
  have hassignees : (([] : List AssigneeRule).map (·.id)).Nodup := List.nodup_nil
  obtain ⟨hiff, -⟩ := findConflicts_perm_iff hlabels hassignees
  have hlabelCross : ∀ a ∈ [vendorLabelRule "1" "VIP", vendorLabelRule "2" "News"],
      ∀ b ∈ [vendorLabelRule "1" "VIP", vendorLabelRule "2" "News"], ¬ a.Crosses b := by
    rintro a ha b hb ⟨-, -, -, hdomains, -⟩
    -- both conditions name the one domain
    have hcondition : ∀ rule ∈ [vendorLabelRule "1" "VIP", vendorLabelRule "2" "News"],
        rule.condition = { domain := some "vendor.io" } := by decide
    rw [hcondition a ha, hcondition b hb] at hdomains
    exact hdomains rfl
  exact hiff.mpr ⟨hlabelCross, fun _ ha => nomatch ha⟩ _ _ (List.Perm.swap _ _ []) (.refl _)

end MailTriage
