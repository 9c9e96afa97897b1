import Mathlib.Logic.Relation
import MailTriage.Proofs.Rule.Rereading

/-! # The shapes that a label document may have

A label document has two fields for names, the older one for a single name, and says in several ways
who is assigned.  Which rule it gives depends on what it says and not on its shape.  What makes it a
rule, or else what is said to be wrong with it, is told from the document (`Refused`).

Names may be moved from the older field to the newer, listed in another order, listed again, padded
with blanks or be blank (`Rewording`).  No such step changes the rule, and each may be taken back;
so all shapes of one document give one rule.  Nor are there other ways to write a document of the same
labels (`eqvGen_rewording_iff`): every document can be brought to the newer field alone, and there
the names of one list can be put before those of another if they give no further labels (`prepend`).
-/
namespace MailTriage

/-! ### The keyword -/

theorem toLower_eq_iff {c small : Char} (h : small.isLower) :
    c.toLower = small ↔ c = small ∨ c = small.toUpper := by
  have h : 'a'.val ≤ small.val ∧ small.val ≤ 'z'.val :=
    (Bool.and_eq_true_iff.mp h).imp of_decide_eq_true of_decide_eq_true
  delta Char.toLower Char.toUpper
  rw [dif_pos h]
  simp only [Char.ext_iff, ← UInt32.toNat_inj, ge_iff_le, UInt32.le_iff_toNat_le] at h ⊢
  split <;> grind [UInt32.toNat_add]

theorem eqIgnoringAsciiCase_me_iff {word : String} :
    Text.eqIgnoringAsciiCase word "me" = true ↔ word ∈ ["me", "Me", "mE", "ME"] := by
  have hword : word ∈ ["me", "Me", "mE", "ME"]
      ↔ word.toList ∈ [['m', 'e'], ['M', 'e'], ['m', 'E'], ['M', 'E']] := by
    simp only [List.mem_cons, List.not_mem_nil, or_false, ← String.toList_inj]
    rfl
  rw [Text.eqIgnoringAsciiCase_iff, hword]
  show word.toList.map Char.toLower = ['m', 'e'] ↔ _
  match word.toList with
  | [] => decide
  | [c] => simp
  | [c, d] =>
    have hm : c.toLower = 'm' ↔ c = 'm' ∨ c = 'M' := toLower_eq_iff (by decide)
    have he : d.toLower = 'e' ↔ d = 'e' ∨ d = 'E' := toLower_eq_iff (by decide)
    simp only [List.map_cons, List.map_nil, List.cons.injEq, and_true, List.mem_cons,
      List.not_mem_nil, or_false, hm, he]
    grind
  | _ :: _ :: _ :: _ => simp

/-! ### What a document must say -/

/-- The assignment is the word `me`, a blank word, or an address. -/
def DocumentAssignment.IsReadable : DocumentAssignment → Prop
  | .keyword word => word ∈ ["me", "Me", "mE", "ME"] ∨ Text.trim word = ""
  | .target email => ∃ normal, normalizeEmail email = some normal

/-- The word or the address as it is written. -/
def DocumentAssignment.text : DocumentAssignment → String
  | .keyword word => word
  | .target email => email

theorem DocumentAssignment.resolve_eq_error_iff {id : String} {a : DocumentAssignment}
    {e : ShapeError} :
    a.resolve id = .error e ↔ ¬ a.IsReadable ∧ e = .invalidAssignment id a.text := by
  cases a with
  | keyword word =>
    rw [resolve, IsReadable, text, ← eqIgnoringAsciiCase_me_iff]
    by_cases hme : Text.eqIgnoringAsciiCase word "me" = true
    · simp [hme]
    · by_cases hblank : Text.trim word = "" <;> simp [hme, hblank, eq_comm]
  | target email =>
    rw [resolve, IsReadable, text]
    cases normalizeEmail email <;> simp [eq_comm]

namespace LabelDocument

variable {doc doc' : LabelDocument}

/-- In its normal form the condition has an address or a domain. -/
def HasCondition (doc : LabelDocument) : Prop :=
  doc.condition.normalized.email.isSome ∨ doc.condition.normalized.domain.isSome

/-- The name is written in one of the two fields for names. -/
def Writes (doc : LabelDocument) (name : String) : Prop :=
  (∃ names ∈ doc.labelNames, name ∈ names) ∨ doc.labelName = some name

/-- One of the names is not blank. -/
def HasLabel (doc : LabelDocument) : Prop := ∃ name, doc.Writes name ∧ Text.trim name ≠ ""

/-- What is first wrong with the document. -/
inductive Refused (doc : LabelDocument) : ShapeError → Prop
  | condition (hcondition : ¬ doc.HasCondition) : Refused doc (.missingCondition doc.id)
  | labels (hcondition : doc.HasCondition) (hlabel : ¬ doc.HasLabel) :
      Refused doc (.missingLabels doc.id)
  | assignment {a : DocumentAssignment} (hcondition : doc.HasCondition) (hlabel : doc.HasLabel)
      (ha : doc.assignTo = some a) (hreadable : ¬ a.IsReadable) :
      Refused doc (.invalidAssignment doc.id a.text)

theorem mem_allNames {name : String} : name ∈ doc.allNames ↔ doc.Writes name := by
  rw [allNames, Writes]
  cases doc.labelNames <;> cases doc.labelName <;> simp [eq_comm]

theorem mem_labelSet_allNames {label : String} :
    label ∈ labelSet doc.allNames
      ↔ label ≠ "" ∧ ∃ name, doc.Writes name ∧ Text.trim name = label := by
  simp only [mem_labelSet, mem_allNames, and_comm]

theorem isEmpty_normalized_iff : doc.condition.normalized.isEmpty = false ↔ doc.HasCondition := by
  rw [Condition.isEmpty, HasCondition]
  cases doc.condition.normalized.email <;> cases doc.condition.normalized.domain <;> simp

theorem isEmpty_labelSet_iff : (labelSet doc.allNames).isEmpty = false ↔ doc.HasLabel := by
  rw [TextSet.isEmpty, List.isEmpty_eq_false_iff_exists_mem, HasLabel]
  constructor
  · rintro ⟨label, hlabel⟩
    obtain ⟨hne, name, hname, rfl⟩ := mem_labelSet_allNames.mp hlabel
    exact ⟨name, hname, hne⟩
  · rintro ⟨name, hname, hne⟩
    exact ⟨Text.trim name, mem_labelSet_allNames.mpr ⟨hne, name, hname, rfl⟩⟩

theorem assignment_eq_error_iff {e : ShapeError} :
    doc.assignment = .error e ↔
      ∃ a, doc.assignTo = some a ∧ ¬ a.IsReadable ∧ e = .invalidAssignment doc.id a.text := by
  rw [assignment]
  cases doc.assignTo with
  | none => simp
  | some a => simp [DocumentAssignment.resolve_eq_error_iff]

theorem ofDocument_eq_error_iff {e : ShapeError} :
    LabelRule.ofDocument doc = .error e ↔ doc.Refused e := by
  rw [LabelRule.ofDocument]
  by_cases hcondition : doc.HasCondition
  · by_cases hlabel : doc.HasLabel
    · simp only [isEmpty_normalized_iff.mpr hcondition, isEmpty_labelSet_iff.mpr hlabel,
        Bool.false_eq_true, if_false]
      have herror : doc.assignment = .error e ↔ doc.Refused e := by
        rw [assignment_eq_error_iff]
        constructor
        · rintro ⟨a, ha, hreadable, rfl⟩
          exact .assignment hcondition hlabel ha hreadable
        · rintro (hcondition' | ⟨-, hlabel'⟩ | ⟨-, -, ha, hreadable⟩)
          · exact absurd hcondition hcondition'
          · exact absurd hlabel hlabel'
          · exact ⟨_, ha, hreadable, rfl⟩
      rw [← herror]
      cases doc.assignment <;> simp
    · have hempty := Bool.of_not_eq_false (mt isEmpty_labelSet_iff.mp hlabel)
      simp only [isEmpty_normalized_iff.mpr hcondition, hempty, Bool.false_eq_true, if_false,
        if_true]
      constructor
      · rintro ⟨⟩
        exact .labels hcondition hlabel
      · rintro (hcondition' | - | ⟨-, hlabel', -, -⟩)
        · exact absurd hcondition hcondition'
        · rfl
        · exact absurd hlabel' hlabel
  · have hempty := Bool.of_not_eq_false (mt isEmpty_normalized_iff.mp hcondition)
    simp only [hempty, if_true]
    constructor
    · rintro ⟨⟩
      exact .condition hcondition
    · rintro (- | ⟨hcondition', -⟩ | ⟨hcondition', -, -, -⟩)
      · rfl
      · exact absurd hcondition' hcondition
      · exact absurd hcondition' hcondition

/-- A document is a rule exactly if nothing is wrong with it. -/
theorem exists_ofDocument_iff :
    (∃ rule, LabelRule.ofDocument doc = .ok rule)
      ↔ doc.HasCondition ∧ doc.HasLabel ∧ ∀ a, doc.assignTo = some a → a.IsReadable := by
  constructor
  · rintro ⟨rule, hrule⟩
    have hnone : ∀ e, ¬ doc.Refused e := fun e he => by
      rw [ofDocument_eq_error_iff.mpr he] at hrule
      cases hrule
    have hcondition : doc.HasCondition := Classical.not_not.mp fun h => hnone _ (.condition h)
    have hlabel : doc.HasLabel := Classical.not_not.mp fun h => hnone _ (.labels hcondition h)
    exact ⟨hcondition, hlabel, fun a ha =>
      Classical.not_not.mp fun h => hnone _ (.assignment hcondition hlabel ha h)⟩
  · rintro ⟨hcondition, hlabel, hassign⟩
    cases hrule : LabelRule.ofDocument doc with
    | ok rule => exact ⟨rule, rfl⟩
    | error e =>
      rcases ofDocument_eq_error_iff.mp hrule with
        hcondition' | ⟨-, hlabel'⟩ | ⟨-, -, ha, hreadable⟩
      · exact absurd hcondition hcondition'
      · exact absurd hlabel hlabel'
      · exact absurd (hassign _ ha) hreadable

/-! ### Rewordings -/

/-- The document names its labels another way. -/
inductive Rewording : LabelDocument → LabelDocument → Prop
  /-- The name of the older field is put first in the newer one. -/
  | move {doc : LabelDocument} {name : String} (hold : doc.labelName = some name) :
      Rewording doc
        { doc with labelName := none, labelNames := some (name :: doc.labelNames.getD []) }
  /-- The newer field is written though it lists nothing. -/
  | list {doc : LabelDocument} (hnew : doc.labelNames = none) :
      Rewording doc { doc with labelNames := some [] }
  | reorder {doc : LabelDocument} {names names' : List String} (hnew : doc.labelNames = some names)
      (hperm : names.Perm names') : Rewording doc { doc with labelNames := some names' }
  /-- A name that is listed is listed once more. -/
  | again {doc : LabelDocument} {names : List String} {name : String}
      (hnew : doc.labelNames = some names) (hname : name ∈ names) :
      Rewording doc { doc with labelNames := some (name :: names) }
  /-- A name is written with other blanks around it. -/
  | pad {doc : LabelDocument} {names : List String} {name name' : String}
      (hnew : doc.labelNames = some (name :: names)) (htrim : Text.trim name = Text.trim name') :
      Rewording doc { doc with labelNames := some (name' :: names) }
  /-- A blank name is listed. -/
  | blank {doc : LabelDocument} {names : List String} {name : String}
      (hnew : doc.labelNames = some names) (hblank : Text.trim name = "") :
      Rewording doc { doc with labelNames := some (name :: names) }

/-- All that the document says but for the names. -/
def unnamed (doc : LabelDocument) : LabelDocument :=
  { doc with labelName := none, labelNames := none }

theorem labelSet_eq_iff {names names' : List String} :
    labelSet names = labelSet names' ↔ ∀ label ≠ "",
      ((∃ name ∈ names, Text.trim name = label) ↔ ∃ name ∈ names', Text.trim name = label) := by
  constructor
  · intro h label hne
    have hmem : label ∈ labelSet names ↔ label ∈ labelSet names' := by rw [h]
    simpa only [mem_labelSet, hne, ne_eq, not_false_eq_true, and_true] using hmem
  · intro h
    refine TextSet.ext fun label => ?_
    rw [mem_labelSet, mem_labelSet]
    exact and_congr_left (h label)

/-- No step changes what else the document says, or which labels it names. -/
theorem Rewording.keeps (h : Rewording doc doc') :
    doc.unnamed = doc'.unnamed ∧ labelSet doc.allNames = labelSet doc'.allNames := by
  refine ⟨by cases h <;> rfl, labelSet_eq_iff.mpr fun label hne => ?_⟩
  cases h with
  | move hold => simp [allNames, hold, or_comm]
  | list hnew => simp [allNames, hnew]
  | reorder hnew hperm => simp [allNames, hnew, hperm.mem_iff]
  | @again names name hnew hname =>
    simp only [allNames, hnew, Option.getD_some, List.cons_append, List.mem_cons, List.mem_append,
      or_and_right, exists_or, exists_eq_left]
    refine (or_iff_right_of_imp fun htrim => ?_).symm
    exact .inl ⟨name, hname, htrim⟩
  | pad hnew htrim => simp [allNames, hnew, htrim]
  | blank hnew hblank =>
    simp [allNames, hnew, hblank, hne.symm]

theorem keeps_of_eqvGen (h : Relation.EqvGen Rewording doc doc') :
    doc.unnamed = doc'.unnamed ∧ labelSet doc.allNames = labelSet doc'.allNames := by
  induction h with
  | rel _ _ hstep => exact hstep.keeps
  | refl _ => exact ⟨rfl, rfl⟩
  | symm _ _ _ ih => exact ⟨ih.1.symm, ih.2.symm⟩
  | trans _ _ _ _ _ ih ih' => exact ⟨ih.1.trans ih'.1, ih.2.trans ih'.2⟩

/-! ### All documents of the same labels -/

/-- The document in its newer shape, with the names listed. -/
def listing (doc : LabelDocument) (names : List String) : LabelDocument :=
  { doc with labelName := none, labelNames := some names }

/-- What the document says but for the names is kept. -/
theorem listing_eq_of_unnamed_eq (h : doc.unnamed = doc'.unnamed) (names : List String) :
    doc.listing names = doc'.listing names := by
  show doc.unnamed.listing names = doc'.unnamed.listing names
  rw [h]

/-- The rule is that of the newer shape with the labels listed. -/
theorem ofDocument_listing : LabelRule.ofDocument (doc.listing (labelSet doc.allNames).toList)
    = LabelRule.ofDocument doc := by
  have hlabels : labelSet (doc.listing (labelSet doc.allNames).toList).allNames
      = labelSet doc.allNames := by
    show labelSet ((labelSet doc.allNames).toList ++ []) = labelSet doc.allNames
    rw [List.append_nil, labelSet_toList_labelSet]
  rw [LabelRule.ofDocument, LabelRule.ofDocument, hlabels]
  rfl

/-- A document gives its rule by its labels and by what else it says. -/
theorem ofDocument_congr (hunnamed : doc.unnamed = doc'.unnamed)
    (hlabels : labelSet doc.allNames = labelSet doc'.allNames) :
    LabelRule.ofDocument doc = LabelRule.ofDocument doc' := by
  rw [← ofDocument_listing, hlabels, listing_eq_of_unnamed_eq hunnamed, ofDocument_listing]

theorem eqvGen_listing_allNames : Relation.EqvGen Rewording doc (doc.listing doc.allNames) := by
  cases hold : doc.labelName with
  | some name =>
    have hperm : (name :: doc.labelNames.getD []).Perm doc.allNames := by
      rw [allNames, hold]
      exact (List.perm_append_singleton name _).symm
    exact (Relation.EqvGen.rel _ _ (.move hold)).trans _ _ _ (.rel _ _ (.reorder rfl hperm))
  | none =>
    cases hnew : doc.labelNames with
    | none =>
      have heq : doc.listing doc.allNames = { doc with labelNames := some [] } := by
        simp [listing, allNames, hold, hnew]
      rw [heq]
      exact .rel _ _ (.list hnew)
    | some names =>
      have heq : doc.listing doc.allNames = doc := by
        simp only [listing, allNames, hold, hnew, Option.getD_some, Option.toList_none,
          List.append_nil]
        rw [← hold, ← hnew]
      rw [heq]
      exact .refl _

/-- Names that give no further labels may be listed before others. -/
theorem eqvGen_listing_prepend {names : List String} :
    ∀ {front : List String},
      (∀ name ∈ front, Text.trim name = "" ∨ ∃ known ∈ names, Text.trim known = Text.trim name) →
      Relation.EqvGen Rewording (doc.listing names) (doc.listing (front ++ names))
  | [], _ => .refl _
  | name :: front, h => by
    have hfront : Relation.EqvGen Rewording (doc.listing names) (doc.listing (front ++ names)) :=
      eqvGen_listing_prepend fun n hn => h n (List.mem_cons_of_mem _ hn)
    refine hfront.trans _ _ _ ?_
    rcases h name List.mem_cons_self with hblank | ⟨known, hknown, htrim⟩
    · exact .rel _ _ (.blank rfl hblank)
    · have hagain : Rewording (doc.listing (front ++ names))
          (doc.listing (known :: (front ++ names))) :=
        .again rfl (List.mem_append_right _ hknown)
      exact (Relation.EqvGen.rel _ _ hagain).trans _ _ _ (.rel _ _ (.pad rfl htrim))

theorem eqvGen_listing_of_labelSet_eq {names names' : List String}
    (h : labelSet names = labelSet names') :
    Relation.EqvGen Rewording (doc.listing names) (doc.listing names') := by
  have hknown : ∀ {names names' : List String}, labelSet names = labelSet names' →
      ∀ name ∈ names, Text.trim name = "" ∨ ∃ known ∈ names', Text.trim known = Text.trim name :=
    fun hset name hname => Classical.or_iff_not_imp_left.mpr fun hne =>
      (labelSet_eq_iff.mp hset _ hne).mp ⟨name, hname, rfl⟩
  have hswap : Relation.EqvGen Rewording (doc.listing (names' ++ names))
      (doc.listing (names ++ names')) := .rel _ _ (.reorder rfl List.perm_append_comm)
  exact (eqvGen_listing_prepend (hknown h.symm)).trans _ _ _
    (hswap.trans _ _ _ (eqvGen_listing_prepend (hknown h)).symm)

/-- **Rewordings are all documents that name the same labels.** -/
theorem eqvGen_rewording_iff : Relation.EqvGen Rewording doc doc'
    ↔ doc.unnamed = doc'.unnamed ∧ labelSet doc.allNames = labelSet doc'.allNames := by
  refine ⟨keeps_of_eqvGen, fun ⟨hunnamed, hlabels⟩ => ?_⟩
  have hmiddle : Relation.EqvGen Rewording (doc.listing doc.allNames)
      (doc'.listing doc'.allNames) := by
    rw [← listing_eq_of_unnamed_eq hunnamed]
    exact eqvGen_listing_of_labelSet_eq hlabels
  exact eqvGen_listing_allNames.trans _ _ _ (hmiddle.trans _ _ _ eqvGen_listing_allNames.symm)

end LabelDocument

/-- **What a label document means.**  It is a rule exactly if its condition names something, some
name is not blank and the assignment can be read; otherwise what is said to be wrong is the first of
these that fails.  The labels of the rule are the trimmed names of both fields that are not blank,
and an assigned address is in a normal form that stays.  However the names are moved, reordered,
repeated or padded, what the document gives is the same. -/
theorem labelDocument_meaning (doc : LabelDocument) :
    ((∃ rule, LabelRule.ofDocument doc = .ok rule)
        ↔ doc.HasCondition ∧ doc.HasLabel ∧ ∀ a, doc.assignTo = some a → a.IsReadable)
    ∧ (∀ e, LabelRule.ofDocument doc = .error e ↔ doc.Refused e)
    ∧ (∀ rule, LabelRule.ofDocument doc = .ok rule →
      (∀ label, label ∈ rule.labels
        ↔ label ≠ "" ∧ ∃ name, doc.Writes name ∧ Text.trim name = label)
      ∧ ∀ email, rule.assignTo = some (.assignee email) → normalizeEmail email = some email)
    ∧ ∀ doc', Relation.EqvGen LabelDocument.Rewording doc doc' →
      LabelRule.ofDocument doc' = LabelRule.ofDocument doc := by
  refine ⟨LabelDocument.exists_ofDocument_iff, fun _ => LabelDocument.ofDocument_eq_error_iff,
    fun rule hrule => ⟨fun label => ?_, fun email hemail => ?_⟩, fun doc' hdoc' => ?_⟩
  · obtain ⟨-, -, assignTo, -, rfl⟩ := LabelRule.ofDocument_eq_ok_iff.mp hrule
    exact LabelDocument.mem_labelSet_allNames
  · exact (LabelRule.isRead_of_ofDocument hrule).assignTo _ hemail
  · obtain ⟨hunnamed, hlabels⟩ := LabelDocument.keeps_of_eqvGen hdoc'
    exact (LabelDocument.ofDocument_congr hunnamed hlabels).symm

/-- A document that assigns the mail of one sender and labels it with the names. -/
def bossDocument (labelName : Option String) (labelNames : Option (List String)) : LabelDocument :=
  { id := "vip", condition := { email := some "Boss@Vendor.io" }, labelName, labelNames
    assignTo := some (.target "Ann <Ann@Desk.io>") }

/-- The rule that it gives for a single label. -/
def bossRule : LabelRule :=
  { id := "vip", condition := { email := some "boss@vendor.io" }, labels := .ofList ["VIP"]
    assignTo := some (.assignee "ann@desk.io"), enabled := true, createdAt := .epoch }

/-- An old document gives the same rule as a new one that lists the name twice. -/
theorem labelDocument_meaning_boss :
    LabelRule.ofDocument (bossDocument (some "VIP ") none) = .ok bossRule
      ∧ LabelRule.ofDocument (bossDocument none (some [" VIP", "VIP", " "])) = .ok bossRule
      ∧ "VIP" ∈ bossRule.labels
      ∧ normalizeEmail "ann@desk.io" = some "ann@desk.io" := by
  have hold : LabelRule.ofDocument (bossDocument (some "VIP ") none) = .ok bossRule := by rfl
  obtain ⟨-, -, hmeaning, hshapes⟩ := labelDocument_meaning (bossDocument (some "VIP ") none)
  have hreworded : Relation.EqvGen LabelDocument.Rewording (bossDocument (some "VIP ") none)
      (bossDocument none (some [" VIP", "VIP", " "])) :=
    LabelDocument.eqvGen_rewording_iff.mpr ⟨rfl, by decide⟩
  exact ⟨hold, (hshapes _ hreworded).trans hold,
    ((hmeaning _ hold).1 "VIP").mpr ⟨by decide, "VIP ", .inr rfl, by decide⟩,
    (hmeaning _ hold).2 _ rfl⟩

/-- A document may have more than one fault; the missing condition comes first. -/
example : LabelRule.ofDocument { id := "old", assignTo := some (.keyword "you") }
    = .error (.missingCondition "old") := by rfl

end MailTriage
