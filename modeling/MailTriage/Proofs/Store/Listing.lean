import MailTriage.Proofs.Store.Rows

/-! # The order of listings

Rows are sorted by one key after another, each of them in an order of its own.  Put together these
orders are total and transitive (`LabelRow.pairwise_sorted`, `AssigneeRow.pairwise_sorted`), and a
listing whose rows all hold documents does not fail (`Listing.outcome_ofTable`).  One row that cannot
be read makes the whole listing fail (`Listing.outcome_ofTable_eq_error`).
-/
namespace MailTriage

/-! ### One key after another -/

/-- One comes before the other by a key, and by a second order where the keys are the same. -/
def ThenBy {α β : Type} (le : β → β → Prop) (key : α → β) (second : α → α → Prop) (a b : α) :
    Prop := le (key a) (key b) ∧ (key a = key b → second a b)

namespace ThenBy

variable {α β : Type} {le : β → β → Prop} {key : α → β} {second : α → α → Prop} {a b c : α}

theorem trans (htrans : ∀ {x y z}, le x y → le y z → le x z)
    (hantisymm : ∀ {x y}, le x y → le y x → x = y)
    (hsecond : second a b → second b c → second a c) (h : ThenBy le key second a b)
    (h' : ThenBy le key second b c) : ThenBy le key second a c := by
  refine ⟨htrans h.1 h'.1, fun heq => ?_⟩
  have hab : key a = key b := hantisymm h.1 (heq ▸ h'.1)
  exact hsecond (h.2 hab) (h'.2 (hab ▸ heq))

theorem total (hle : ∀ x y, le x y ∨ le y x)
    (hsecond : second a b ∨ second b a) :
    ThenBy le key second a b ∨ ThenBy le key second b a := by
  by_cases heq : key a = key b
  · have hrefl : le (key a) (key a) := (hle (key a) (key a)).elim id id
    rcases hsecond with h | h
    · exact .inl ⟨heq ▸ hrefl, fun _ => h⟩
    · exact .inr ⟨heq ▸ hrefl, fun _ => h⟩
  · rcases hle (key a) (key b) with h | h
    · exact .inl ⟨h, fun h' => absurd h' heq⟩
    · exact .inr ⟨h, fun h' => absurd h'.symm heq⟩

end ThenBy

/-! ### Rows -/

theorem nullFirst_trans {a b c : Option String} (h : nullFirst a b = true)
    (h' : nullFirst b c = true) : nullFirst a c = true := by
  cases a with
  | none => rfl
  | some a =>
    cases b with
    | none => cases h
    | some b =>
      cases c with
      | none => cases h'
      | some c =>
        exact decide_eq_true (String.le_trans (of_decide_eq_true h) (of_decide_eq_true h'))

theorem nullFirst_total (a b : Option String) : nullFirst a b = true ∨ nullFirst b a = true := by
  cases a with
  | none => exact .inl rfl
  | some a =>
    cases b with
    | none => exact .inr rfl
    | some b => exact (String.le_total a b).imp decide_eq_true decide_eq_true

theorem nullFirst_antisymm {a b : Option String} (h : nullFirst a b = true)
    (h' : nullFirst b a = true) : a = b := by
  cases a with
  | none =>
    cases b with
    | none => rfl
    | some b => cases h'
  | some a =>
    cases b with
    | none => cases h
    | some b =>
      exact congrArg some (String.le_antisymm (of_decide_eq_true h) (of_decide_eq_true h'))

namespace Numeral

theorem le_trans : ∀ {a b c : Numeral}, a.le b = true → b.le c = true → a.le c = true
  | .whole _, .whole _, .whole _, h, h' =>
    decide_eq_true (Int.le_trans (of_decide_eq_true h) (of_decide_eq_true h'))
  | .whole _, .other _, .whole _, _, h' => absurd h' Bool.false_ne_true
  | .whole _, _, .other _, _, _ => rfl
  | .other _, .whole _, _, h, _ => absurd h Bool.false_ne_true
  | .other _, .other _, .whole _, _, h' => absurd h' Bool.false_ne_true
  | .other _, .other _, .other _, h, h' =>
    decide_eq_true (String.le_trans (of_decide_eq_true h) (of_decide_eq_true h'))

theorem le_total (a b : Numeral) : a.le b = true ∨ b.le a = true := by
  cases a <;> cases b
  case whole.whole m n => exact (Int.le_total m n).imp decide_eq_true decide_eq_true
  case whole.other => exact .inl rfl
  case other.whole => exact .inr rfl
  case other.other s t => exact (String.le_total s t).imp decide_eq_true decide_eq_true

theorem le_antisymm : ∀ {a b : Numeral}, a.le b = true → b.le a = true → a = b
  | .whole _, .whole _, h, h' =>
    congrArg whole (Int.le_antisymm (of_decide_eq_true h) (of_decide_eq_true h'))
  | .whole _, .other _, _, h' => absurd h' Bool.false_ne_true
  | .other _, .whole _, h, _ => absurd h Bool.false_ne_true
  | .other _, .other _, h, h' =>
    congrArg other (String.le_antisymm (of_decide_eq_true h) (of_decide_eq_true h'))

end Numeral

/-- Texts that differ are in strict order where they are in order. -/
theorem lt_iff_le_of_ne {s t : String} (h : s ≠ t) : s < t ↔ s ≤ t :=
  ⟨fun hlt => String.not_lt.mp (String.lt_asymm hlt),
    fun hle => Decidable.of_not_not fun hlt => h (String.le_antisymm hle (String.not_lt.mp hlt))⟩

/-- Rows by a text and then by the id. -/
theorem textThenId_iff {Row : Type} {key : Row → String} {id : Row → Option String} {a b : Row} :
    (if key a ≠ key b then decide (key a < key b) else nullFirst (id a) (id b)) = true
      ↔ ThenBy (· ≤ ·) key (fun a b => nullFirst (id a) (id b) = true) a b := by
  rw [ThenBy]
  split
  · next h => simp [h, lt_iff_le_of_ne h]
  · next h => simp [Decidable.not_not.mp h]

theorem pairwise_mergeSort_of_textThenId {Row : Type} {before : Row → Row → Bool}
    (key : Row → String) (id : Row → Option String)
    (h : ∀ a b, before a b = true
      ↔ ThenBy (· ≤ ·) key (fun a b => nullFirst (id a) (id b) = true) a b) (rows : List Row) :
    (rows.mergeSort before).Pairwise fun a b => before a b = true := by
  refine List.pairwise_mergeSort (fun a b c hab hbc => ?_) (fun a b => ?_) rows
  · rw [h] at hab hbc ⊢
    exact hab.trans String.le_trans String.le_antisymm nullFirst_trans hbc
  · rw [Bool.or_eq_true, h, h]
    exact ThenBy.total String.le_total (nullFirst_total (id a) (id b))

theorem LabelRow.listedBefore_iff {a b : LabelRow} :
    a.listedBefore b = true
      ↔ ThenBy (· ≤ ·) LabelRow.createdAt (fun a b => nullFirst a.id b.id = true) a b :=
  textThenId_iff

theorem AssigneeRow.listedBefore_iff {a b : AssigneeRow} :
    a.listedBefore b = true
      ↔ ThenBy (fun p q => p.le q = true) AssigneeRow.priority
        (ThenBy (· ≤ ·) AssigneeRow.createdAt (fun a b => nullFirst a.id b.id = true)) a b := by
  have hrefl := or_self_iff.mp (Numeral.le_total a.priority a.priority)
  rw [listedBefore, ThenBy, ThenBy]
  split
  · next h => simp [h]
  · next h =>
    obtain heq := Decidable.not_not.mp h
    split
    · next h => simp [← heq, hrefl, h, lt_iff_le_of_ne h]
    · next h => simp [← heq, hrefl, Decidable.not_not.mp h]

theorem LabelRow.pairwise_sorted (rows : List LabelRow) :
    (rows.mergeSort LabelRow.listedBefore).Pairwise fun a b => a.listedBefore b = true :=
  pairwise_mergeSort_of_textThenId createdAt LabelRow.id (fun _ _ => listedBefore_iff) rows

theorem AssigneeRow.pairwise_sorted (rows : List AssigneeRow) :
    (rows.mergeSort AssigneeRow.listedBefore).Pairwise fun a b => a.listedBefore b = true := by
  refine List.pairwise_mergeSort (fun a b c hab hbc => ?_) (fun a b => ?_) rows
  · rw [listedBefore_iff] at hab hbc ⊢
    exact hab.trans Numeral.le_trans Numeral.le_antisymm
      (ThenBy.trans String.le_trans String.le_antisymm nullFirst_trans) hbc
  · rw [Bool.or_eq_true, listedBefore_iff, listedBefore_iff]
    exact ThenBy.total Numeral.le_total
      (ThenBy.total String.le_total (nullFirst_total a.id b.id))

/-! ### Listings of readable rows -/

section
variable {Row α : Type} {name : TableName} {before : Row → Row → Bool}
  {rule : Row → Except RepositoryError α} {ruleOf : Row → Option α} {rows : List Row}

/-- Each row gives a rule, or the reason why it is none. -/
def AllReadable (rule : Row → Except RepositoryError α) (ruleOf : Row → Option α)
    (rows : List Row) : Prop :=
  ∀ row ∈ rows, ∃ given : Except ShapeError α, rule row = given.mapError .shape
    ∧ given.toOption = ruleOf row

theorem Listing.outcome_ofRows (h : AllReadable rule ruleOf rows) :
    (Listing.ofRows rule rows).outcome = .ok (rows.filterMap ruleOf) := by
  induction rows with
  | nil => rfl
  | cons row rest ih =>
    have hrest := ih fun other hother => h other (List.mem_cons_of_mem row hother)
    obtain ⟨given, hrow, hgiven⟩ := h row List.mem_cons_self
    cases given with
    | ok a =>
      rw [List.filterMap_cons_some hgiven.symm, ofRows, hrow]
      exact congrArg (·.map (a :: ·)) hrest
    | error why =>
      rw [List.filterMap_cons_none hgiven.symm, ofRows, hrow]
      exact hrest

/-- **A listing does not fail** if all its rows can be read. -/
theorem Listing.outcome_ofTable (h : AllReadable rule ruleOf rows) :
    (Listing.ofTable name before rule (some rows)).outcome
      = .ok ((rows.mergeSort before).filterMap ruleOf) :=
  outcome_ofRows fun row hrow => h row (List.mem_mergeSort.mp hrow)

theorem Listing.outcome_ofRows_eq_error {why : RepositoryError}
    (hrows : ∀ row ∈ rows, rule row = .error why
      ∨ ∃ given : Except ShapeError α, rule row = given.mapError .shape)
    (hbad : ∃ row ∈ rows, rule row = .error why) (hwhy : ∀ shape, why ≠ .shape shape) :
    (Listing.ofRows rule rows).outcome = .error why := by
  induction rows with
  | nil =>
    obtain ⟨row, hrow, -⟩ := hbad
    cases hrow
  | cons row rest ih =>
    rw [ofRows]
    by_cases hrow : rule row = .error why
    · rw [hrow]
      -- only a document of the wrong shape is passed over
      cases why with
      | shape shape => exact absurd rfl (hwhy shape)
      | _ => rfl
    · have hrest : (Listing.ofRows rule rest).outcome = .error why := by
        refine ih (fun other hother => hrows other (List.mem_cons_of_mem row hother)) ?_
        obtain ⟨bad, hmem, hbad⟩ := hbad
        rcases List.mem_cons.mp hmem with rfl | hmem
        · exact absurd hbad hrow
        · exact ⟨bad, hmem, hbad⟩
      obtain ⟨given, hgiven⟩ := (hrows row List.mem_cons_self).resolve_left hrow
      cases given with
      | ok a =>
        rw [hgiven]
        exact congrArg (·.map (a :: ·)) hrest
      | error shape =>
        rw [hgiven]
        exact hrest

/-- **A listing fails** for the reason for which one of its rows cannot be read, if there is no other
reason. -/
theorem Listing.outcome_ofTable_eq_error {why : RepositoryError}
    (hrows : ∀ row ∈ rows, rule row = .error why
      ∨ ∃ given : Except ShapeError α, rule row = given.mapError .shape)
    (hbad : ∃ row ∈ rows, rule row = .error why) (hwhy : ∀ shape, why ≠ .shape shape) :
    (Listing.ofTable name before rule (some rows)).outcome = .error why := by
  obtain ⟨bad, hmem, hbad⟩ := hbad
  exact outcome_ofRows_eq_error (fun row hrow => hrows row (List.mem_mergeSort.mp hrow))
    ⟨bad, List.mem_mergeSort.mpr hmem, hbad⟩ hwhy

end

end MailTriage
