import MailTriage.Proofs.Rule.Decision
import MailTriage.Proofs.Store.Guard
import MailTriage.Proofs.Store.Keeping

/-! # The list of allowed domains

While assignee rules come from validated drafts only, and always under the same list of allowed
domains, nobody outside these domains is ever assigned (`Store.assignee_is_allowed`).  Each change
keeps the addresses of the book allowed (`RuleBook.AssignsWithin.record`), so a run does
(`RuleBook.AssignsWithin.after`); and reading a document trims its address and takes small letters,
which changes nothing in an address that went through validation.
-/
namespace MailTriage

/-! ### Allowed addresses -/

/-- The text is the normal form of an address whose domain is allowed. -/
def IsAllowedAddress (allowed : List String) (email : String) : Prop :=
  ∃ text sender, Sender.parse? text = some sender
    ∧ isAllowedDomain allowed sender.domain = true ∧ email = sender.email

namespace IsAllowedAddress

variable {allowed : List String} {email : String}

theorem lower_trim (h : IsAllowedAddress allowed email) :
    Text.lower (Text.trim email) = email := by
  obtain ⟨text, sender, hparse, -, rfl⟩ := h
  exact Sender.lower_trim_email hparse

/-- What follows the last `@` is the normal form of an allowed domain, if there are any. -/
theorem exists_domain (h : IsAllowedAddress allowed email) (hallowed : allowed ≠ []) :
    ∃ (front : List Char) (domain : String), email.toList = front ++ '@' :: domain.toList
      ∧ '@' ∉ domain.toList ∧ domain ≠ "" ∧ ∃ a ∈ allowed, normalizeDomain a = domain := by
  obtain ⟨text, sender, hparse, hdomain, rfl⟩ := h
  obtain ⟨hne, hat, front, hfront⟩ :=
    extractDomain_eq_some_iff.mp (Sender.extractDomain_email hparse)
  have hlisted : ∃ a ∈ allowed, (normalizeDomain a == sender.domain) = true := by
    rw [isAllowedDomain, Bool.or_eq_true] at hdomain
    rcases hdomain with hempty | hany
    · exact absurd (List.isEmpty_iff.mp hempty) hallowed
    · exact List.any_eq_true.mp hany
  obtain ⟨a, ha, heq⟩ := hlisted
  exact ⟨front, sender.domain, hfront, hat, hne, a, ha, beq_iff_eq.mp heq⟩

end IsAllowedAddress

/-! ### Step and run -/

/-- The change writes assignee rules only as drafts that are validated with a given list of allowed
domains.  It may switch them on and off and remove them, and do anything with label rules. -/
def RuleChange.AssignsWithin (allowed : List String) : RuleChange → Prop
  | .createAssigneeRule _ _ _ list => list = allowed
  | .insertAssigneeDocument _ _ => False
  | .setAssigneeRuleEnabled _ _ _ | .deleteAssigneeRule _ => True
  | .createLabelRule _ _ _ | .insertLabelDocument _ _ | .setLabelRuleEnabled _ _ _
  | .deleteLabelRule _ => True

/-- All assignee documents of the book have allowed addresses. -/
def RuleBook.AssignsWithin (allowed : List String) (book : RuleBook) : Prop :=
  book.assignees.All fun doc => IsAllowedAddress allowed doc.assigneeEmail

namespace RuleBook.AssignsWithin

variable {allowed : List String} {book next : RuleBook}

/-- **One change** keeps the addresses of the book allowed. -/
theorem record (h : book.AssignsWithin allowed) {change : RuleChange}
    (hchange : change.AssignsWithin allowed) (hrecord : change.record book = .ok next) :
    next.AssignsWithin allowed := by
  cases change with
  | createAssigneeRule now id draft list =>
    obtain ⟨valid, hvalid, hinsert⟩ := exists_of_bind_eq_ok hrecord
    obtain ⟨assignees, hput, rfl⟩ := exists_of_map_eq_ok hinsert
    obtain rfl : list = allowed := hchange
    obtain ⟨sender, hparse, hdomain, -, -, rfl⟩ :=
      AssigneeDraft.validate_eq_ok (eq_ok_of_mapError_eq_ok hvalid)
    exact DocumentMap.All.put h ⟨draft.assigneeEmail, sender, hparse, hdomain, rfl⟩ hput
  | insertAssigneeDocument now doc => exact hchange.elim
  | setAssigneeRuleEnabled now id enabled =>
    obtain ⟨assignees, hrevise, rfl⟩ := exists_of_map_eq_ok hrecord
    refine DocumentMap.All.revise h (fun doc hdoc changed hchanged => ?_) hrevise
    cases hchanged -- switching leaves the address alone
    exact hdoc
  | deleteAssigneeRule id =>
    obtain ⟨assignees, hrevise, rfl⟩ := exists_of_map_eq_ok hrecord
    refine DocumentMap.All.revise h (fun doc hdoc changed hchanged => ?_) hrevise
    cases hchanged
  | createLabelRule now id draft =>
    obtain ⟨valid, -, hinsert⟩ := exists_of_bind_eq_ok hrecord
    obtain ⟨labels, -, rfl⟩ := exists_of_map_eq_ok hinsert
    exact h
  | insertLabelDocument now doc =>
    obtain ⟨labels, -, rfl⟩ := exists_of_map_eq_ok hrecord
    exact h
  | setLabelRuleEnabled now id enabled =>
    obtain ⟨labels, -, rfl⟩ := exists_of_map_eq_ok hrecord
    exact h
  | deleteLabelRule id =>
    obtain ⟨labels, -, rfl⟩ := exists_of_map_eq_ok hrecord
    exact h

/-- **A run** keeps the addresses of the book allowed. -/
theorem after (h : book.AssignsWithin allowed) {changes : List RuleChange}
    (hchanges : ∀ change ∈ changes, change.AssignsWithin allowed) :
    (book.after changes).AssignsWithin allowed := by
  induction changes generalizing book with
  | nil => exact h
  | cons change rest ih =>
    have hrest : ∀ other ∈ rest, other.AssignsWithin allowed :=
      fun other hother => hchanges other (List.mem_cons_of_mem change hother)
    rw [RuleBook.after, List.foldl_cons]
    cases hrecord : change.record book with
    | ok next => exact ih (h.record (hchanges change List.mem_cons_self) hrecord) hrest
    | error why => exact ih h hrest

end RuleBook.AssignsWithin

theorem RuleBook.assignsWithin_empty (allowed : List String) :
    ({} : RuleBook).AssignsWithin allowed := by
  intro id doc hdoc
  cases hdoc

/-! ### Listed rules -/

/-- The rule of a row has the address of the row's document, trimmed and in small letters. -/
theorem AssigneeRow.Keeps.assigneeEmail_of_rule {row : AssigneeRow} {doc : AssigneeDocument}
    (h : row.Keeps doc) {rule : AssigneeRule} (hrule : row.rule = .ok rule) :
    rule.assigneeEmail = Text.lower (Text.trim doc.assigneeEmail) := by
  rw [h.rule_eq_bind] at hrule
  obtain ⟨createdAt, -, hrule⟩ := exists_of_bind_eq_ok hrule
  obtain ⟨updatedAt, -, hrule⟩ := exists_of_bind_eq_ok hrule
  obtain ⟨-, -, rfl⟩ := AssigneeRule.ofDocument_eq_ok_iff.mp (eq_ok_of_mapError_eq_ok hrule)
  rfl

/-- Each listed assignee rule has the address of a document that is kept. -/
theorem Tables.Keep.exists_doc_of_mem_listed {tables : Tables} {book : RuleBook}
    (h : tables.Keep book) {rules : List AssigneeRule}
    (hlist : tables.listAssigneeRules.outcome = .ok rules) {rule : AssigneeRule}
    (hrule : rule ∈ rules) :
    ∃ id doc, book.assignees id = some doc
      ∧ rule.assigneeEmail = Text.lower (Text.trim doc.assigneeEmail) := by
  obtain ⟨rows, hrows, hstores⟩ := h.assignees
  rw [listAssigneeRules, hrows] at hlist
  obtain rfl := Listing.eq_filterMap_of_ofRows hlist
  obtain ⟨row, hmem, hgiven⟩ := List.mem_filterMap.mp hrule
  obtain ⟨doc, hdoc, hkeeps⟩ := hstores.sound row (List.mem_mergeSort.mp hmem)
  exact ⟨doc.id, doc, hdoc, hkeeps.assigneeEmail_of_rule (eq_ok_of_toOption_eq_some hgiven)⟩

/-- **Nobody outside the allowed domains is assigned.**  In a store whose assignee rules were only
ever written as drafts, validated with one list of allowed domains that is not empty, every assignee
that the listed rules resolve to has an address in one of these domains. -/
theorem Store.assignee_is_allowed {allowed : List String} (hallowed : allowed ≠ [])
    {history : List RuleChange} (hhistory : ∀ change ∈ history, change.AssignsWithin allowed)
    {rules : List AssigneeRule}
    (hlist : (fresh.content.after history).listAssigneeRules.outcome = .ok rules
      ∨ ∃ set, (fresh.content.after history).loadRules.outcome = .ok set
        ∧ set.assigneeRules = rules)
    {senderText : String} {winner : ResolvedAssignee}
    (hwinner : resolveAssignee senderText rules = some winner) :
    ∃ (front : List Char) (domain : String),
      winner.assigneeEmail.toList = front ++ '@' :: domain.toList ∧ '@' ∉ domain.toList
        ∧ domain ≠ "" ∧ ∃ a ∈ allowed, normalizeDomain a = domain := by
  have hlist : (fresh.content.after history).listAssigneeRules.outcome = .ok rules := by
    rcases hlist with hlist | ⟨set, hload, rfl⟩
    · exact hlist
    · exact outcome_listAssigneeRules_of_loadRules hload
  obtain ⟨sender, -, hresolve⟩ := Option.bind_eq_some_iff.mp hwinner
  obtain ⟨rule, hmem, hrule, -⟩ := exists_least_of_resolveAssigneeFor hresolve
  obtain ⟨-, -, -, hemail, -⟩ := AssigneeRule.resolve?_eq_some_iff.mp hrule
  obtain ⟨id, doc, hdoc, haddress⟩ :=
    (keep_fresh.after history).exists_doc_of_mem_listed hlist hmem
  have hkept : IsAllowedAddress allowed doc.assigneeEmail :=
    (RuleBook.assignsWithin_empty allowed).after hhistory id doc hdoc
  rw [hemail, haddress, hkept.lower_trim]
  exact hkept.exists_domain hallowed

/-! ### A single rule -/

theorem after_createAssigneeRule_support :
    Store.fresh.content.after
        [.createAssigneeRule .epoch "1" (unconfirmedDraft "vendor.io") ["@Support.IO"]]
      = Tables.single .epoch (unconfirmedRule "vendor.io") := rfl

/-- A rule is created under a list that names the domain in another spelling, and wins a sender. -/
theorem Store.assignee_is_allowed_support :
    ∃ winner, resolveAssignee "ann@vendor.io" [unconfirmedRule "vendor.io"] = some winner
      ∧ (fresh.content.after
          [.createAssigneeRule .epoch "1" (unconfirmedDraft "vendor.io")
            ["@Support.IO"]]).listAssigneeRules.outcome
        = .ok [unconfirmedRule "vendor.io"]
      ∧ ∃ (front : List Char) (domain : String),
        winner.assigneeEmail.toList = front ++ '@' :: domain.toList ∧ '@' ∉ domain.toList
          ∧ domain ≠ "" ∧ ∃ a ∈ ["@Support.IO"], normalizeDomain a = domain := by
  have hgiven : AssigneeRule.ofDocument (unconfirmedRule "vendor.io").toDocument
      = .ok (unconfirmedRule "vendor.io") := rfl
  have hlist : (fresh.content.after
      [.createAssigneeRule .epoch "1" (unconfirmedDraft "vendor.io")
        ["@Support.IO"]]).listAssigneeRules.outcome = .ok [unconfirmedRule "vendor.io"] := by
    rw [after_createAssigneeRule_support, Tables.listAssigneeRules_single
      (unconfirmedRule "vendor.io") (by decide) (show readBack "1" = "1" by decide) rfl rfl, hgiven]
    rfl
  have hsender : Sender.parse? "ann@vendor.io"
      = some { email := "ann@vendor.io", domain := "vendor.io" } := by decide
  have hreason : (unconfirmedRule "vendor.io").condition.reason?
      { email := "ann@vendor.io", domain := "vendor.io" } = some .domain := by decide
  have hwinner := resolveAssignee_single hsender rfl hreason
  refine ⟨_, hwinner, hlist, ?_⟩
  refine assignee_is_allowed (List.cons_ne_nil _ _) (fun change hchange => ?_) (.inl hlist) hwinner
  rw [List.mem_singleton.mp hchange]
  exact rfl

end MailTriage
