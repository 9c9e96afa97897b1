import MailTriage.Proofs.Rule.Decision
import MailTriage.Proofs.Suggestion.Evidence

/-! # Mining is sound and complete

What a report suggests can be said without the pipeline that makes it.  For each kind of suggestion
and each address there is some evidence (`evidenceFor`): the entries of the window that record a
fitting action on a message of that address.  The report has a suggestion for the address exactly if
the evidence warrants one (`SuggestionKind.IsWarranted`), the suggestion presents that evidence
(`Suggestion.Presents`), and all suggestions come in one strict order (`Suggestion.ListedBefore`).
This is proved for each kind (`suggestionsFor`) and then for the report
(`mineLog_soundAndComplete`), for every way in which the lookups complete.
-/
namespace MailTriage

/-! ### The evidence -/

/-- The entries that speak for a suggestion: those since an instant that record a fitting action on
a message whose sender is known to have the address. -/
def evidenceFor (mailbox : Mailbox) (config : MiningConfig) (since : Instant)
    (entries : List AuditEntry) (kind : SuggestionKind) (email : String) : List AuditEntry :=
  entries.filter fun entry => decide (since ≤ entry.timestamp)
    && ((kind.actions config).contains entry.action
      && (mailbox.knownSender? entry.messageId).any (·.email == email))

theorem mem_evidenceFor {mailbox : Mailbox} {config : MiningConfig} {since : Instant}
    {entries : List AuditEntry} {kind : SuggestionKind} {email : String} {entry : AuditEntry} :
    entry ∈ evidenceFor mailbox config since entries kind email ↔ entry ∈ entries
      ∧ since ≤ entry.timestamp ∧ entry.action ∈ kind.actions config
      ∧ ∃ text s, mailbox.senderOf entry.messageId = .ok (some text)
        ∧ Sender.parse? text = some s ∧ s.email = email := by
  rw [evidenceFor, List.mem_filter, Bool.and_eq_true, Bool.and_eq_true, decide_eq_true_eq,
    List.contains_iff_mem, Option.any_eq_true]
  simp only [Mailbox.knownSender?_eq_some_iff, beq_iff_eq]
  constructor
  · rintro ⟨hmem, hsince, haction, s, ⟨text, htext, hparse⟩, hemail⟩
    exact ⟨hmem, hsince, haction, text, s, htext, hparse, hemail⟩
  · rintro ⟨hmem, hsince, haction, text, s, htext, hparse, hemail⟩
    exact ⟨hmem, hsince, haction, s, ⟨text, htext, hparse⟩, hemail⟩

/-! ### Who acted, and at what -/

/-- What a person is known by: the address that a text names, or else the text itself in small
letters and without blanks around it. -/
def personName (text : String) : String :=
  ((Sender.parse? text).map (·.email)).getD (Text.lower (Text.trim text))

/-- The people who acted, each of them once. -/
def actorsOf (evidence : List AuditEntry) : TextSet :=
  .ofList (evidence.map fun entry => personName entry.actor)

theorem AuditEntry.actorKey_eq (entry : AuditEntry) : entry.actorKey = personName entry.actor := by
  rw [actorKey, personName, Sender.map_email_parse?]

theorem actorsOf_eq (evidence : List AuditEntry) :
    actorsOf evidence = .ofList (evidence.map (·.actorKey)) := by
  rw [actorsOf, funext AuditEntry.actorKey_eq]

namespace AuditEntry

/-- The metadata of an entry have a text under a name. -/
def HasText (entry : AuditEntry) (name text : String) : Prop :=
  ∃ members, entry.metadata = some (.object members) ∧ Json.get? name members = some (.text text)

/-- The metadata of an entry say whom a message was given to, under the first of two names that has
a text. -/
def NamesPerson (entry : AuditEntry) (text : String) : Prop :=
  entry.HasText "assigneeEmail" text
    ∨ (∀ other, ¬ entry.HasText "assigneeEmail" other) ∧ entry.HasText "assignee_email" text

/-- What an action was aimed at: the label that was put on, or the address of a person.  The message
was given to the person that the metadata name; if that is no address, it was given to whoever took
it over. -/
inductive AimsAt (entry : AuditEntry) : SuggestionKind → String → Prop
  | label {label : String} (h : entry.label = some label) : AimsAt entry .autoLabel label
  | named {text : String} {s : Sender} (htext : entry.NamesPerson text)
    (hs : Sender.parse? text = some s) : AimsAt entry .autoAssign s.email
  | takenOver {s : Sender} (hnamed : ∀ text, entry.NamesPerson text → Sender.parse? text = none)
    (haction : entry.action = takeover) (hs : Sender.parse? entry.actor = some s) :
    AimsAt entry .autoAssign s.email

variable {entry : AuditEntry} {kind : SuggestionKind} {text target : String}

theorem hasText_iff {name : String} : entry.HasText name text
    ↔ entry.metadataText? [name] = some text := by
  rw [HasText, metadataText?]
  split
  · next members heq =>
    rw [heq, List.findSome?_singleton]
    constructor
    · rintro ⟨_, hmembers, hget⟩
      cases hmembers
      rw [hget]
    · intro h
      split at h
      · next s hget => exact ⟨members, rfl, by rw [hget, Option.some.inj h]⟩
      · cases h
  · next hnot =>
    refine iff_of_false ?_ nofun
    rintro ⟨members, hmembers, -⟩
    exact hnot members hmembers

theorem metadataText?_cons (name : String) (names : List String) :
    entry.metadataText? (name :: names)
      = (entry.metadataText? [name]).or (entry.metadataText? names) := by
  rw [metadataText?, metadataText?, metadataText?]
  split
  · rw [List.findSome?_cons, List.findSome?_singleton]
    split <;> simp_all
  · rfl

theorem namesPerson_iff : entry.NamesPerson text
    ↔ entry.metadataText? ["assigneeEmail", "assignee_email"] = some text := by
  rw [NamesPerson, metadataText?_cons, Option.or_eq_some_iff, hasText_iff, hasText_iff,
    Option.eq_none_iff_forall_ne_some]
  simp only [hasText_iff, ne_eq]

/-- The address of the person that the metadata name, if it is one. -/
theorem bind_metadataText?_eq_some_iff :
    (entry.metadataText? ["assigneeEmail", "assignee_email"]).bind normalizeEmail = some target
      ↔ ∃ text s, entry.NamesPerson text ∧ Sender.parse? text = some s ∧ s.email = target := by
  rw [Option.bind_eq_some_iff]
  simp only [← namesPerson_iff, ← Sender.map_email_parse?, Option.map_eq_some_iff,
    exists_and_left]

theorem assignee?_eq_some_iff : entry.assignee? = some target
    ↔ (∃ text s, entry.NamesPerson text ∧ Sender.parse? text = some s ∧ s.email = target)
      ∨ (∀ text, entry.NamesPerson text → Sender.parse? text = none) ∧ entry.action = takeover
        ∧ ∃ s, Sender.parse? entry.actor = some s ∧ s.email = target := by
  have hnone : (entry.metadataText? ["assigneeEmail", "assignee_email"]).bind normalizeEmail = none
      ↔ ∀ text, entry.NamesPerson text → Sender.parse? text = none := by
    simp only [Option.bind_eq_none_iff, ← namesPerson_iff, ← Sender.map_email_parse?,
      Option.map_eq_none_iff]
  rw [assignee?, Option.orElse_eq_orElse, Option.orElse_eq_or, Option.or_eq_some_iff,
    bind_metadataText?_eq_some_iff, hnone, ← Sender.map_email_parse?, Option.ite_none_right_eq_some,
    Option.map_eq_some_iff]

/-- The target that mining takes from an entry is the one that its action was aimed at. -/
theorem aimsAt_iff : entry.AimsAt kind target ↔ kind.target? entry = some target := by
  constructor
  · rintro (h | ⟨htext, hs⟩ | ⟨hnamed, haction, hs⟩)
    · exact h
    · exact assignee?_eq_some_iff.mpr (.inl ⟨_, _, htext, hs, rfl⟩)
    · exact assignee?_eq_some_iff.mpr (.inr ⟨hnamed, haction, _, hs, rfl⟩)
  · intro h
    cases kind with
    | autoLabel => exact .label h
    | autoMute => cases h
    | autoAssign =>
      rcases assignee?_eq_some_iff.mp h with
        ⟨text, s, htext, hs, rfl⟩ | ⟨hnamed, haction, s, hs, rfl⟩
      · exact .named htext hs
      · exact .takenOver hnamed haction hs

instance : Decidable (entry.AimsAt kind target) := decidable_of_iff _ aimsAt_iff.symm

end AuditEntry

namespace SuggestionKind

/-- How many actions were aimed at a target. -/
def timesAimed (kind : SuggestionKind) (evidence : List AuditEntry) (target : String) : Nat :=
  evidence.countP fun entry => entry.AimsAt kind target

/-- The target that most actions were aimed at, the smallest of several. -/
structure IsTopTarget (kind : SuggestionKind) (evidence : List AuditEntry) (target : String) :
    Prop where
  aimed : ∃ entry ∈ evidence, entry.AimsAt kind target
  most : ∀ entry ∈ evidence, ∀ other, entry.AimsAt kind other →
    kind.timesAimed evidence other ≤ kind.timesAimed evidence target
  smallest : ∀ entry ∈ evidence, ∀ other, entry.AimsAt kind other →
    kind.timesAimed evidence other = kind.timesAimed evidence target → target ≤ other

variable {kind : SuggestionKind} {evidence : List AuditEntry} {target : String}

theorem timesAimed_eq (kind : SuggestionKind) (evidence : List AuditEntry) (target : String) :
    kind.timesAimed evidence target = (evidence.filterMap kind.target?).count target := by
  rw [timesAimed, List.count_filterMap]
  refine List.countP_congr fun entry _ => ?_
  rw [decide_eq_true_eq, AuditEntry.aimsAt_iff, beq_iff_eq]

theorem exists_aimsAt_iff : (∃ entry ∈ evidence, entry.AimsAt kind target)
    ↔ target ∈ evidence.filterMap kind.target? := by
  rw [List.mem_filterMap]
  simp only [AuditEntry.aimsAt_iff]

theorem exists_target_iff : (∃ entry ∈ evidence, ∃ target, entry.AimsAt kind target)
    ↔ ∃ entry ∈ evidence, (kind.target? entry).isSome = true := by
  simp only [AuditEntry.aimsAt_iff, Option.isSome_iff_exists]

/-- The top target is the text that occurs most often among the targets. -/
theorem isTopTarget_iff : kind.IsTopTarget evidence target
    ↔ IsMostFrequent target (evidence.filterMap kind.target?) := by
  have hall : ∀ p : String → Prop, (∀ entry ∈ evidence, ∀ other, entry.AimsAt kind other → p other)
      ↔ ∀ other ∈ evidence.filterMap kind.target?, p other := fun p =>
    ⟨fun h other hother => by
      obtain ⟨entry, hentry, haims⟩ := exists_aimsAt_iff.mpr hother
      exact h entry hentry other haims,
     fun h entry hentry other haims => h other (exists_aimsAt_iff.mp ⟨entry, hentry, haims⟩)⟩
  rw [IsMostFrequent, Leads, ← exists_aimsAt_iff]
  simp only [← timesAimed_eq]
  constructor
  · rintro ⟨haimed, hmost, hsmallest⟩
    exact ⟨haimed, fun other hother => ⟨(hall _).mp hmost other hother,
      (hall _).mp hsmallest other hother⟩⟩
  · rintro ⟨haimed, hleads⟩
    exact ⟨haimed, (hall _).mpr fun other hother => (hleads other hother).1,
      (hall _).mpr fun other hother => (hleads other hother).2⟩

theorem IsTopTarget.unique {target' : String} (h : kind.IsTopTarget evidence target)
    (h' : kind.IsTopTarget evidence target') : target = target' :=
  (isTopTarget_iff.mp h).unique (isTopTarget_iff.mp h')

end SuggestionKind

/-! ### What a report should say -/

namespace SuggestionKind

/-- An enabled rule of the kind that a suggestion would create covers a sender. -/
def IsMatched (rules : RuleSet) (s : Sender) : SuggestionKind → Prop
  | .autoLabel | .autoMute =>
    ∃ rule ∈ rules.labelRules, rule.enabled = true ∧ (rule.condition.reason? s).isSome = true
  | .autoAssign =>
    ∃ rule ∈ rules.assigneeRules, rule.enabled = true ∧ (rule.condition.reason? s).isSome = true

/-- The evidence for an address warrants a suggestion. -/
structure IsWarranted (kind : SuggestionKind) (params : SuggestionParams) (rules : RuleSet)
    (email : String) (evidence : List AuditEntry) : Prop where
  nonempty : evidence ≠ []
  enoughActions : params.minActions ≤ evidence.length
  enoughActors : params.minActors ≤ (actorsOf evidence).size
  unmatched : ∀ s, Sender.parse? email = some s → ¬ kind.IsMatched rules s
  /-- Muting needs no target. -/
  target : kind ≠ .autoMute → ∃ entry ∈ evidence, ∃ target, entry.AimsAt kind target

/-- The rule to propose on some evidence: for the address alone, with the label for muting, or with
the label or the person that the actions were aimed at most often. -/
def Proposes (config : MiningConfig) (email : String) (evidence : List AuditEntry)
    (proposal : ProposedRule) : SuggestionKind → Prop
  | .autoLabel => ∃ label, SuggestionKind.autoLabel.IsTopTarget evidence label
      ∧ proposal = .label
        { condition := { email := some email }, labels := .singleton label, assignTo := none
          enabled := true }
  | .autoMute => proposal = .label
      { condition := { email := some email }, labels := .singleton config.muteLabel
        assignTo := none, enabled := true }
  | .autoAssign => ∃ assignee, SuggestionKind.autoAssign.IsTopTarget evidence assignee
      ∧ proposal = .assignee
        { enabled := true, priority := 0, condition := { email := some email }
          assigneeEmail := assignee, broadDomainConfirmed := false }

/-- The place of a kind in a report. -/
def rank : SuggestionKind → Nat
  | .autoLabel => 0
  | .autoMute => 1
  | .autoAssign => 2

end SuggestionKind

namespace Suggestion

/-- A suggestion presents some evidence. -/
structure Presents (suggestion : Suggestion) (config : MiningConfig)
    (evidence : List AuditEntry) : Prop where
  sender : Sender.parse? suggestion.sender.email = some suggestion.sender
  evidenceCount : suggestion.evidenceCount = evidence.length
  actorCount : suggestion.actorCount = (actorsOf evidence).size
  actors : suggestion.actors = (actorsOf evidence).toList.take 5
  proposal : suggestion.kind.Proposes config suggestion.sender.email evidence suggestion.proposal

/-- One suggestion is listed before another: by kind, then the one with more evidence, then the one
with the smaller address. -/
def ListedBefore (a b : Suggestion) : Prop :=
  a.kind.rank < b.kind.rank ∨ a.kind = b.kind ∧ (b.evidenceCount < a.evidenceCount
    ∨ a.evidenceCount = b.evidenceCount ∧ a.sender.email < b.sender.email)

end Suggestion

/-- The suggestions are those that the evidence warrants, each of them once, with what speaks for
it, and in order. -/
structure SoundAndComplete (suggestions : List Suggestion) (config : MiningConfig)
    (params : SuggestionParams) (rules : RuleSet)
    (evidenceOf : SuggestionKind → String → List AuditEntry) : Prop where
  suggested_iff : ∀ kind email,
    (∃ suggestion ∈ suggestions, suggestion.kind = kind ∧ suggestion.sender.email = email)
      ↔ kind.IsWarranted params rules email (evidenceOf kind email)
  unique : suggestions.Pairwise fun a b => ¬ (a.kind = b.kind ∧ a.sender.email = b.sender.email)
  presents : ∀ suggestion ∈ suggestions,
    suggestion.Presents config (evidenceOf suggestion.kind suggestion.sender.email)
  ordered : suggestions.Pairwise Suggestion.ListedBefore

/-- What is suggested because the evidence warrants it. -/
theorem SoundAndComplete.exists_proposes {suggestions : List Suggestion} {config : MiningConfig}
    {params : SuggestionParams} {rules : RuleSet}
    {evidenceOf : SuggestionKind → String → List AuditEntry} {kind : SuggestionKind}
    {email : String}
    (h : SoundAndComplete suggestions config params rules evidenceOf)
    (hwarranted : kind.IsWarranted params rules email (evidenceOf kind email)) :
    ∃ suggestion ∈ suggestions, suggestion.kind = kind ∧ suggestion.sender.email = email
      ∧ kind.Proposes config email (evidenceOf kind email) suggestion.proposal := by
  obtain ⟨suggestion, hmem, rfl, rfl⟩ := (h.suggested_iff kind email).mpr hwarranted
  exact ⟨suggestion, hmem, rfl, rfl, (h.presents suggestion hmem).proposal⟩

/-! ### The suggestion for one group -/

theorem SuggestionKind.isCovered_iff {rules : RuleSet} {s : Sender} {kind : SuggestionKind} :
    kind.isCovered rules s = true ↔ kind.IsMatched rules s := by
  cases kind <;>
    simp only [isCovered, IsMatched, List.any_eq_true, LabelRule.applies, AssigneeRule.applies,
      Condition.covers, Bool.and_eq_true]

namespace Evidence

variable {config : MiningConfig} {days : Nat} {kind : SuggestionKind} {evidence : Evidence}

/-- There is a most frequent target exactly if there is a target. -/
theorem isSome_topTarget?_iff : (evidence.topTarget? kind).isSome = true
    ↔ ∃ entry ∈ evidence.entries, ∃ target, entry.AimsAt kind target := by
  rw [SuggestionKind.exists_target_iff]
  have hspec := mostFrequent?_spec (evidence.entries.filterMap kind.target?)
  rw [topTarget?]
  cases h : mostFrequent? (evidence.entries.filterMap kind.target?) with
  | none =>
    rw [h] at hspec
    refine iff_of_false Bool.false_ne_true ?_
    rintro ⟨entry, hentry, htarget⟩
    obtain ⟨target, htarget⟩ := Option.isSome_iff_exists.mp htarget
    have hmem : target ∈ evidence.entries.filterMap kind.target? :=
      List.mem_filterMap.mpr ⟨entry, hentry, htarget⟩
    rw [show evidence.entries.filterMap kind.target? = [] from hspec] at hmem
    cases hmem
  | some best =>
    rw [h] at hspec
    obtain ⟨entry, hentry, htarget⟩ := List.mem_filterMap.mp hspec.2.1
    exact iff_of_true rfl ⟨entry, hentry, Option.isSome_of_eq_some htarget⟩

theorem isTopTarget_of_topTarget? {target : String} {count : Nat}
    (h : evidence.topTarget? kind = some (target, count)) :
    kind.IsTopTarget evidence.entries target := by
  have hspec := mostFrequent?_spec (evidence.entries.filterMap kind.target?)
  rw [show mostFrequent? (evidence.entries.filterMap kind.target?) = some (target, count) from h]
    at hspec
  exact SuggestionKind.isTopTarget_iff.mpr hspec.2

theorem isSome_proposal?_iff : (evidence.proposal? config days kind).isSome = true
    ↔ kind ≠ .autoMute → ∃ entry ∈ evidence.entries, ∃ target, entry.AimsAt kind target := by
  rw [← isSome_topTarget?_iff]
  cases kind with
  | autoLabel => simp [proposal?]
  | autoMute => simp [proposal?]
  | autoAssign => simp [proposal?]

theorem proposes_of_proposal? {reason : String} {proposal : ProposedRule}
    (h : evidence.proposal? config days kind = some (reason, proposal)) :
    kind.Proposes config evidence.sender.email evidence.entries proposal := by
  cases kind with
  | autoLabel =>
    obtain ⟨⟨label, count⟩, htop, heq⟩ := Option.map_eq_some_iff.mp h
    exact ⟨label, isTopTarget_of_topTarget? htop, (Prod.mk.inj heq).2.symm⟩
  | autoMute => exact (Prod.mk.inj (Option.some_inj.mp h)).2.symm
  | autoAssign =>
    obtain ⟨⟨assignee, count⟩, htop, heq⟩ := Option.map_eq_some_iff.mp h
    exact ⟨assignee, isTopTarget_of_topTarget? htop, (Prod.mk.inj heq).2.symm⟩

theorem suggestion?_eq_some {suggestion : Suggestion}
    (h : evidence.suggestion? config days kind = some suggestion) :
    suggestion.kind = kind ∧ suggestion.sender = evidence.sender
      ∧ (Sender.parse? evidence.sender.email = some evidence.sender →
        suggestion.Presents config evidence.entries) := by
  obtain ⟨⟨reason, proposal⟩, hproposal, rfl⟩ := Option.map_eq_some_iff.mp h
  exact ⟨rfl, rfl, fun hsender =>
    { sender := hsender
      evidenceCount := rfl
      actorCount := by rw [actorsOf_eq]; rfl
      actors := by rw [actorsOf_eq]; rfl
      proposal := proposes_of_proposal? hproposal }⟩

theorem isSome_suggestion?_iff : (evidence.suggestion? config days kind).isSome = true
    ↔ kind ≠ .autoMute → ∃ entry ∈ evidence.entries, ∃ target, entry.AimsAt kind target := by
  rw [suggestion?, Option.isSome_map, isSome_proposal?_iff]

end Evidence

/-! ### The suggestions of one kind -/

namespace Suggestion

theorem reportedBefore_iff {a b : Suggestion} : reportedBefore a b = true
    ↔ b.evidenceCount < a.evidenceCount
      ∨ a.evidenceCount = b.evidenceCount ∧ a.sender.email ≤ b.sender.email := by
  rw [reportedBefore]
  by_cases h : a.evidenceCount = b.evidenceCount
  · simp [h]
  · simp [h]

theorem reportedBefore_trans (a b c : Suggestion) (hab : reportedBefore a b = true)
    (hbc : reportedBefore b c = true) : reportedBefore a c = true := by
  rw [reportedBefore_iff] at *
  rcases hab with hab | ⟨hab, hab'⟩
  · exact .inl (by omega)
  · rcases hbc with hbc | ⟨hbc, hbc'⟩
    · exact .inl (by omega)
    · exact .inr ⟨hab.trans hbc, String.le_trans hab' hbc'⟩

theorem reportedBefore_total (a b : Suggestion) :
    (reportedBefore a b || reportedBefore b a) = true := by
  rw [Bool.or_eq_true, reportedBefore_iff, reportedBefore_iff]
  rcases Nat.lt_trichotomy a.evidenceCount b.evidenceCount with h | h | h
  · exact .inr (.inl h)
  · rcases String.le_total a.sender.email b.sender.email with hle | hle
    · exact .inl (.inr ⟨h, hle⟩)
    · exact .inr (.inr ⟨h.symm, hle⟩)
  · exact .inl (.inl h)

/-- Of suggestions of one kind for different addresses, the one that is reported first is listed
before the other. -/
theorem listedBefore_of_reportedBefore {a b : Suggestion} (hkind : a.kind = b.kind)
    (hemail : a.sender.email ≠ b.sender.email) (h : reportedBefore a b = true) :
    a.ListedBefore b := by
  refine .inr ⟨hkind, ?_⟩
  rcases reportedBefore_iff.mp h with hcount | ⟨hcount, hle⟩
  · exact .inl hcount
  · refine .inr ⟨hcount, String.not_le.mp fun hge => hemail (String.le_antisymm hle hge)⟩

end Suggestion

section
variable {config : MiningConfig} {params : SuggestionParams} {rules : RuleSet}
  {kind : SuggestionKind} {senderOf : String → Option Sender} {entries : List AuditEntry}

theorem mem_suggestionsFor {suggestion : Suggestion} :
    suggestion ∈ suggestionsFor config params rules kind senderOf entries
      ↔ ∃ evidence ∈ Evidence.collect senderOf entries,
        kind.isCovered rules evidence.sender = false ∧ evidence.isEnough params = true
          ∧ evidence.suggestion? config params.days kind = some suggestion := by
  rw [suggestionsFor, List.mem_mergeSort, List.mem_filterMap]
  simp only [List.mem_filter, Bool.and_eq_true, Bool.not_eq_true', and_assoc]

theorem kind_of_mem_suggestionsFor {suggestion : Suggestion}
    (h : suggestion ∈ suggestionsFor config params rules kind senderOf entries) :
    suggestion.kind = kind := by
  obtain ⟨evidence, -, -, -, hsuggestion⟩ := mem_suggestionsFor.mp h
  exact (Evidence.suggestion?_eq_some hsuggestion).1

/-- No address has two suggestions of one kind. -/
theorem pairwise_email_suggestionsFor :
    (suggestionsFor config params rules kind senderOf entries).Pairwise
      fun a b => a.sender.email ≠ b.sender.email := by
  rw [suggestionsFor, (List.mergeSort_perm _ _).pairwise_iff Ne.symm, List.pairwise_filterMap]
  refine (Evidence.pairwise_collect.filter _).imp fun hlt a ha b hb heq => ?_
  rw [(Evidence.suggestion?_eq_some ha).2.1, (Evidence.suggestion?_eq_some hb).2.1] at heq
  rw [heq] at hlt
  exact String.lt_irrefl _ hlt

theorem pairwise_suggestionsFor :
    (suggestionsFor config params rules kind senderOf entries).Pairwise
      Suggestion.ListedBefore := by
  have hsorted : (suggestionsFor config params rules kind senderOf entries).Pairwise
      fun a b => Suggestion.reportedBefore a b = true :=
    List.pairwise_mergeSort Suggestion.reportedBefore_trans Suggestion.reportedBefore_total _
  refine (hsorted.and pairwise_email_suggestionsFor).imp_of_mem fun ha hb ⟨hbefore, hemail⟩ => ?_
  refine Suggestion.listedBefore_of_reportedBefore ?_ hemail hbefore
  rw [kind_of_mem_suggestionsFor ha, kind_of_mem_suggestionsFor hb]

/-- A suggestion presents all entries from its address. -/
theorem presents_of_mem_suggestionsFor
    (hsender : ∀ messageId s, senderOf messageId = some s → Sender.parse? s.email = some s)
    {suggestion : Suggestion}
    (h : suggestion ∈ suggestionsFor config params rules kind senderOf entries) :
    suggestion.Presents config (entriesFrom senderOf entries suggestion.sender.email) := by
  obtain ⟨evidence, hmem, -, -, hsuggestion⟩ := mem_suggestionsFor.mp h
  obtain ⟨hparse, hentries, -⟩ := (Evidence.mem_collect hsender).mp hmem
  obtain ⟨-, hsame, hpresents⟩ := Evidence.suggestion?_eq_some hsuggestion
  rw [hsame, ← hentries]
  exact hpresents hparse

theorem Evidence.isEnough_iff {evidence : Evidence} : evidence.isEnough params = true
    ↔ params.minActions ≤ evidence.entries.length
      ∧ params.minActors ≤ (actorsOf evidence.entries).size := by
  rw [isEnough, Bool.and_eq_true, decide_eq_true_eq, decide_eq_true_eq, actorsOf_eq]
  rfl

/-- **An address has a suggestion of a kind exactly if its entries warrant one.** -/
theorem exists_mem_suggestionsFor_iff
    (hsender : ∀ messageId s, senderOf messageId = some s → Sender.parse? s.email = some s)
    (email : String) :
    (∃ suggestion ∈ suggestionsFor config params rules kind senderOf entries,
        suggestion.sender.email = email)
      ↔ kind.IsWarranted params rules email (entriesFrom senderOf entries email) := by
  constructor
  · rintro ⟨suggestion, hmem, rfl⟩
    obtain ⟨evidence, hcollect, hcovered, henough, hsuggestion⟩ := mem_suggestionsFor.mp hmem
    obtain ⟨hparse, hentries, hne⟩ := (Evidence.mem_collect hsender).mp hcollect
    obtain ⟨-, hsame, -⟩ := Evidence.suggestion?_eq_some hsuggestion
    obtain ⟨hactions, hactors⟩ := Evidence.isEnough_iff.mp henough
    rw [hsame, ← hentries]
    exact
      { nonempty := hne
        enoughActions := hactions
        enoughActors := hactors
        unmatched := fun s hs hmatched => by
          obtain rfl := Option.some_inj.mp (hparse.symm.trans hs)
          rw [SuggestionKind.isCovered_iff.mpr hmatched] at hcovered
          cases hcovered
        target := Evidence.isSome_suggestion?_iff.mp (Option.isSome_of_eq_some hsuggestion) }
  · intro hwarranted
    -- some entry is from the address, so the address names a sender, and that sender has a group
    obtain ⟨entry, hentry⟩ := List.exists_mem_of_ne_nil _ hwarranted.nonempty
    obtain ⟨-, s, hs, rfl⟩ := mem_entriesFrom.mp hentry
    have hparse := hsender _ _ hs
    obtain ⟨evidence, hfor, hentries⟩ : ∃ evidence : Evidence, evidence.sender = s
        ∧ evidence.entries = entriesFrom senderOf entries s.email :=
      ⟨⟨s, entriesFrom senderOf entries s.email⟩, rfl, rfl⟩
    rw [← hentries] at hwarranted
    have hcollect : evidence ∈ Evidence.collect senderOf entries :=
      (Evidence.mem_collect hsender).mpr
        ⟨by rw [hfor, hparse], by rw [hfor, hentries], hwarranted.nonempty⟩
    have hcovered : kind.isCovered rules evidence.sender = false := by
      refine Bool.eq_false_iff.mpr fun hcovered => hwarranted.unmatched s hparse ?_
      rw [hfor] at hcovered
      exact SuggestionKind.isCovered_iff.mp hcovered
    have henough := Evidence.isEnough_iff.mpr ⟨hwarranted.enoughActions, hwarranted.enoughActors⟩
    obtain ⟨suggestion, hsuggestion⟩ : ∃ suggestion,
        evidence.suggestion? config params.days kind = some suggestion :=
      Option.isSome_iff_exists.mp (Evidence.isSome_suggestion?_iff.mpr hwarranted.target)
    have hmem := mem_suggestionsFor.mpr ⟨evidence, hcollect, hcovered, henough, hsuggestion⟩
    refine ⟨suggestion, hmem, ?_⟩
    rw [(Evidence.suggestion?_eq_some hsuggestion).2.1, hfor]

end

/-! ### The report -/

section
variable {log : AuditLog} {mailbox : Mailbox} {config : MiningConfig} {now : Instant}
  {params : SuggestionParams} {rules : RuleSet} {entries : List AuditEntry}

/-- The senders that mining knows for a kind of suggestion, given the lookups in the order in which
they complete. -/
def minedSender (mailbox : Mailbox) (config : MiningConfig) (choose : Nat → Nat)
    (relevant : List AuditEntry) : String → Option Sender :=
  SenderLookup.find? (SenderLookup.all mailbox (completionOrder config.lookupConcurrency choose
    (TextSet.ofList (relevant.map (·.messageId))).toList))

theorem minedSender_eq (choose : Nat → Nat) {relevant : List AuditEntry} {entry : AuditEntry}
    (h : entry ∈ relevant) :
    minedSender mailbox config choose relevant entry.messageId
      = mailbox.knownSender? entry.messageId := by
  refine SenderLookup.find?_all mailbox ?_
  rw [(completionOrder_perm _ _ _).mem_iff]
  exact TextSet.mem_ofList.mpr (List.mem_map_of_mem h)

theorem SenderLookup.parse?_email_of_find? {lookups : List SenderLookup} {messageId : String}
    {s : Sender} (h : SenderLookup.find? lookups messageId = some s) :
    Sender.parse? s.email = some s := by
  obtain ⟨lookup, -, hsender⟩ := Option.bind_eq_some_iff.mp h
  rw [SenderLookup.sender?] at hsender
  split at hsender
  · exact Sender.parse?_email hsender
  · cases hsender

/-- The entries that count for a kind and an address are the evidence for it. -/
theorem entriesFrom_relevantEntries (since : Instant) (kind : SuggestionKind) (email : String) :
    entriesFrom mailbox.knownSender?
        (relevantEntries config kind (entries.filter fun entry => since ≤ entry.timestamp)) email
      = evidenceFor mailbox config since entries kind email := by
  rw [entriesFrom, relevantEntries, List.filter_filter, List.filter_filter, evidenceFor]
  refine List.filter_congr fun entry _ => ?_
  rw [Bool.and_comm, Bool.and_comm (Option.any _ _)]

/-- What mining looks at for a kind and an address is the evidence for it. -/
theorem entriesFrom_minedSender (since : Instant) (choose : Nat → Nat) (kind : SuggestionKind)
    (email : String) :
    entriesFrom
        (minedSender mailbox config choose
          (relevantEntries config kind (entries.filter fun entry => since ≤ entry.timestamp)))
        (relevantEntries config kind (entries.filter fun entry => since ≤ entry.timestamp)) email
      = evidenceFor mailbox config since entries kind email := by
  -- the messages that mining asks about are those of the entries it looks at
  rw [entriesFrom_congr fun entry hentry => minedSender_eq choose hentry]
  exact entriesFrom_relevantEntries since kind email

theorem SuggestionKind.mem_all (kind : SuggestionKind) : kind ∈ SuggestionKind.all := by
  cases kind <;> decide

theorem SuggestionKind.pairwise_all : SuggestionKind.all.Pairwise (·.rank < ·.rank) := by
  decide

theorem mineLog_eq_ok (choose : SuggestionKind → Nat → Nat)
    (hlog : log.entriesSince (windowStart now params.days) = .ok entries) :
    mineLog log mailbox config now params rules choose
      = .ok (SuggestionKind.all.map fun kind => mineKind mailbox config params rules
        (entries.filter fun entry => windowStart now params.days ≤ entry.timestamp) (choose kind)
        kind) := by
  rw [mineLog, hlog]
  rfl

theorem mineLog_eq_error (choose : SuggestionKind → Nat → Nat) {why : StoreError}
    (hlog : log.entriesSince (windowStart now params.days) = .error why) :
    mineLog log mailbox config now params rules choose = .error why := by
  rw [mineLog, hlog]
  rfl

theorem suggestions_mineLog (choose : SuggestionKind → Nat → Nat)
    (hlog : log.entriesSince (windowStart now params.days) = .ok entries) :
    (MiningOutcome.report (mineLog log mailbox config now params rules choose)).suggestions
      = SuggestionKind.all.flatMap fun kind =>
        let relevant := relevantEntries config kind
          (entries.filter fun entry => windowStart now params.days ≤ entry.timestamp)
        suggestionsFor config params rules kind
          (minedSender mailbox config (choose kind) relevant) relevant := by
  rw [mineLog_eq_ok choose hlog]
  exact List.flatMap_map _ _ _

/-- **Mining is sound and complete.**  Once the audit log is read, the suggestions are those that
the evidence in the window warrants, in whichever order the lookups complete. -/
theorem mineLog_soundAndComplete (choose : SuggestionKind → Nat → Nat)
    (hlog : log.entriesSince (windowStart now params.days) = .ok entries) :
    SoundAndComplete
      (MiningOutcome.report (mineLog log mailbox config now params rules choose)).suggestions
      config params rules (evidenceFor mailbox config (windowStart now params.days) entries) := by
  have hsender : ∀ kind messageId s, minedSender mailbox config (choose kind)
      (relevantEntries config kind
        (entries.filter fun entry => windowStart now params.days ≤ entry.timestamp)) messageId
      = some s → Sender.parse? s.email = some s :=
    fun kind messageId s hs => SenderLookup.parse?_email_of_find? hs
  rw [suggestions_mineLog choose hlog]
  refine ⟨fun kind email => ?_, ?_, fun suggestion hmem => ?_, ?_⟩
  · rw [← entriesFrom_minedSender _ (choose kind), ← exists_mem_suggestionsFor_iff (hsender kind)]
    constructor
    · rintro ⟨suggestion, hmem, rfl, hemail⟩
      obtain ⟨kind', -, hmem⟩ := List.mem_flatMap.mp hmem
      obtain rfl := kind_of_mem_suggestionsFor hmem
      exact ⟨suggestion, hmem, hemail⟩
    · rintro ⟨suggestion, hmem, hemail⟩
      have hkind := kind_of_mem_suggestionsFor hmem
      exact ⟨suggestion, List.mem_flatMap.mpr ⟨kind, kind.mem_all, hmem⟩, hkind, hemail⟩
  · refine List.pairwise_flatMap.mpr ⟨fun kind _ => ?_, ?_⟩
    · exact pairwise_email_suggestionsFor.imp fun hemail hsame => hemail hsame.2
    · refine SuggestionKind.pairwise_all.imp fun hrank a ha b hb hsame => ?_
      rw [← kind_of_mem_suggestionsFor ha, ← kind_of_mem_suggestionsFor hb, hsame.1] at hrank
      exact Nat.lt_irrefl _ hrank
  · obtain ⟨kind, -, hmem⟩ := List.mem_flatMap.mp hmem
    have hpresents := presents_of_mem_suggestionsFor (hsender kind) hmem
    rwa [entriesFrom_minedSender, ← kind_of_mem_suggestionsFor hmem] at hpresents
  · refine List.pairwise_flatMap.mpr ⟨fun kind _ => pairwise_suggestionsFor, ?_⟩
    refine SuggestionKind.pairwise_all.imp fun hrank a ha b hb => .inl ?_
    rwa [kind_of_mem_suggestionsFor ha, kind_of_mem_suggestionsFor hb]

end

/-- An entry about a message that somebody mutes. -/
def mutedBy (actor messageId : String) : AuditEntry :=
  { timestamp := .epoch, actor, action := AuditEntry.mute, messageId, label := none
    metadata := none }

/-- An entry about a message that somebody puts a label on. -/
def labelledBy (actor messageId label : String) : AuditEntry :=
  { timestamp := .epoch, actor, action := AuditEntry.labelApply, messageId, label := some label
    metadata := none }

/-- Two people each put a label of their own on a message of one sender. -/
def newsLabels : List AuditEntry :=
  [labelledBy "ann@desk.io" "1" "VIP", labelledBy "bob@desk.io" "2" "News"]

/-- One message of the sender is given to somebody whom the metadata name, another one is taken
over. -/
def newsHands : List AuditEntry :=
  [{ timestamp := .epoch, actor := "ann@desk.io", action := AuditEntry.assign, messageId := "3"
     label := none
     metadata := some (.object [("assignee_email", .text "Zoe <Zoe@desk.io>")]) },
   { timestamp := .epoch, actor := " BOB@desk.io", action := AuditEntry.takeover, messageId := "4"
     label := none, metadata := none }]

/-- Two people put one label on messages of another sender. -/
def bossLabels : List AuditEntry :=
  [labelledBy "ann@desk.io" "5" "VIP", labelledBy "bob@desk.io" "6" "VIP"]

/-- A mailbox with messages of both senders. -/
def deskMailbox : Mailbox where
  sample _ _ := .ok []
  senderOf messageId :=
    .ok (some (if messageId = "5" ∨ messageId = "6" then "boss@corp.io" else "News <news@shop.io>"))

/-- The rules of the desk cover the other sender. -/
def deskRules : RuleSet where
  labelRules :=
    [{ id := "1", condition := { email := some "boss@corp.io" }, labels := .singleton "VIP"
       assignTo := none, enabled := true, createdAt := .epoch }]

theorem isWarranted_newsLabels : SuggestionKind.autoLabel.IsWarranted
    { days := 14, minActions := 2, minActors := 2 } deskRules "news@shop.io" newsLabels where
  nonempty := List.cons_ne_nil _ _
  enoughActions := by decide
  enoughActors := by decide
  unmatched s hs := by
    rintro ⟨rule, hrule, -, hreason⟩
    obtain rfl := List.mem_singleton.mp hrule
    cases hs
    cases hreason
  target _ := ⟨_, List.mem_cons_self, _, .label rfl⟩

theorem isWarranted_newsHands : SuggestionKind.autoAssign.IsWarranted
    { days := 14, minActions := 2, minActors := 2 } deskRules "news@shop.io" newsHands where
  nonempty := List.cons_ne_nil _ _
  enoughActions := by decide
  enoughActors := by decide
  unmatched _ _ := by
    rintro ⟨rule, hrule, -⟩
    cases hrule
  target _ := SuggestionKind.exists_target_iff.mpr (by decide)

/-- The first of two labels that were put on equally often is proposed, and so is the first of two
people.  There is no suggestion for the sender that a rule covers already. -/
theorem mineLog_soundAndComplete_tied :
    let suggestions := (MiningOutcome.report (mineLog
      { entriesSince := fun _ => .ok (newsLabels ++ newsHands ++ bossLabels) } deskMailbox
      { mineLabelApplications := true } .epoch { days := 14, minActions := 2, minActors := 2 }
      deskRules fun _ _ => 0)).suggestions
    (∃ suggestion ∈ suggestions, suggestion.kind = .autoLabel
        ∧ suggestion.sender.email = "news@shop.io"
        ∧ suggestion.proposal = .label
          { condition := { email := some "news@shop.io" }, labels := .singleton "News"
            assignTo := none, enabled := true })
      ∧ (∃ suggestion ∈ suggestions, suggestion.kind = .autoAssign
        ∧ suggestion.sender.email = "news@shop.io"
        ∧ suggestion.proposal = .assignee
          { enabled := true, priority := 0, condition := { email := some "news@shop.io" }
            assigneeEmail := "bob@desk.io", broadDomainConfirmed := false })
      ∧ ¬ ∃ suggestion ∈ suggestions, suggestion.kind = .autoLabel
        ∧ suggestion.sender.email = "boss@corp.io" := by
  intro suggestions
  have h : SoundAndComplete suggestions { mineLabelApplications := true }
      { days := 14, minActions := 2, minActors := 2 } deskRules
      (evidenceFor deskMailbox { mineLabelApplications := true } (windowStart .epoch 14)
        (newsLabels ++ newsHands ++ bossLabels)) :=
    mineLog_soundAndComplete (fun _ _ => 0) rfl
  have hlabels : evidenceFor deskMailbox { mineLabelApplications := true } (windowStart .epoch 14)
      (newsLabels ++ newsHands ++ bossLabels) .autoLabel "news@shop.io" = newsLabels := rfl
  have hhands : evidenceFor deskMailbox { mineLabelApplications := true } (windowStart .epoch 14)
      (newsLabels ++ newsHands ++ bossLabels) .autoAssign "news@shop.io" = newsHands := rfl
  refine ⟨?_, ?_, fun hboss => ?_⟩
  · obtain ⟨suggestion, hmem, hkind, hemail, label, hlabel, hproposal⟩ :=
      h.exists_proposes (hlabels.symm ▸ isWarranted_newsLabels)
    have htop : SuggestionKind.autoLabel.IsTopTarget newsLabels "News" :=
      SuggestionKind.isTopTarget_iff.mpr ⟨by decide, by decide⟩
    rw [hlabels] at hlabel
    rw [hlabel.unique htop] at hproposal
    exact ⟨suggestion, hmem, hkind, hemail, hproposal⟩
  · obtain ⟨suggestion, hmem, hkind, hemail, assignee, hassignee, hproposal⟩ :=
      h.exists_proposes (hhands.symm ▸ isWarranted_newsHands)
    have htop : SuggestionKind.autoAssign.IsTopTarget newsHands "bob@desk.io" :=
      SuggestionKind.isTopTarget_iff.mpr ⟨by decide, by decide⟩
    rw [hhands] at hassignee
    rw [hassignee.unique htop] at hproposal
    exact ⟨suggestion, hmem, hkind, hemail, hproposal⟩
  · refine ((h.suggested_iff .autoLabel "boss@corp.io").mp hboss).unmatched _ rfl ?_
    exact ⟨_, List.mem_singleton_self _, rfl, rfl⟩

end MailTriage
