import Mathlib.Data.List.Sort
import MailTriage.Proofs.Suggestion.Report

/-! # What a report depends on

Mining sees an entry of the audit log only as the person who acted and the target of the action
(`SuggestionKind.view`).  So two audit logs lead to the same report if the evidence for each kind
and address shows the same views in both, each of them as often, in whatever order
(`report_mineLog_congr`).  Evidence for labelling or assigning that shows no target leads to nothing
(`SuggestionKind.IsIdle`), and may differ as it likes.  Beyond that a report is as fine as its
thresholds: evidence that is too little in one log and enough in the other tells the reports apart
(`report_mineLog_ne`).
-/
namespace MailTriage

namespace SuggestionKind

/-- What mining sees of an entry. -/
def view (kind : SuggestionKind) (entry : AuditEntry) : String × Option String :=
  (entry.actorKey, kind.target? entry)

/-- The one evidence shows the same views as the other, each of them as often. -/
def SameViews (kind : SuggestionKind) (evidence evidence' : List AuditEntry) : Prop :=
  (evidence.map kind.view).Perm (evidence'.map kind.view)

/-- The evidence has no target, and one is needed. -/
def IsIdle (kind : SuggestionKind) (evidence : List AuditEntry) : Prop :=
  kind ≠ .autoMute ∧ ∀ entry ∈ evidence, kind.target? entry = none

/-- Mining sees no difference between the one evidence and the other. -/
def Alike (kind : SuggestionKind) (evidence evidence' : List AuditEntry) : Prop :=
  kind.SameViews evidence evidence' ∨ kind.IsIdle evidence ∧ kind.IsIdle evidence'

theorem map_fst_view (kind : SuggestionKind) (evidence : List AuditEntry) :
    (evidence.map kind.view).map Prod.fst = evidence.map (·.actorKey) := by
  simp only [List.map_map, Function.comp_def, view]

theorem filterMap_snd_view (kind : SuggestionKind) (evidence : List AuditEntry) :
    (evidence.map kind.view).filterMap Prod.snd = evidence.filterMap kind.target? := by
  simp only [List.filterMap_map, Function.comp_def, view]

theorem not_isIdle_iff {kind : SuggestionKind} {evidence : List AuditEntry} :
    ¬ kind.IsIdle evidence
      ↔ (kind ≠ .autoMute → ∃ entry ∈ evidence, ∃ target, entry.AimsAt kind target) := by
  rw [exists_target_iff]
  simp only [IsIdle, not_and, Classical.not_forall, ← ne_eq, ← Option.isSome_iff_ne_none,
    exists_prop]

end SuggestionKind

/-! ### The evidence for one address -/

/-- The most frequent text is found in any order of the texts. -/
theorem mostFrequent?_perm {texts texts' : List String} (h : texts.Perm texts') :
    mostFrequent? texts = mostFrequent? texts' := by
  have hset : TextSet.ofList texts = TextSet.ofList texts' := TextSet.ext fun text => by
    rw [TextSet.mem_ofList, TextSet.mem_ofList, h.mem_iff]
  have hmore : moreFrequent texts = moreFrequent texts' := by
    funext best text
    simp only [moreFrequent, h.count_eq]
  rw [mostFrequent?, mostFrequent?, hset, hmore]

namespace Evidence

section
variable {config : MiningConfig} {params : SuggestionParams} {days : Nat} {kind : SuggestionKind}
  {evidence evidence' : Evidence}

theorem count_congr (h : kind.SameViews evidence.entries evidence'.entries) :
    evidence.count = evidence'.count := by
  have hlength := h.length_eq
  rwa [List.length_map, List.length_map] at hlength

theorem actors_congr (h : kind.SameViews evidence.entries evidence'.entries) :
    evidence.actors = evidence'.actors := by
  have hkeys := h.map Prod.fst
  rw [kind.map_fst_view, kind.map_fst_view] at hkeys
  refine TextSet.ext fun key => ?_
  rw [actors, actors, TextSet.mem_ofList, TextSet.mem_ofList, hkeys.mem_iff]

theorem topTarget?_congr (h : kind.SameViews evidence.entries evidence'.entries) :
    evidence.topTarget? kind = evidence'.topTarget? kind := by
  have htargets := h.filterMap Prod.snd
  rw [kind.filterMap_snd_view, kind.filterMap_snd_view] at htargets
  exact mostFrequent?_perm htargets

theorem isEnough_congr (h : kind.SameViews evidence.entries evidence'.entries) :
    evidence.isEnough params = evidence'.isEnough params := by
  rw [isEnough, isEnough, count_congr h, actors_congr h]

theorem suggestion?_congr (hsender : evidence.sender = evidence'.sender)
    (h : kind.SameViews evidence.entries evidence'.entries) :
    evidence.suggestion? config days kind = evidence'.suggestion? config days kind := by
  have hproposal : evidence.proposal? config days kind = evidence'.proposal? config days kind := by
    simp only [proposal?, hsender, count_congr h, actors_congr h, topTarget?_congr h]
  rw [suggestion?, suggestion?, hproposal, hsender, count_congr h, actors_congr h]

theorem suggestion?_of_isIdle (h : kind.IsIdle evidence.entries) :
    evidence.suggestion? config days kind = none :=
  Option.not_isSome_iff_eq_none.mp fun hsome =>
    SuggestionKind.not_isIdle_iff.mpr (isSome_suggestion?_iff.mp hsome) h

end

end Evidence

/-! ### The suggestions of one kind -/

namespace Suggestion

theorem ListedBefore.asymm {a b : Suggestion} (h : a.ListedBefore b) : ¬ b.ListedBefore a := by
  intro h'
  rcases h with hrank | ⟨hkind, h⟩
  · rcases h' with hrank' | ⟨hkind', -⟩
    · exact Nat.lt_asymm hrank hrank'
    · rw [hkind'] at hrank
      exact Nat.lt_irrefl _ hrank
  · rcases h' with hrank' | ⟨-, h'⟩
    · rw [hkind] at hrank'
      exact Nat.lt_irrefl _ hrank'
    · rcases h with h | ⟨hcount, hlt⟩ <;> rcases h' with h' | ⟨hcount', hlt'⟩
      · omega
      · omega
      · omega
      · exact String.lt_asymm hlt hlt'

instance : Std.Asymm ListedBefore := ⟨fun _ _ => ListedBefore.asymm⟩

end Suggestion

section
variable {config : MiningConfig} {params : SuggestionParams} {rules : RuleSet}
  {kind : SuggestionKind} {senderOf senderOf' : String → Option Sender}
  {entries entries' : List AuditEntry}

/-- All entries about messages of a sender. -/
def Evidence.ofSender (senderOf : String → Option Sender) (entries : List AuditEntry) (s : Sender) :
    Evidence := { sender := s, entries := entriesFrom senderOf entries s.email }

/-- A suggestion of a kind is the one that all entries from some address lead to. -/
theorem mem_suggestionsFor_iff
    (hsender : ∀ messageId s, senderOf messageId = some s → Sender.parse? s.email = some s)
    {suggestion : Suggestion} :
    suggestion ∈ suggestionsFor config params rules kind senderOf entries
      ↔ ∃ s, Sender.parse? s.email = some s ∧ entriesFrom senderOf entries s.email ≠ []
        ∧ kind.isCovered rules s = false
        ∧ (Evidence.ofSender senderOf entries s).isEnough params = true
        ∧ (Evidence.ofSender senderOf entries s).suggestion? config params.days kind
          = some suggestion := by
  rw [mem_suggestionsFor]
  constructor
  · rintro ⟨⟨s, own⟩, hcollect, hrest⟩
    obtain ⟨hparse, hentries, hne⟩ := (Evidence.mem_collect hsender).mp hcollect
    obtain rfl : own = entriesFrom senderOf entries s.email := hentries
    exact ⟨s, hparse, hne, hrest⟩
  · rintro ⟨s, hparse, hne, hrest⟩
    have hcollect : Evidence.ofSender senderOf entries s ∈ Evidence.collect senderOf entries :=
      (Evidence.mem_collect hsender).mpr ⟨hparse, rfl, hne⟩
    exact ⟨Evidence.ofSender senderOf entries s, hcollect, hrest⟩

/-- Entries in which mining sees no difference have no suggestion that the others lack. -/
theorem mem_suggestionsFor_of_alike
    (hsender : ∀ messageId s, senderOf messageId = some s → Sender.parse? s.email = some s)
    (hsender' : ∀ messageId s, senderOf' messageId = some s → Sender.parse? s.email = some s)
    (h : ∀ email,
      kind.Alike (entriesFrom senderOf entries email) (entriesFrom senderOf' entries' email))
    {suggestion : Suggestion}
    (hmem : suggestion ∈ suggestionsFor config params rules kind senderOf entries) :
    suggestion ∈ suggestionsFor config params rules kind senderOf' entries' := by
  obtain ⟨s, hparse, hne, hcovered, henough, hsuggestion⟩ :=
    (mem_suggestionsFor_iff hsender).mp hmem
  rcases h s.email with hperm | ⟨hidle, -⟩
  · have hne' : entriesFrom senderOf' entries' s.email ≠ [] := by
      intro hnil
      rw [hnil] at hperm
      exact hne (List.map_eq_nil_iff.mp hperm.eq_nil)
    have hviews : kind.SameViews (Evidence.ofSender senderOf entries s).entries
        (Evidence.ofSender senderOf' entries' s).entries := hperm
    have hsame : (Evidence.ofSender senderOf entries s).sender
        = (Evidence.ofSender senderOf' entries' s).sender := rfl
    rw [Evidence.isEnough_congr hviews] at henough
    rw [Evidence.suggestion?_congr hsame hviews] at hsuggestion
    exact (mem_suggestionsFor_iff hsender').mpr ⟨s, hparse, hne', hcovered, henough, hsuggestion⟩
  · have hidle : kind.IsIdle (Evidence.ofSender senderOf entries s).entries := hidle
    rw [Evidence.suggestion?_of_isIdle hidle] at hsuggestion
    cases hsuggestion

theorem SuggestionKind.Alike.symm {evidence evidence' : List AuditEntry}
    (h : kind.Alike evidence evidence') : kind.Alike evidence' evidence :=
  h.imp List.Perm.symm And.symm

/-- Entries in which mining sees no difference have the same suggestions. -/
theorem suggestionsFor_congr
    (hsender : ∀ messageId s, senderOf messageId = some s → Sender.parse? s.email = some s)
    (hsender' : ∀ messageId s, senderOf' messageId = some s → Sender.parse? s.email = some s)
    (h : ∀ email,
      kind.Alike (entriesFrom senderOf entries email) (entriesFrom senderOf' entries' email)) :
    suggestionsFor config params rules kind senderOf entries
      = suggestionsFor config params rules kind senderOf' entries' :=
  pairwise_suggestionsFor.eq_of_mem_iff pairwise_suggestionsFor
    fun _ => ⟨mem_suggestionsFor_of_alike hsender hsender' h,
      mem_suggestionsFor_of_alike hsender' hsender fun email => (h email).symm⟩

end

/-! ### The report -/

/-- Every lookup of a sender has an answer, which may be that there is none. -/
def Mailbox.AnswersAll (mailbox : Mailbox) : Prop :=
  ∀ messageId, ∃ sender?, mailbox.senderOf messageId = .ok sender?

theorem failedLookups_of_answersAll {mailbox : Mailbox} (h : mailbox.AnswersAll)
    (config : MiningConfig) (since : Instant) (entries : List AuditEntry) :
    failedLookups mailbox config since entries = 0 :=
  failedLookups_of_answered fun entry _ => Mailbox.fails_eq_false_iff.mpr (h entry.messageId)

section
variable {log log' : AuditLog} {mailbox mailbox' : Mailbox} {config : MiningConfig} {now : Instant}
  {params : SuggestionParams} {rules : RuleSet} {entries entries' : List AuditEntry}

/-- Without failed lookups the only warning is the one about broad domains. -/
theorem warnings_mineLog (choose : SuggestionKind → Nat → Nat)
    (hlog : log.entriesSince (windowStart now params.days) = .ok entries)
    (hmailbox : mailbox.AnswersAll) :
    (MiningOutcome.report (mineLog log mailbox config now params rules choose)).warnings
      = if (MiningOutcome.report (mineLog log mailbox config now params rules choose)).suggestions.any
          (·.warnings.contains .broadDomain) then [.broadDomains]
        else [] := by
  rw [report_mineLog_eq choose hlog, failedLookups_of_answersAll hmailbox]
  rfl

/-- **A report depends only on what mining sees of the evidence**, and not on the order in which
lookups complete. -/
theorem report_mineLog_congr (choose choose' : SuggestionKind → Nat → Nat)
    (hlog : log.entriesSince (windowStart now params.days) = .ok entries)
    (hlog' : log'.entriesSince (windowStart now params.days) = .ok entries')
    (hmailbox : mailbox.AnswersAll) (hmailbox' : mailbox'.AnswersAll)
    (h : ∀ (kind : SuggestionKind) email, kind.Alike
      (evidenceFor mailbox config (windowStart now params.days) entries kind email)
      (evidenceFor mailbox' config (windowStart now params.days) entries' kind email)) :
    MiningOutcome.report (mineLog log mailbox config now params rules choose)
      = MiningOutcome.report (mineLog log' mailbox' config now params rules choose') := by
  have hsuggestions :
      suggestionsFrom mailbox config params rules (windowStart now params.days) entries
        = suggestionsFrom mailbox' config params rules (windowStart now params.days) entries' := by
    refine List.flatMap_congr fun kind _ => ?_
    refine suggestionsFor_congr (fun _ _ => Mailbox.parse?_email_of_knownSender?)
      (fun _ _ => Mailbox.parse?_email_of_knownSender?) fun email => ?_
    rw [minedEntries, minedEntries, entriesFrom_relevantEntries, entriesFrom_relevantEntries]
    exact h kind email
  rw [report_mineLog_eq choose hlog, report_mineLog_eq choose' hlog', hsuggestions,
    failedLookups_of_answersAll hmailbox, failedLookups_of_answersAll hmailbox']

/-- The report has a suggestion exactly for what the evidence warrants. -/
theorem exists_mem_report_iff (choose : SuggestionKind → Nat → Nat)
    (hlog : log.entriesSince (windowStart now params.days) = .ok entries) (kind : SuggestionKind)
    (email : String) :
    (∃ suggestion ∈ (MiningOutcome.report
        (mineLog log mailbox config now params rules choose)).suggestions,
      suggestion.kind = kind ∧ suggestion.sender.email = email)
      ↔ kind.IsWarranted params rules email
        (evidenceFor mailbox config (windowStart now params.days) entries kind email) := by
  rw [report_mineLog_eq choose hlog]
  exact exists_mem_suggestionsFrom_iff

theorem presents_of_mem_report (choose : SuggestionKind → Nat → Nat)
    (hlog : log.entriesSince (windowStart now params.days) = .ok entries) {suggestion : Suggestion}
    (h : suggestion ∈ (MiningOutcome.report
      (mineLog log mailbox config now params rules choose)).suggestions) :
    suggestion.Presents config (evidenceFor mailbox config (windowStart now params.days) entries
      suggestion.kind suggestion.sender.email) := by
  rw [report_mineLog_eq choose hlog] at h
  exact presents_of_mem_suggestionsFrom h

/-- Evidence that warrants a suggestion in one log and is too little in the other shows in the
reports. -/
theorem report_mineLog_ne (choose choose' : SuggestionKind → Nat → Nat)
    (hlog : log.entriesSince (windowStart now params.days) = .ok entries)
    (hlog' : log'.entriesSince (windowStart now params.days) = .ok entries')
    (kind : SuggestionKind) (email : String)
    (hwarranted : kind.IsWarranted params rules email
      (evidenceFor mailbox config (windowStart now params.days) entries kind email))
    (hfew : (evidenceFor mailbox' config (windowStart now params.days) entries' kind email).length
      < params.minActions) :
    MiningOutcome.report (mineLog log mailbox config now params rules choose)
      ≠ MiningOutcome.report (mineLog log' mailbox' config now params rules choose') := by
  intro heq
  have hsuggested := (exists_mem_report_iff choose hlog kind email).mpr hwarranted
  rw [heq] at hsuggested
  have henough := ((exists_mem_report_iff choose' hlog' kind email).mp hsuggested).enoughActions
  exact Nat.not_lt.mpr henough hfew

end

end MailTriage
