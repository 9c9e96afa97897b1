import Mathlib.Data.List.Perm.Subperm
import MailTriage.Mailbox.Memory
import MailTriage.Proofs.Suggestion.Alike
import MailTriage.Proofs.Time.Order

/-! # Reports for other parameters

Two reports on the same past differ only by their parameters.  Thresholds do not enter into a
suggestion, they only select: under stricter thresholds a report has the suggestions that still meet
them, unchanged and in order (`suggestions_report_stricter`).

A longer window starts earlier (`windowStart_antitone`), so there is more evidence for each kind and
address (`evidenceFor_subperm`), and more evidence warrants what less evidence does
(`SuggestionKind.IsWarranted.of_subperm`).  Nothing is lost but the wording, if the audit log lists
since an earlier instant what it lists since a later one (`AuditLog.Remembers`) and can be read from
there at all (`exists_outweighing`).
-/
namespace MailTriage

/-! ### The window -/

theorem windowStart_le (now : Instant) (days : Nat) : windowStart now days ≤ now := by
  rw [windowStart]
  cases hearlier : now.minusDays? days with
  | none =>
    show earliestSecond < now.second ∨ earliestSecond = now.second ∧ 0 ≤ now.nano
    have := now.earliest_le
    omega
  | some earlier =>
    show earlier.second < now.second ∨ earlier.second = now.second ∧ earlier.nano ≤ now.nano
    rw [Instant.minusDays?] at hearlier
    split at hearlier
    · cases hearlier
      exact .inr ⟨rfl, Nat.le_refl _⟩
    · split at hearlier
      · have := Instant.of?_eq_some hearlier
        omega
      · have := Instant.of?_eq_some hearlier
        omega

/-- A window that ends at a whole millisecond starts at one. -/
theorem truncateToMillis_windowStart {now : Instant} (h : now.truncateToMillis = now) (days : Nat) :
    (windowStart now days).truncateToMillis = windowStart now days := by
  have hwhole : 1000000 ∣ now.nano :=
    ⟨now.nano / 1000000, by rw [Nat.mul_comm]; exact (congrArg Instant.nano h).symm⟩
  rw [windowStart]
  cases hearlier : now.minusDays? days with
  | none => rfl
  | some earlier =>
    refine Instant.eq_of_second_nano rfl (Nat.div_mul_cancel ?_)
    show 1000000 ∣ earlier.nano
    rw [Instant.minusDays?] at hearlier
    split at hearlier
    · cases hearlier
      exact hwhole
    · split at hearlier
      · rw [(Instant.of?_eq_some hearlier).2]
        exact hwhole
      · rw [(Instant.of?_eq_some hearlier).2]
        exact Nat.dvd_sub hwhole ⟨1000, rfl⟩

/-- Going back whole days from a second, fewer days are no trouble. -/
theorem Instant.exists_of?_of_le {second : Int} {nano days days' : Nat} {earlier : Instant}
    (h : days ≤ days') (hlatest : second - 86400 * days ≤ latestSecond)
    (hearlier : of? (second - 86400 * days') nano = some earlier) :
    ∃ later, of? (second - 86400 * days) nano = some later ∧ earlier ≤ later := by
  obtain ⟨hsecond, hnano⟩ := of?_eq_some hearlier
  have hnano_lt := earlier.nano_lt
  have hleap := earlier.leap_at_minute_end
  have hearliest := earlier.earliest_le
  rw [hsecond] at hleap hearliest
  rw [hnano] at hnano_lt hleap
  have hproper : nano < 2000000000
      ∧ (1000000000 ≤ nano → (second - 86400 * days : Int) % 60 = 59)
      ∧ earliestSecond ≤ second - 86400 * days ∧ second - 86400 * days ≤ latestSecond :=
    ⟨hnano_lt, fun hle => by have := hleap hle; omega, by omega, hlatest⟩
  refine ⟨_, dif_pos hproper, ?_⟩
  show earlier.second < second - 86400 * days
    ∨ earlier.second = second - 86400 * days ∧ earlier.nano ≤ nano
  omega

/-- An instant that so many days lead back to is not after the one that fewer days do. -/
theorem Instant.exists_minusDays?_of_le {t earlier : Instant} {days days' : Nat} (h : days ≤ days')
    (hearlier : t.minusDays? days' = some earlier) :
    ∃ later, t.minusDays? days = some later ∧ earlier ≤ later := by
  have hlatest := t.le_latest
  by_cases hzero : days = 0
  · refine ⟨t, if_pos hzero, ?_⟩
    have hle := windowStart_le t days'
    rwa [windowStart, hearlier] at hle
  · have hzero' : days' ≠ 0 := by omega
    rw [minusDays?, if_neg hzero'] at hearlier
    rw [minusDays?, if_neg hzero]
    split at hearlier
    · next hnano =>
      rw [if_pos hnano]
      exact exists_of?_of_le h (by omega) hearlier
    · next hnano =>
      rw [if_neg hnano]
      exact exists_of?_of_le h (by omega) hearlier

/-- More days reach further back, also where the window starts at the earliest instant there is. -/
theorem windowStart_antitone (now : Instant) {days days' : Nat} (h : days ≤ days') :
    windowStart now days' ≤ windowStart now days := by
  rw [windowStart]
  cases hearlier : now.minusDays? days' with
  | none => exact Instant.earliest_le_self _
  | some earlier =>
    obtain ⟨later, hlater, hle⟩ := Instant.exists_minusDays?_of_le h hearlier
    rw [windowStart, hlater]
    exact hle

/-! ### Stricter thresholds -/

/-- As much speaks for the suggestion as the thresholds ask for. -/
def Suggestion.meets (params : SuggestionParams) (suggestion : Suggestion) : Bool :=
  params.minActions ≤ suggestion.evidenceCount && params.minActors ≤ suggestion.actorCount

/-- Over the same days no threshold is lower. -/
structure SuggestionParams.IsStricter (stricter params : SuggestionParams) : Prop where
  days : stricter.days = params.days
  minActions : params.minActions ≤ stricter.minActions
  minActors : params.minActors ≤ stricter.minActors

section
variable {config : MiningConfig} {params stricter : SuggestionParams} {rules : RuleSet}
  {kind : SuggestionKind} {senderOf : String → Option Sender} {entries : List AuditEntry}

theorem Evidence.counts_of_suggestion? {days : Nat} {evidence : Evidence} {suggestion : Suggestion}
    (h : evidence.suggestion? config days kind = some suggestion) :
    suggestion.evidenceCount = evidence.count ∧ suggestion.actorCount = evidence.actors.size := by
  obtain ⟨⟨reason, proposal⟩, -, rfl⟩ := Option.map_eq_some_iff.mp h
  exact ⟨rfl, rfl⟩

/-- Evidence is enough under stricter thresholds if it is enough and its suggestion meets them. -/
theorem Evidence.isEnough_stricter (h : stricter.IsStricter params) {days : Nat}
    {evidence : Evidence} {suggestion : Suggestion}
    (hsuggestion : evidence.suggestion? config days kind = some suggestion) :
    evidence.isEnough stricter = true
      ↔ evidence.isEnough params = true ∧ suggestion.meets stricter = true := by
  obtain ⟨hcount, hactors⟩ := counts_of_suggestion? hsuggestion
  have hactions := h.minActions
  have hpeople := h.minActors
  rw [isEnough, isEnough, Suggestion.meets, hcount, hactors]
  simp only [Bool.and_eq_true, decide_eq_true_eq]
  omega

theorem suggestionsFor_stricter (h : stricter.IsStricter params) :
    suggestionsFor config stricter rules kind senderOf entries
      = (suggestionsFor config params rules kind senderOf entries).filter (·.meets stricter) := by
  refine pairwise_suggestionsFor.eq_of_mem_iff (pairwise_suggestionsFor.filter _)
    fun suggestion => ?_
  rw [List.mem_filter, mem_suggestionsFor, mem_suggestionsFor, h.days]
  constructor
  · rintro ⟨evidence, hcollect, hcovered, henough, hsuggestion⟩
    obtain ⟨henough, hmeets⟩ := (Evidence.isEnough_stricter h hsuggestion).mp henough
    exact ⟨⟨evidence, hcollect, hcovered, henough, hsuggestion⟩, hmeets⟩
  · rintro ⟨⟨evidence, hcollect, hcovered, henough, hsuggestion⟩, hmeets⟩
    exact ⟨evidence, hcollect, hcovered,
      (Evidence.isEnough_stricter h hsuggestion).mpr ⟨henough, hmeets⟩, hsuggestion⟩

end

section
variable {log : AuditLog} {mailbox : Mailbox} {config : MiningConfig} {now : Instant}
  {params stricter wider : SuggestionParams} {rules : RuleSet}

/-- **Stricter thresholds select suggestions**, and change nothing in them or in their order. -/
theorem suggestions_report_stricter (choose choose' : SuggestionKind → Nat → Nat)
    (h : stricter.IsStricter params) :
    (MiningOutcome.report (mineLog log mailbox config now stricter rules choose')).suggestions
      = (MiningOutcome.report
          (mineLog log mailbox config now params rules choose)).suggestions.filter
        (·.meets stricter) := by
  cases hlog : log.entriesSince (windowStart now params.days) with
  | error why =>
    rw [report_mineLog_eq_unavailable choose hlog, report_mineLog_eq_unavailable choose'
      (by rw [h.days]; exact hlog)]
    rfl
  | ok entries =>
    rw [report_mineLog_eq choose hlog, report_mineLog_eq choose' (by rw [h.days]; exact hlog)]
    show suggestionsFrom mailbox config stricter rules (windowStart now stricter.days) entries
      = (suggestionsFrom mailbox config params rules (windowStart now params.days) entries).filter _
    rw [suggestionsFrom, suggestionsFrom, List.filter_flatMap, h.days]
    exact List.flatMap_congr fun kind _ => suggestionsFor_stricter h

end

/-! ### More evidence -/

theorem TextSet.size_le_of_subset {s t : TextSet} (h : ∀ x ∈ s, x ∈ t) : s.size ≤ t.size :=
  (List.subperm_of_subset s.nodup_toList h).length_le

section
variable {kind : SuggestionKind} {params wider : SuggestionParams} {rules : RuleSet}
  {email : String} {evidence evidence' : List AuditEntry}

theorem size_actorsOf_le (h : evidence.Subperm evidence') :
    (actorsOf evidence).size ≤ (actorsOf evidence').size := by
  refine TextSet.size_le_of_subset fun actor hactor => ?_
  rw [actorsOf, TextSet.mem_ofList, List.mem_map] at hactor ⊢
  obtain ⟨entry, hentry, rfl⟩ := hactor
  exact ⟨entry, h.subset hentry, rfl⟩

/-- No threshold is higher, and the window is no shorter. -/
structure SuggestionParams.IsWider (wider params : SuggestionParams) : Prop where
  days : params.days ≤ wider.days
  minActions : wider.minActions ≤ params.minActions
  minActors : wider.minActors ≤ params.minActors

/-- What less evidence warrants, more evidence warrants. -/
theorem SuggestionKind.IsWarranted.of_subperm (hwider : wider.IsWider params)
    (h : kind.IsWarranted params rules email evidence) (hmore : evidence.Subperm evidence') :
    kind.IsWarranted wider rules email evidence' where
  nonempty hnil := by
    obtain ⟨entry, hentry⟩ := List.exists_mem_of_ne_nil _ h.nonempty
    have hmem := hmore.subset hentry
    rw [hnil] at hmem
    cases hmem
  enoughActions :=
    Nat.le_trans hwider.minActions (Nat.le_trans h.enoughActions hmore.length_le)
  enoughActors :=
    Nat.le_trans hwider.minActors (Nat.le_trans h.enoughActors (size_actorsOf_le hmore))
  unmatched := h.unmatched
  target hkind := by
    obtain ⟨entry, hentry, htarget⟩ := h.target hkind
    exact ⟨entry, hmore.subset hentry, htarget⟩

end

/-! ### A longer window -/

/-- What the log lists since the later instant, and is not before it, the log also lists since the
earlier one, if it can be read since either. -/
def AuditLog.Remembers (log : AuditLog) (earlier later : Instant) : Prop :=
  ∀ listed listed', log.entriesSince later = .ok listed → log.entriesSince earlier = .ok listed' →
    (listed.filter fun entry => later ≤ entry.timestamp).Subperm listed'

/-- The log in memory lists the same since every instant. -/
theorem MemoryAuditLog.entriesSince_eq (log : MemoryAuditLog) (since since' : Instant) :
    log.toAuditLog.entriesSince since = log.toAuditLog.entriesSince since' := rfl

theorem MemoryAuditLog.remembers (log : MemoryAuditLog) (earlier later : Instant) :
    log.toAuditLog.Remembers earlier later := by
  intro listed listed' hlisted hlisted'
  rw [log.entriesSince_eq later earlier, hlisted'] at hlisted
  cases hlisted
  exact List.filter_sublist.subperm

/-- A suggestion for the same sender with at least as much to speak for it. -/
structure Suggestion.Outweighs (other suggestion : Suggestion) : Prop where
  kind : other.kind = suggestion.kind
  sender : other.sender = suggestion.sender
  evidenceCount : suggestion.evidenceCount ≤ other.evidenceCount
  actorCount : suggestion.actorCount ≤ other.actorCount

/-- Whatever the one report suggests is outweighed in the other. -/
def SuggestionReport.IsOutweighedBy (report other : SuggestionReport) : Prop :=
  ∀ suggestion ∈ report.suggestions, ∃ outweighing ∈ other.suggestions,
    outweighing.Outweighs suggestion

section
variable {log : AuditLog} {mailbox : Mailbox} {config : MiningConfig} {now : Instant}
  {params wider : SuggestionParams} {rules : RuleSet} {entries entries' : List AuditEntry}

/-- Over a longer window there is more evidence for each kind and address. -/
theorem evidenceFor_subperm (mailbox : Mailbox) (config : MiningConfig) {earlier later : Instant}
    (hle : earlier ≤ later)
    (h : (entries.filter fun entry => later ≤ entry.timestamp).Subperm entries')
    (kind : SuggestionKind) (email : String) :
    (evidenceFor mailbox config later entries kind email).Subperm
      (evidenceFor mailbox config earlier entries' kind email) := by
  have hwindow : evidenceFor mailbox config earlier
        (entries.filter fun entry => later ≤ entry.timestamp) kind email
      = evidenceFor mailbox config later entries kind email := by
    rw [evidenceFor, evidenceFor, List.filter_filter]
    refine List.filter_congr fun entry _ => ?_
    by_cases hlater : later ≤ entry.timestamp
    · rw [decide_eq_true hlater, decide_eq_true (Instant.le_trans hle hlater), Bool.and_true]
    · rw [decide_eq_false hlater, Bool.and_false, Bool.false_and]
  rw [← hwindow]
  exact h.filter _

/-- **A longer window loses no suggestion**, where both windows can be listed. -/
theorem exists_outweighing (choose choose' : SuggestionKind → Nat → Nat)
    (hwider : wider.IsWider params)
    (hlog : log.entriesSince (windowStart now params.days) = .ok entries)
    (hlog' : log.entriesSince (windowStart now wider.days) = .ok entries')
    (hmore : (entries.filter fun entry => windowStart now params.days ≤ entry.timestamp).Subperm
      entries') :
    (MiningOutcome.report (mineLog log mailbox config now params rules choose)).IsOutweighedBy
      (MiningOutcome.report (mineLog log mailbox config now wider rules choose')) := by
  intro suggestion hmem
  have hevidence := evidenceFor_subperm mailbox config (windowStart_antitone now hwider.days) hmore
    suggestion.kind suggestion.sender.email
  have hwarranted := ((exists_mem_report_iff choose hlog _ _).mp
    ⟨suggestion, hmem, rfl, rfl⟩).of_subperm hwider hevidence
  obtain ⟨other, hother, hkind, hemail⟩ := (exists_mem_report_iff choose' hlog' _ _).mpr hwarranted
  have hpresents := presents_of_mem_report choose hlog hmem
  have hpresents' := presents_of_mem_report choose' hlog' hother
  rw [hkind, hemail] at hpresents'
  refine ⟨other, hother, hkind, ?_, ?_, ?_⟩
  · have hparse := hpresents'.sender
    rw [hemail, hpresents.sender] at hparse
    exact (Option.some_inj.mp hparse).symm
  · rw [hpresents.evidenceCount, hpresents'.evidenceCount]
    exact hevidence.length_le
  · rw [hpresents.actorCount, hpresents'.actorCount]
    exact size_actorsOf_le hevidence

/-- A log that remembers loses no suggestion over a longer window that it can list. -/
theorem isOutweighedBy_or_unavailable (choose choose' : SuggestionKind → Nat → Nat)
    (hwider : wider.IsWider params)
    (hremembers : log.Remembers (windowStart now wider.days) (windowStart now params.days)) :
    (MiningOutcome.report (mineLog log mailbox config now params rules choose)).IsOutweighedBy
        (MiningOutcome.report (mineLog log mailbox config now wider rules choose'))
      ∨ ∃ why, log.entriesSince (windowStart now wider.days) = .error why
        ∧ MiningOutcome.report (mineLog log mailbox config now wider rules choose')
          = { warnings := [.auditLogUnavailable why] } := by
  cases hlog' : log.entriesSince (windowStart now wider.days) with
  | error why => exact .inr ⟨why, rfl, report_mineLog_eq_unavailable choose' hlog'⟩
  | ok entries' =>
    refine .inl ?_
    cases hlog : log.entriesSince (windowStart now params.days) with
    | error why =>
      rw [report_mineLog_eq_unavailable choose hlog]
      exact fun _ hmem => nomatch hmem
    | ok entries =>
      exact exists_outweighing choose choose' hwider hlog hlog' (hremembers _ _ hlog hlog')

/-- In memory a longer window loses nothing at all: if it cannot be listed, neither can the shorter
one. -/
theorem MemoryAuditLog.isOutweighedBy (log : MemoryAuditLog)
    (choose choose' : SuggestionKind → Nat → Nat) (hwider : wider.IsWider params) :
    (MiningOutcome.report
        (mineLog log.toAuditLog mailbox config now params rules choose)).IsOutweighedBy
      (MiningOutcome.report
        (mineLog log.toAuditLog mailbox config now wider rules choose')) := by
  rcases isOutweighedBy_or_unavailable choose choose' hwider (log.remembers _ _) with
    houtweighed | ⟨why, hwhy, -⟩
  · exact houtweighed
  · rw [log.entriesSince_eq _ (windowStart now params.days)] at hwhy
    rw [report_mineLog_eq_unavailable choose hwhy]
    exact fun _ hmem => nomatch hmem

end

end MailTriage
