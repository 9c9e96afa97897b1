import Mathlib.Logic.Relation
import MailTriage.Proofs.Suggestion.Report

/-! # Concurrent lookups

The senders of all messages of a kind of suggestion are looked up a bounded number at a time: a
lookup starts while there is room, and any lookup in flight may be the next one to complete
(`LookupQueue.Step`).  The kinds are mined at once, so a step of mining is a step of any of them
(`LookupQueue.StepAny`).  The orders in which the lookups of one kind can complete are exactly those
that `completionOrder` gives for some choices (`LookupQueue.run_iff`).

None of this shows in the report: it is made from the answers and not from their order
(`report_mineLog_eq`).  What the mailbox can see is that it is asked for each message once for each
kind that needs it (`mineLog_concurrency_invisible`).
-/
namespace MailTriage

/-! ### Lookups under way -/

/-- The lookups of one kind of suggestion while they are under way. -/
structure LookupQueue where
  /-- The messages whose lookups have not started. -/
  waiting : List String
  inFlight : List String
  /-- The messages whose lookups have completed, in the order in which they did. -/
  completed : List String

namespace LookupQueue

/-- The queue before the first lookup. -/
def fresh (messageIds : List String) : LookupQueue := ⟨messageIds, [], []⟩

/-- The queue after the last lookup. -/
def finished (order : List String) : LookupQueue := ⟨[], [], order⟩

/-- What can happen next.  At most as many lookups are in flight as the limit says, but one always
may be. -/
inductive Step (limit : Nat) : LookupQueue → LookupQueue → Prop
  | start {messageId : String} {waiting inFlight completed : List String}
    (room : inFlight.length < max limit 1) :
    Step limit ⟨messageId :: waiting, inFlight, completed⟩
      ⟨waiting, inFlight ++ [messageId], completed⟩
  | complete {messageId : String} {waiting front back completed : List String} :
    Step limit ⟨waiting, front ++ messageId :: back, completed⟩
      ⟨waiting, front ++ back, completed ++ [messageId]⟩

/-- The lookups of some messages may complete in this order. -/
def Run (limit : Nat) (messageIds order : List String) : Prop :=
  Relation.ReflTransGen (Step limit) (fresh messageIds) (finished order)

/-- What can happen next where several kinds of suggestions are mined at once. -/
def StepAny (limit : Nat) (queues queues' : SuggestionKind → LookupQueue) : Prop :=
  ∃ kind, Step limit (queues kind) (queues' kind) ∧ ∀ other, other ≠ kind →
    queues' other = queues other

end LookupQueue

/-! ### Choices of the next lookup to complete -/

section
variable {α : Type} {limit : Nat} {choose choose' : Nat → Nat}

theorem completionOrder_nil : completionOrder limit choose ([] : List α) = [] := by
  rw [completionOrder]
  split
  · rfl
  · next h => cases h

/-- One of the lookups in flight completes, and the others are left. -/
theorem completionOrder_eq_cons {pending : List α} {i : Nat} (hlt : i < pending.length)
    (hi : choose pending.length % min (max limit 1) pending.length = i) :
    completionOrder limit choose pending
      = pending[i] :: completionOrder limit choose (pending.eraseIdx i) := by
  rw [completionOrder]
  split
  · next hnone => rw [hi, List.getElem?_eq_getElem hlt] at hnone; cases hnone
  · next done hsome =>
    rw [hi, List.getElem?_eq_getElem hlt] at hsome
    rw [hi, Option.some_inj.mp hsome]

/-- A choice always falls on a lookup in flight. -/
theorem choice_lt (limit : Nat) (choose : Nat → Nat) {pending : List α} (hne : pending ≠ []) :
    choose pending.length % min (max limit 1) pending.length < min (max limit 1) pending.length := by
  have hlength := List.length_pos_of_ne_nil hne
  exact Nat.mod_lt _ (by omega)

/-- The order depends on the choices that are made while lookups are left. -/
theorem completionOrder_congr (pending : List α)
    (h : ∀ n, n ≤ pending.length → choose n = choose' n) :
    completionOrder limit choose pending = completionOrder limit choose' pending := by
  by_cases hne : pending = []
  · rw [hne, completionOrder_nil, completionOrder_nil]
  · have hlt := choice_lt limit choose hne
    have hlength : choose pending.length % min (max limit 1) pending.length < pending.length := by
      omega
    rw [completionOrder_eq_cons hlength rfl,
      completionOrder_eq_cons hlength (by rw [h _ (Nat.le_refl _)])]
    refine congrArg _ (completionOrder_congr _ fun n hn => h n ?_)
    rw [List.length_eraseIdx_of_lt hlength] at hn
    omega
termination_by pending.length
decreasing_by
  rw [List.length_eraseIdx_of_lt hlength]
  omega

/-- Any lookup in flight can be chosen to complete next, whatever is chosen later. -/
theorem exists_completionOrder_eq_cons {front : List α} (hroom : front.length < max limit 1)
    (a : α) (back : List α) (choose : Nat → Nat) :
    ∃ choose', completionOrder limit choose' (front ++ a :: back)
      = a :: completionOrder limit choose (front ++ back) := by
  have hlength : front.length < (front ++ a :: back).length := by simp
  refine ⟨fun n => if n = (front ++ a :: back).length then front.length else choose n, ?_⟩
  rw [completionOrder_eq_cons hlength (by rw [if_pos rfl]; exact Nat.mod_eq_of_lt (by omega))]
  have herase : (front ++ a :: back).eraseIdx front.length = front ++ back := by
    simp [List.eraseIdx_append_of_length_le]
  rw [herase, List.getElem_append_right (Nat.le_refl _)]
  refine congr (congrArg List.cons (by simp)) (completionOrder_congr _ fun n hn => if_neg ?_)
  rw [List.length_append] at hn ⊢
  rw [List.length_cons]
  omega

end

/-! ### Orders of completion -/

namespace LookupQueue

variable {limit : Nat} {messageIds order : List String} {queue : LookupQueue}

/-- **Every way to the end is a sequence of choices** among the lookups in flight. -/
theorem exists_completionOrder_of_run
    (h : Relation.ReflTransGen (Step limit) queue (finished order)) :
    queue.inFlight.length ≤ max limit 1 →
      ∃ choose, order
        = queue.completed ++ completionOrder limit choose (queue.inFlight ++ queue.waiting) := by
  induction h using Relation.ReflTransGen.head_induction_on with
  | refl =>
    intro _
    refine ⟨fun _ => 0, ?_⟩
    show order = order ++ completionOrder limit _ []
    rw [completionOrder_nil, List.append_nil]
  | head hstep _ ih =>
    cases hstep with
    | @start messageId waiting inFlight completed room =>
      intro _
      have hstarted : (inFlight ++ [messageId]).length ≤ max limit 1 := by
        rw [List.length_append]
        exact room
      obtain ⟨choose, horder⟩ := ih hstarted
      exact ⟨choose, by rw [horder, List.append_assoc, List.singleton_append]⟩
    | @complete messageId waiting front back completed =>
      intro hroom
      have hroom : front.length + (back.length + 1) ≤ max limit 1 := by
        rwa [List.length_append, List.length_cons] at hroom
      have hcompleted : (front ++ back).length ≤ max limit 1 := by
        rw [List.length_append]
        omega
      obtain ⟨choose, horder⟩ := ih hcompleted
      obtain ⟨choose', hchosen⟩ :=
        exists_completionOrder_eq_cons (show front.length < max limit 1 by omega) messageId
          (back ++ waiting) choose
      refine ⟨choose', ?_⟩
      show order = completed
        ++ completionOrder limit choose' (front ++ messageId :: back ++ waiting)
      rw [List.append_assoc front, List.cons_append, hchosen, horder, List.append_assoc completed,
        List.append_assoc front]
      rfl

/-- Lookups start until there is no room. -/
theorem starts (limit : Nat) (waiting inFlight completed : List String)
    (hroom : inFlight.length ≤ max limit 1) :
    Relation.ReflTransGen (Step limit) ⟨waiting, inFlight, completed⟩
      ⟨(inFlight ++ waiting).drop (max limit 1), (inFlight ++ waiting).take (max limit 1),
        completed⟩ := by
  induction waiting generalizing inFlight with
  | nil => rw [List.append_nil, List.drop_of_length_le hroom, List.take_of_length_le hroom]
  | cons messageId waiting ih =>
    by_cases hlt : inFlight.length < max limit 1
    · have hstarted : (inFlight ++ [messageId]).length ≤ max limit 1 := by
        rw [List.length_append]
        exact hlt
      have hrest := ih (inFlight ++ [messageId]) hstarted
      rw [List.append_assoc, List.singleton_append] at hrest
      exact .head (.start hlt) hrest
    · have hfull : inFlight.length = max limit 1 := by omega
      rw [List.drop_left' hfull, List.take_left' hfull]

theorem Step.complete_at {waiting inFlight completed : List String} {i : Nat}
    (h : i < inFlight.length) :
    Step limit ⟨waiting, inFlight, completed⟩
      ⟨waiting, inFlight.eraseIdx i, completed ++ [inFlight[i]]⟩ := by
  have hsplit : inFlight = inFlight.take i ++ inFlight[i] :: inFlight.drop (i + 1) := by
    rw [← List.drop_eq_getElem_cons h, List.take_append_drop]
  have hstep : Step limit
      ⟨waiting, inFlight.take i ++ inFlight[i] :: inFlight.drop (i + 1), completed⟩
      ⟨waiting, inFlight.take i ++ inFlight.drop (i + 1), completed ++ [inFlight[i]]⟩ := .complete
  rwa [← hsplit, ← List.eraseIdx_eq_take_drop_succ] at hstep

/-- **Every sequence of choices is a way to the end.** -/
theorem run_completionOrder (limit : Nat) (choose : Nat → Nat) (pending completed : List String) :
    Relation.ReflTransGen (Step limit)
      ⟨pending.drop (max limit 1), pending.take (max limit 1), completed⟩
      (finished (completed ++ completionOrder limit choose pending)) := by
  by_cases hne : pending = []
  · rw [hne, completionOrder_nil, List.append_nil, List.drop_nil, List.take_nil]
    exact .refl
  · obtain ⟨i, hi⟩ : ∃ i, choose pending.length % min (max limit 1) pending.length = i := ⟨_, rfl⟩
    have hlt := choice_lt limit choose hne
    rw [hi] at hlt
    have hlength : i < pending.length := by omega
    have hroom : i < (pending.take (max limit 1)).length := by rwa [List.length_take]
    -- the chosen lookup completes, and then those start that find room
    have hcomplete : Step limit ⟨pending.drop (max limit 1), pending.take (max limit 1), completed⟩
        ⟨pending.drop (max limit 1), (pending.take (max limit 1)).eraseIdx i,
          completed ++ [pending[i]]⟩ := by
      have hchosen : (pending.take (max limit 1))[i] = pending[i] := List.getElem_take
      rw [← hchosen]
      exact .complete_at hroom
    have hstarts := starts limit (pending.drop (max limit 1))
      ((pending.take (max limit 1)).eraseIdx i) (completed ++ [pending[i]])
      (by rw [List.length_eraseIdx_of_lt hroom, List.length_take]; omega)
    rw [← List.eraseIdx_append_of_lt_length hroom, List.take_append_drop] at hstarts
    have hrest := run_completionOrder limit choose (pending.eraseIdx i) (completed ++ [pending[i]])
    rw [completionOrder_eq_cons hlength hi]
    rw [List.append_assoc, List.singleton_append] at hrest
    exact .head hcomplete (hstarts.trans hrest)
termination_by pending.length
decreasing_by
  rw [List.length_eraseIdx_of_lt hlength]
  omega

/-- **The orders in which lookups can complete** are those that choices among the lookups in flight
lead to. -/
theorem run_iff :
    Run limit messageIds order ↔ ∃ choose, order = completionOrder limit choose messageIds := by
  constructor
  · intro hrun
    obtain ⟨choose, horder⟩ := exists_completionOrder_of_run hrun (Nat.zero_le _)
    exact ⟨choose, horder⟩
  · rintro ⟨choose, rfl⟩
    have hstarts := starts limit messageIds [] [] (Nat.zero_le _)
    exact hstarts.trans (run_completionOrder limit choose _ [])

/-- Whatever happens to the kinds of suggestions together, each of them has a run of its own. -/
theorem run_of_stepAny {queues queues' : SuggestionKind → LookupQueue}
    (h : Relation.ReflTransGen (StepAny limit) queues queues') (kind : SuggestionKind) :
    Relation.ReflTransGen (Step limit) (queues kind) (queues' kind) := by
  induction h with
  | refl => exact .refl
  | tail _ hstep ih =>
    obtain ⟨moved, hmoved, hothers⟩ := hstep
    by_cases hkind : kind = moved
    · subst hkind
      exact ih.tail hmoved
    · rw [hothers kind hkind]
      exact ih

end LookupQueue

/-! ### Mining with concurrent lookups -/

/-- The messages whose senders were asked for, in the order in which the answers came. -/
def MinedKind.asked (mined : MinedKind) : List String := mined.lookups.map (·.messageId)

/-- Mining for a kind of suggestion asks for each message that it needs, and once. -/
structure MinedKind.AsksOnce (mined : MinedKind) (config : MiningConfig) (since : Instant)
    (entries : List AuditEntry) : Prop where
  nodup : mined.asked.Nodup
  /-- The messages are those of the entries in the window that record a fitting action. -/
  mem_asked_iff : ∀ messageId, messageId ∈ mined.asked ↔ ∃ entry ∈ entries,
    since ≤ entry.timestamp ∧ entry.action ∈ mined.kind.actions config
      ∧ entry.messageId = messageId
  no_entries : (∀ entry ∈ entries, since ≤ entry.timestamp →
    entry.action ∉ mined.kind.actions config) → mined.lookups = []
  /-- Labels that are not mined need no senders. -/
  labels_off : mined.kind = .autoLabel → config.mineLabelApplications = false → mined.lookups = []

section
variable {log : AuditLog} {mailbox : Mailbox} {config : MiningConfig} {now : Instant}
  {params : SuggestionParams} {rules : RuleSet} {entries : List AuditEntry}

theorem asked_mineKind (mailbox : Mailbox) (config : MiningConfig) (params : SuggestionParams)
    (rules : RuleSet) (entries : List AuditEntry) (since : Instant) (choose : Nat → Nat)
    (kind : SuggestionKind) :
    (mineKind mailbox config params rules (entries.filter fun entry => since ≤ entry.timestamp)
        choose kind).asked
      = completionOrder config.lookupConcurrency choose
        (messagesOf (minedEntries config since entries kind)).toList := by
  rw [MinedKind.asked, mineKind, SenderLookup.all, List.map_map]
  exact List.map_id _

theorem asksOnce_mineKind (since : Instant) (choose : Nat → Nat) (kind : SuggestionKind) :
    (mineKind mailbox config params rules (entries.filter fun entry => since ≤ entry.timestamp)
      choose kind).AsksOnce config since entries := by
  have hasked := asked_mineKind mailbox config params rules entries since choose kind
  have hkind : (mineKind mailbox config params rules
    (entries.filter fun entry => since ≤ entry.timestamp) choose kind).kind = kind := rfl
  generalize mineKind mailbox config params rules
    (entries.filter fun entry => since ≤ entry.timestamp) choose kind = mined at hasked hkind ⊢
  subst hkind
  have hperm : mined.asked.Perm
      (messagesOf (minedEntries config since entries mined.kind)).toList := by
    rw [hasked]
    exact completionOrder_perm _ _ _
  have hmem : ∀ messageId, messageId ∈ mined.asked ↔ ∃ entry ∈ entries, since ≤ entry.timestamp
      ∧ entry.action ∈ mined.kind.actions config ∧ entry.messageId = messageId := by
    intro messageId
    rw [hperm.mem_iff, ← TextSet.mem_def, mem_messagesOf]
    simp only [mem_minedEntries, and_assoc]
  have hnone : (∀ entry ∈ entries, since ≤ entry.timestamp →
      entry.action ∉ mined.kind.actions config) → mined.lookups = [] := by
    intro hentries
    have hasked : mined.asked = [] := by
      refine List.eq_nil_iff_forall_not_mem.mpr fun messageId hmessage => ?_
      obtain ⟨entry, hentry, hsince, haction, -⟩ := (hmem messageId).mp hmessage
      exact hentries entry hentry hsince haction
    exact List.map_eq_nil_iff.mp hasked
  refine ⟨hperm.nodup_iff.mpr (TextSet.nodup_toList _), hmem, hnone, fun hlabel hoff => ?_⟩
  refine hnone fun entry _ _ haction => ?_
  rw [hlabel, SuggestionKind.actions, hoff] at haction
  exact List.not_mem_nil haction

/-- How many lookups may be in flight does not show in the report. -/
theorem report_mineLog_lookupConcurrency (limit limit' : Nat)
    (choose choose' : SuggestionKind → Nat → Nat) :
    MiningOutcome.report (mineLog log mailbox { config with lookupConcurrency := limit } now params
        rules choose)
      = MiningOutcome.report (mineLog log mailbox { config with lookupConcurrency := limit' } now
        params rules choose') := by
  cases hlog : log.entriesSince (windowStart now params.days) with
  | error why =>
    rw [report_mineLog_eq_unavailable choose hlog, report_mineLog_eq_unavailable choose' hlog]
  | ok entries =>
    rw [report_mineLog_eq choose hlog, report_mineLog_eq choose' hlog]
    rfl

/-- **Concurrent lookups are invisible.**  The report is the same for every limit on the lookups in
flight and every order in which they complete.  Mining asks for each message once for each kind that
needs it; and every order in which the lookups of all kinds can complete together is one for which
this holds. -/
theorem mineLog_concurrency_invisible (log : AuditLog) (mailbox : Mailbox) (config : MiningConfig)
    (now : Instant) (params : SuggestionParams) (rules : RuleSet) :
    (∀ limit limit' choose choose',
      MiningOutcome.report (mineLog log mailbox { config with lookupConcurrency := limit } now
          params rules choose)
        = MiningOutcome.report (mineLog log mailbox { config with lookupConcurrency := limit' } now
          params rules choose'))
    ∧ ∀ entries, log.entriesSince (windowStart now params.days) = .ok entries →
      (∀ choose, ∃ mined, mineLog log mailbox config now params rules choose = .ok mined
        ∧ mined.map (·.kind) = SuggestionKind.all
        ∧ ∀ m ∈ mined, m.AsksOnce config (windowStart now params.days) entries)
      ∧ ∀ orders : SuggestionKind → List String,
        Relation.ReflTransGen (LookupQueue.StepAny config.lookupConcurrency)
          (fun kind => .fresh
            (messagesOf (minedEntries config (windowStart now params.days) entries kind)).toList)
          (fun kind => .finished (orders kind)) →
        ∃ choose mined, mineLog log mailbox config now params rules choose = .ok mined
          ∧ ∀ m ∈ mined, m.lookups = SenderLookup.all mailbox (orders m.kind) := by
  refine ⟨report_mineLog_lookupConcurrency, fun entries hlog => ⟨fun choose => ?_,
    fun orders hrun => ?_⟩⟩
  · refine ⟨_, mineLog_eq_ok choose hlog, ?_, fun m hm => ?_⟩
    · rw [List.map_map]
      exact List.map_id _
    · obtain ⟨kind, -, rfl⟩ := List.mem_map.mp hm
      exact asksOnce_mineKind _ _ kind
  · -- each kind has a run of its own, and so has choices of its own
    have hchoose : ∀ kind, ∃ choose, orders kind = completionOrder config.lookupConcurrency choose
        (messagesOf (minedEntries config (windowStart now params.days) entries kind)).toList :=
      fun kind => LookupQueue.run_iff.mp (LookupQueue.run_of_stepAny hrun kind)
    choose choose hchoose using hchoose
    refine ⟨choose, _, mineLog_eq_ok choose hlog, fun m hm => ?_⟩
    obtain ⟨kind, -, rfl⟩ := List.mem_map.mp hm
    exact congrArg (SenderLookup.all mailbox) (hchoose kind).symm

end

/-- Two people mute two messages, and the second lookup overtakes the first. -/
theorem mineLog_concurrency_invisible_overtaken :
    ∃ choose mined, mineLog
        { entriesSince := fun _ => .ok [mutedBy "ann@desk.io" "1", mutedBy "bob@desk.io" "2"] }
        (newsMailbox []) {} .epoch { days := 14, minActions := 2, minActors := 2 } {} choose
        = .ok mined
      ∧ ∀ m ∈ mined, m.lookups = SenderLookup.all (newsMailbox [])
        (if m.kind = .autoMute then ["2", "1"] else []) := by
  refine ((mineLog_concurrency_invisible _ _ _ _ _ _).2 _ rfl).2
    (fun kind => if kind = .autoMute then ["2", "1"] else []) ?_
  have hfresh : ∀ kind, (messagesOf (minedEntries {} (windowStart .epoch 14)
      [mutedBy "ann@desk.io" "1", mutedBy "bob@desk.io" "2"] kind)).toList
      = if kind = .autoMute then ["1", "2"] else [] := by
    intro kind
    cases kind <;> decide
  have hmute : ∀ {queue queue' : LookupQueue}, LookupQueue.Step 8 queue queue' →
      LookupQueue.StepAny 8 (fun kind => if kind = .autoMute then queue else .fresh [])
        fun kind => if kind = .autoMute then queue' else .fresh [] :=
    fun h => ⟨.autoMute, by simpa using h, fun other hother => by simp [hother]⟩
  have hstart₁ : LookupQueue.Step 8 (.fresh ["1", "2"]) ⟨["2"], ["1"], []⟩ := .start (by decide)
  have hstart₂ : LookupQueue.Step 8 ⟨["2"], ["1"], []⟩ ⟨[], ["1", "2"], []⟩ := .start (by decide)
  have hsecond : LookupQueue.Step 8 ⟨[], ["1"] ++ ["2"], []⟩ ⟨[], ["1"], ["2"]⟩ := .complete
  have hfirst : LookupQueue.Step 8 ⟨[], [] ++ ["1"], ["2"]⟩ (.finished ["2", "1"]) := .complete
  have hrun := (Relation.ReflTransGen.single (hmute hstart₁)).tail (hmute hstart₂) |>.tail
    (hmute hsecond) |>.tail (hmute hfirst)
  convert hrun using 2 with kind kind
  · rw [hfresh]
    split <;> rfl
  · split <;> rfl

end MailTriage
