import Mathlib.Data.List.Nodup
import MailTriage.Proofs.Suggestion.Alike

/-! # What the id of a suggestion tells

The id of a suggestion is cut off the hash of its identity, a text with the kind, the address and
the domain of the sender and a colon between them.  Addresses may have colons in them, so such texts
do not tell all triples apart; but they tell senders apart (`identityText_inj`).  The kind ends at
the first colon, as no kind has one in its name.  After the last `@` of the rest, which is that of
the address, comes the domain twice with a colon between, and so its length is known.

What is left is the hash.  Two suggestions, of one report or of two, have one id exactly if they are
of one kind for one sender, or the digits that are kept of the hashes of their identities agree
(`suggestionId_identifies`).
-/
namespace MailTriage

/-! ### Identities -/

theorem SuggestionKind.colon_not_mem_name (kind : SuggestionKind) : ':' ∉ kind.name.toList := by
  cases kind <;> decide

theorem SuggestionKind.name_inj {kind kind' : SuggestionKind} (h : kind.name = kind'.name) :
    kind = kind' := by
  cases kind <;> cases kind' <;> first | rfl | exact absurd h (by decide)

theorem toList_identityText (kind : SuggestionKind) (email domain : String) :
    (identityText kind email domain).toList
      = kind.name.toList ++ ':' :: (email.toList ++ ':' :: domain.toList) := by
  simp [identityText, String.toList_append]

/-- A text without a separator ends where the first separator comes. -/
theorem takeWhile_append_separator {c : Char} {front : List Char} (h : c ∉ front)
    (back : List Char) : (front ++ c :: back).takeWhile (· ≠ c) = front := by
  have hfront : ∀ d ∈ front, decide (d ≠ c) = true :=
    fun d hd => decide_eq_true fun heq => h (heq ▸ hd)
  rw [List.takeWhile_append_of_pos hfront, List.takeWhile_cons_of_neg (by simp), List.append_nil]

/-- A text that is written twice, with a separator between, can be read off. -/
theorem append_cons_self_inj {c : Char} {cs cs' : List Char} (h : cs ++ c :: cs = cs' ++ c :: cs') :
    cs = cs' := by
  have hlength := congrArg List.length h
  rw [List.length_append, List.length_cons, List.length_append, List.length_cons] at hlength
  exact (List.append_inj h (by omega)).1

/-- **Identities tell kinds and senders apart.** -/
theorem identityText_inj {kind kind' : SuggestionKind} {s s' : Sender}
    (hdomain : extractDomain s.email = some s.domain)
    (hdomain' : extractDomain s'.email = some s'.domain) :
    identityText kind s.email s.domain = identityText kind' s'.email s'.domain
      ↔ kind = kind' ∧ s = s' := by
  refine ⟨fun h => ?_, fun ⟨hkind, hsender⟩ => by rw [hkind, hsender]⟩
  rw [← String.toList_inj, toList_identityText, toList_identityText] at h
  have hname := congrArg (List.takeWhile (· ≠ ':')) h
  rw [takeWhile_append_separator kind.colon_not_mem_name,
    takeWhile_append_separator kind'.colon_not_mem_name] at hname
  have hkind := SuggestionKind.name_inj (String.toList_inj.mp hname)
  refine ⟨hkind, ?_⟩
  rw [hkind, List.append_cancel_left_eq, List.cons_inj_right] at h
  obtain ⟨-, hat, front, hemail⟩ := extractDomain_eq_some_iff.mp hdomain
  obtain ⟨-, hat', front', hemail'⟩ := extractDomain_eq_some_iff.mp hdomain'
  -- the last `@` of either text is that of the address
  have hcut := congrArg (Text.cutLast '@') h
  rw [hemail, hemail', List.append_assoc, List.append_assoc, List.cons_append, List.cons_append,
    Text.cutLast_append front (by simp [hat]), Text.cutLast_append front' (by simp [hat'])] at hcut
  obtain ⟨hfront, htwice⟩ := Prod.mk.inj (Option.some_inj.mp hcut)
  have hsame := append_cons_self_inj htwice
  obtain ⟨email, domain⟩ := s
  obtain ⟨email', domain'⟩ := s'
  rw [Sender.mk.injEq, ← String.toList_inj, ← String.toList_inj, hemail, hemail', hfront, hsame]
  exact ⟨rfl, rfl⟩

/-- Texts that are no address and its domain may be mixed up. -/
example : identityText .autoMute "a" "b:c" = identityText .autoMute "a:b" "c" := by decide

/-! ### Ids -/

/-- What an id keeps of the hash of a text. -/
def idDigits (text : String) : List Char := (Sha256.hexDigest text).take 16

/-- Two texts differ, and an id does not tell them apart. -/
def Collide (text text' : String) : Prop := text ≠ text' ∧ idDigits text = idDigits text'

theorem suggestionId_inj {kind kind' : SuggestionKind} {email email' domain domain' : String} :
    suggestionId kind email domain = suggestionId kind' email' domain'
      ↔ idDigits (identityText kind email domain)
        = idDigits (identityText kind' email' domain') := by
  rw [← String.toList_inj, suggestionId, suggestionId, String.toList_append, String.toList_append,
    List.append_cancel_left_eq, String.toList_ofList, String.toList_ofList, idDigits, idDigits]

namespace Suggestion

/-- The text that the id of a suggestion is made from. -/
def identity (suggestion : Suggestion) : String :=
  identityText suggestion.kind suggestion.sender.email suggestion.sender.domain

/-- The id of a suggestion is that of its kind and of a sender that was read off a text. -/
structure IsIdentified (suggestion : Suggestion) : Prop where
  id : suggestion.id
    = suggestionId suggestion.kind suggestion.sender.email suggestion.sender.domain
  sender : Sender.parse? suggestion.sender.email = some suggestion.sender

variable {a b : Suggestion}

theorem IsIdentified.identity_eq_iff (ha : a.IsIdentified) (hb : b.IsIdentified) :
    a.identity = b.identity ↔ a.kind = b.kind ∧ a.sender = b.sender :=
  identityText_inj (Sender.extractDomain_email ha.sender) (Sender.extractDomain_email hb.sender)

/-- Suggestions have one id if they are of one kind for one sender, or else by a collision. -/
theorem IsIdentified.id_eq_iff (ha : a.IsIdentified) (hb : b.IsIdentified) :
    a.id = b.id ↔ (a.kind = b.kind ∧ a.sender = b.sender) ∨ Collide a.identity b.identity := by
  rw [ha.id, hb.id, suggestionId_inj, ← ha.identity_eq_iff hb]
  show idDigits a.identity = idDigits b.identity ↔ _
  constructor
  · intro hdigits
    by_cases hsame : a.identity = b.identity
    · exact .inl hsame
    · exact .inr ⟨hsame, hdigits⟩
  · rintro (hsame | ⟨-, hdigits⟩)
    · rw [hsame]
    · exact hdigits

end Suggestion

/-! ### Reports -/

section
variable {mailbox : Mailbox} {config : MiningConfig} {params : SuggestionParams} {rules : RuleSet}
  {since : Instant} {entries : List AuditEntry}

theorem isIdentified_of_mem_suggestionsFrom {suggestion : Suggestion}
    (h : suggestion ∈ suggestionsFrom mailbox config params rules since entries) :
    suggestion.IsIdentified where
  id := by
    obtain ⟨evidence, -, -, -, hsuggestion⟩ := mem_suggestionsFor.mp (mem_suggestionsFrom.mp h)
    obtain ⟨⟨reason, proposal⟩, -, heq⟩ := Option.map_eq_some_iff.mp hsuggestion
    rw [← heq]
  sender := (presents_of_mem_suggestionsFrom h).sender

/-- No address has two suggestions of one kind. -/
theorem pairwise_suggestionsFrom :
    (suggestionsFrom mailbox config params rules since entries).Pairwise
      fun a b => ¬ (a.kind = b.kind ∧ a.sender = b.sender) := by
  refine List.pairwise_flatMap.mpr ⟨fun kind _ => ?_, ?_⟩
  · exact pairwise_email_suggestionsFor.imp fun hemail hsame =>
      hemail (congrArg Sender.email hsame.2)
  · refine SuggestionKind.pairwise_all.imp fun hrank a ha b hb hsame => ?_
    rw [← kind_of_mem_suggestionsFor ha, ← kind_of_mem_suggestionsFor hb, hsame.1] at hrank
    exact Nat.lt_irrefl _ hrank

end

/-- The report is what mining some audit log comes to. -/
def SuggestionReport.IsMined (report : SuggestionReport) : Prop :=
  ∃ log mailbox config now params rules choose,
    report = MiningOutcome.report (mineLog log mailbox config now params rules choose)

namespace SuggestionReport.IsMined

variable {report : SuggestionReport}

theorem isIdentified (h : report.IsMined) {suggestion : Suggestion}
    (hmem : suggestion ∈ report.suggestions) : suggestion.IsIdentified := by
  obtain ⟨log, mailbox, config, now, params, rules, choose, rfl⟩ := h
  obtain ⟨entries, -, hmem⟩ := mem_suggestions_report choose hmem
  exact isIdentified_of_mem_suggestionsFrom hmem

theorem pairwise (h : report.IsMined) :
    report.suggestions.Pairwise fun a b => ¬ (a.kind = b.kind ∧ a.sender = b.sender) := by
  obtain ⟨log, mailbox, config, now, params, rules, choose, rfl⟩ := h
  cases hlog : log.entriesSince (windowStart now params.days) with
  | error why =>
    rw [report_mineLog_eq_unavailable choose hlog]
    exact .nil
  | ok entries =>
    rw [report_mineLog_eq choose hlog]
    exact pairwise_suggestionsFrom

/-- The ids of a report are all different exactly if none of its identities collide. -/
theorem nodup_ids_iff (h : report.IsMined) : (report.suggestions.map (·.id)).Nodup
    ↔ ∀ a ∈ report.suggestions, ∀ b ∈ report.suggestions, ¬ Collide a.identity b.identity := by
  constructor
  · intro hids a ha b hb hcollide
    have hid : a.id = b.id :=
      ((h.isIdentified ha).id_eq_iff (h.isIdentified hb)).mpr (.inr hcollide)
    exact hcollide.1 (congrArg Suggestion.identity (List.inj_on_of_nodup_map hids ha hb hid))
  · intro hfree
    rw [List.Nodup, List.pairwise_map]
    refine h.pairwise.imp_of_mem fun {a b} ha hb hdistinct hid => ?_
    rcases ((h.isIdentified ha).id_eq_iff (h.isIdentified hb)).mp hid with hsame | hcollide
    · exact hdistinct hsame
    · exact hfree a ha b hb hcollide

end SuggestionReport.IsMined

/-- **Ids identify suggestions.**  What is hashed tells kinds and senders apart.  So the ids of a
report are all different unless two of its identities collide; and in whichever reports they come,
suggestions have one id if they are of one kind for one sender, and otherwise only by a
collision. -/
theorem suggestionId_identifies :
    (∀ (kind kind' : SuggestionKind) (text text' : String) (s s' : Sender),
      Sender.parse? text = some s → Sender.parse? text' = some s' →
      identityText kind s.email s.domain = identityText kind' s'.email s'.domain →
      kind = kind' ∧ s = s')
    ∧ (∀ report : SuggestionReport, report.IsMined →
      ((report.suggestions.map (·.id)).Nodup
        ↔ ∀ a ∈ report.suggestions, ∀ b ∈ report.suggestions, ¬ Collide a.identity b.identity))
    ∧ ∀ report report' : SuggestionReport, report.IsMined → report'.IsMined →
      ∀ a ∈ report.suggestions, ∀ b ∈ report'.suggestions,
        (a.id = b.id
          ↔ (a.kind = b.kind ∧ a.sender = b.sender) ∨ Collide a.identity b.identity) := by
  refine ⟨fun kind kind' text text' s s' hs hs' h => ?_, fun report hreport => ?_,
    fun report report' hreport hreport' a ha b hb => ?_⟩
  · exact (identityText_inj (Sender.extractDomain_email hs) (Sender.extractDomain_email hs')).mp h
  · exact hreport.nodup_ids_iff
  · exact (hreport.isIdentified ha).id_eq_iff (hreport'.isIdentified hb)

/-- However its address is written, the newsletter is one sender, and muting it is suggested under
one id: by the report on one entry and two weeks as by the one on two entries and a month. -/
theorem suggestionId_identifies_muted :
    let first := MiningOutcome.report (mineLog
      { entriesSince := fun _ => .ok [mutedBy "ann@desk.io" "1"] } (newsMailbox []) {} .epoch
      { days := 14, minActions := 1, minActors := 1 } {} fun _ _ => 0)
    let second := MiningOutcome.report (mineLog
      { entriesSince := fun _ => .ok [mutedBy "ann@desk.io" "1", mutedBy "bob@desk.io" "2"] }
      (newsMailbox []) { muteLabel := "Quiet" } .epoch
      { days := 30, minActions := 2, minActors := 2 } {} fun _ _ => 1)
    (∃ s s', Sender.parse? "News <news@shop.io>" = some s
      ∧ Sender.parse? " NEWS@shop.io" = some s' ∧ s = s')
    ∧ ∃ a ∈ first.suggestions, ∃ b ∈ second.suggestions, a.kind = .autoMute ∧ a.id = b.id := by
  intro first second
  have hwarranted : SuggestionKind.autoMute.IsWarranted
      { days := 30, minActions := 2, minActors := 2 } {} "news@shop.io"
      (evidenceFor (newsMailbox []) { muteLabel := "Quiet" } (windowStart .epoch 30)
        [mutedBy "ann@desk.io" "1", mutedBy "bob@desk.io" "2"] .autoMute "news@shop.io") :=
    { nonempty := by decide
      enoughActions := by decide
      enoughActors := by decide
      unmatched := fun _ _ ⟨_, hmem, _⟩ => nomatch hmem
      target := fun h => absurd rfl h }
  have hfirst : first.IsMined := ⟨_, _, _, _, _, _, _, rfl⟩
  have hsecond : second.IsMined := ⟨_, _, _, _, _, _, _, rfl⟩
  obtain ⟨a, ha, hkind, hemail⟩ : ∃ a ∈ first.suggestions, a.kind = .autoMute
      ∧ a.sender.email = "news@shop.io" := (exists_mem_report_iff _ rfl _ _).mpr isWarranted_muted
  obtain ⟨b, hb, hkind', hemail'⟩ : ∃ b ∈ second.suggestions, b.kind = .autoMute
      ∧ b.sender.email = "news@shop.io" := (exists_mem_report_iff _ rfl _ _).mpr hwarranted
  have hsender : a.sender = b.sender := Sender.eq_of_email (hfirst.isIdentified ha).sender
    (hsecond.isIdentified hb).sender (hemail.trans hemail'.symm)
  have hid := (suggestionId_identifies.2.2 first second hfirst hsecond a ha b hb).mpr
    (.inl ⟨hkind.trans hkind'.symm, hsender⟩)
  have hparse : Sender.parse? "News <news@shop.io>" = some ⟨"news@shop.io", "shop.io"⟩ := by decide
  have hparse' : Sender.parse? " NEWS@shop.io" = some ⟨"news@shop.io", "shop.io"⟩ := by decide
  exact ⟨⟨_, _, hparse, hparse',
      (suggestionId_identifies.1 .autoMute .autoMute _ _ _ _ hparse hparse' rfl).2⟩,
    a, ha, b, hb, hkind, hid⟩

end MailTriage
