import Mathlib.Data.List.Basic
import MailTriage.Proofs.Address
import MailTriage.Suggestion.Mining

/-! # What the evidence comes to

The evidence for suggestions is collected in three steps: senders are looked up, entries are grouped
by the address of the sender, and a target is chosen for each group.  None of the steps depends on
how it is carried out.  A lookup gives what the mailbox answers, in whichever order the lookups
complete (`SenderLookup.find?_all`); the group of an address has all of its entries
(`Evidence.mem_collect`), with one group for each address (`Evidence.pairwise_collect`); and the
target is the text that occurs most often, the smallest of several (`mostFrequent?_spec`).
-/
namespace MailTriage

/-! ### The most frequent text -/

/-- A text of some kind that occurs more often in a list than any other of the kind, or as often and
is smaller. -/
def Leads (texts : List String) (among : List String) (text : String) : Prop :=
  text ∈ among ∧ ∀ other ∈ among, texts.count other ≤ texts.count text
    ∧ (texts.count other = texts.count text → text ≤ other)

/-- The text that occurs most often in a list, the smallest of several. -/
def IsMostFrequent (text : String) (texts : List String) : Prop := Leads texts texts text

theorem IsMostFrequent.unique {texts : List String} {text text' : String}
    (h : IsMostFrequent text texts) (h' : IsMostFrequent text' texts) : text = text' := by
  obtain ⟨hle, hfirst⟩ := h.2 text' h'.1
  obtain ⟨hle', hfirst'⟩ := h'.2 text h.1
  have hcount := Nat.le_antisymm hle' hle
  exact String.le_antisymm (hfirst hcount.symm) (hfirst' hcount)

/-- What the search for the most frequent text knows after some texts: nothing before the first one,
then which of them leads. -/
def SearchedSoFar (texts seen : List String) : Option (String × Nat) → Prop
  | none => seen = []
  | some (text, count) => count = texts.count text ∧ Leads texts seen text

section
variable {texts seen : List String} {text : String}

/-- A further text, larger than those before, takes the lead only if it occurs more often. -/
theorem SearchedSoFar.step {best : Option (String × Nat)} (h : SearchedSoFar texts seen best)
    (hlarger : ∀ former ∈ seen, former < text) :
    SearchedSoFar texts (seen ++ [text]) (moreFrequent texts best text) := by
  cases best with
  | none =>
    obtain rfl : seen = [] := h
    refine ⟨rfl, List.mem_singleton_self text, fun other hother => ?_⟩
    rw [List.mem_singleton.mp hother]
    exact ⟨Nat.le_refl _, fun _ => String.le_refl _⟩
  | some best =>
    obtain ⟨former, count⟩ := best
    obtain ⟨rfl, hmem, hleads⟩ := h
    rw [moreFrequent]
    by_cases hcount : texts.count text ≤ texts.count former
    · rw [if_pos hcount]
      refine ⟨rfl, List.mem_append_left _ hmem, fun other hother => ?_⟩
      rcases List.mem_append.mp hother with hother | hother
      · exact hleads other hother
      · rw [List.mem_singleton.mp hother]
        exact ⟨hcount, fun _ => String.not_lt.mp (String.lt_asymm (hlarger former hmem))⟩
    · rw [if_neg hcount]
      refine ⟨rfl, List.mem_append_right _ (List.mem_singleton_self text), fun other hother => ?_⟩
      rcases List.mem_append.mp hother with hother | hother
      · have hle := (hleads other hother).1
        exact ⟨by omega, fun heq => by omega⟩
      · rw [List.mem_singleton.mp hother]
        exact ⟨Nat.le_refl _, fun _ => String.le_refl _⟩

theorem SearchedSoFar.run {best : Option (String × Nat)} {rest : List String}
    (hincreasing : (seen ++ rest).Pairwise (· < ·)) (h : SearchedSoFar texts seen best) :
    SearchedSoFar texts (seen ++ rest) (rest.foldl (moreFrequent texts) best) := by
  induction rest generalizing seen best with
  | nil => rwa [List.append_nil]
  | cons text rest ih =>
    have hlarger : ∀ former ∈ seen, former < text := fun former hformer =>
      (List.pairwise_append.mp hincreasing).2.2 former hformer text List.mem_cons_self
    have hsplit : seen ++ text :: rest = (seen ++ [text]) ++ rest := by simp
    rw [hsplit] at hincreasing ⊢
    exact ih hincreasing (h.step hlarger)

/-- **The most frequent text.** It is found in every list that is not empty. -/
theorem mostFrequent?_spec (texts : List String) :
    match mostFrequent? texts with
    | none => texts = []
    | some (text, count) => count = texts.count text ∧ IsMostFrequent text texts := by
  have hsearch : SearchedSoFar texts ([] ++ (TextSet.ofList texts).toList) (mostFrequent? texts) :=
    SearchedSoFar.run (TextSet.ofList texts).increasing rfl
  rw [List.nil_append] at hsearch
  have hmem : ∀ text, text ∈ (TextSet.ofList texts).toList ↔ text ∈ texts := fun text =>
    TextSet.mem_ofList
  cases h : mostFrequent? texts with
  | none =>
    rw [h] at hsearch
    refine List.eq_nil_iff_forall_not_mem.mpr fun text htext => ?_
    rw [← hmem, show (TextSet.ofList texts).toList = [] from hsearch] at htext
    cases htext
  | some best =>
    rw [h] at hsearch
    obtain ⟨hcount, htext, hleads⟩ := hsearch
    exact ⟨hcount, (hmem _).mp htext, fun other hother => hleads other ((hmem other).mpr hother)⟩

end

/-! ### Lookups -/

/-- The sender of a message, if the mailbox knows one that is an address. -/
def Mailbox.knownSender? (mailbox : Mailbox) (messageId : String) : Option Sender :=
  match mailbox.senderOf messageId with
  | .ok (some text) => Sender.parse? text
  | _ => none

theorem Mailbox.knownSender?_eq_some_iff {mailbox : Mailbox} {messageId : String} {s : Sender} :
    mailbox.knownSender? messageId = some s
      ↔ ∃ text, mailbox.senderOf messageId = .ok (some text) ∧ Sender.parse? text = some s := by
  rw [knownSender?]
  rcases h : mailbox.senderOf messageId with why | _ | text <;> simp

theorem SenderLookup.sender?_answer (mailbox : Mailbox) (messageId : String) :
    SenderLookup.sender? { messageId, answer := mailbox.senderOf messageId }
      = mailbox.knownSender? messageId := by
  unfold sender? Mailbox.knownSender?
  rcases mailbox.senderOf messageId with why | _ | text <;> rfl

/-- **Lookups give what the mailbox answers**, in whichever order they complete. -/
theorem SenderLookup.find?_all (mailbox : Mailbox) {messageIds : List String} {messageId : String}
    (h : messageId ∈ messageIds) :
    SenderLookup.find? (SenderLookup.all mailbox messageIds) messageId
      = mailbox.knownSender? messageId := by
  rw [SenderLookup.find?, SenderLookup.all]
  induction messageIds with
  | nil => cases h
  | cons id rest ih =>
    rw [List.map_cons, List.find?_cons]
    by_cases hid : id = messageId
    · subst hid
      rw [beq_self_eq_true]
      exact sender?_answer mailbox id
    · rw [beq_eq_false_iff_ne.mpr hid]
      exact ih ((List.mem_cons.mp h).resolve_left (Ne.symm hid))

/-! ### Groups -/

section
variable {senderOf senderOf' : String → Option Sender} {entries : List AuditEntry}

/-- The entries about messages of one address. -/
def entriesFrom (senderOf : String → Option Sender) (entries : List AuditEntry) (email : String) :
    List AuditEntry :=
  entries.filter fun entry => (senderOf entry.messageId).any (·.email == email)

theorem mem_entriesFrom {email : String} {entry : AuditEntry} :
    entry ∈ entriesFrom senderOf entries email
      ↔ entry ∈ entries ∧ ∃ s, senderOf entry.messageId = some s ∧ s.email = email := by
  rw [entriesFrom, List.mem_filter, Option.any_eq_true]
  simp only [beq_iff_eq]

theorem entriesFrom_congr
    (h : ∀ entry ∈ entries, senderOf entry.messageId = senderOf' entry.messageId) (email : String) :
    entriesFrom senderOf entries email = entriesFrom senderOf' entries email :=
  List.filter_congr fun entry hentry => by rw [h entry hentry]

theorem entriesFrom_filter {p : AuditEntry → Bool}
    (h : ∀ entry, p entry = false → senderOf entry.messageId = none) (email : String) :
    entriesFrom senderOf (entries.filter p) email = entriesFrom senderOf entries email := by
  rw [entriesFrom, entriesFrom, List.filter_filter]
  refine List.filter_congr fun entry _ => ?_
  cases hp : p entry with
  | true => rw [Bool.and_true]
  | false => rw [h entry hp, Option.any_none, Bool.false_and]

namespace Evidence

/-- The senders that some entries have, in the order of the entries. -/
def senders (senderOf : String → Option Sender) (entries : List AuditEntry) : List Sender :=
  entries.filterMap fun entry => senderOf entry.messageId

/-- The group of one address. -/
def group? (senderOf : String → Option Sender) (entries : List AuditEntry) (email : String) :
    Option Evidence :=
  ((senders senderOf entries).find? (·.email == email)).map fun sender =>
    { sender, entries := entriesFrom senderOf entries email }

theorem collect_eq : collect senderOf entries
    = (TextSet.ofList ((senders senderOf entries).map (·.email))).toList.filterMap
      (group? senderOf entries) := rfl

/-- Groups depend on the senders of the entries' own messages alone. -/
theorem collect_congr
    (h : ∀ entry ∈ entries, senderOf entry.messageId = senderOf' entry.messageId) :
    collect senderOf entries = collect senderOf' entries := by
  have hsenders : senders senderOf entries = senders senderOf' entries := List.filterMap_congr h
  have hgroup : group? senderOf entries = group? senderOf' entries := by
    funext email
    rw [group?, group?, hsenders, entriesFrom_congr h]
  rw [collect_eq, collect_eq, hsenders, hgroup]

/-- An entry about a message without a known sender is in no group. -/
theorem collect_filter {p : AuditEntry → Bool}
    (h : ∀ entry, p entry = false → senderOf entry.messageId = none) :
    collect senderOf (entries.filter p) = collect senderOf entries := by
  have hsenders : senders senderOf (entries.filter p) = senders senderOf entries := by
    rw [senders, senders, List.filterMap_filter]
    refine List.filterMap_congr fun entry _ => ?_
    cases hp : p entry with
    | true => rfl
    | false => exact (h entry hp).symm
  have hgroup : group? senderOf (entries.filter p) = group? senderOf entries := by
    funext email
    rw [group?, group?, hsenders, entriesFrom_filter h]
  rw [collect_eq, collect_eq, hsenders, hgroup]

theorem mem_senders {s : Sender} :
    s ∈ senders senderOf entries ↔ ∃ entry ∈ entries, senderOf entry.messageId = some s :=
  List.mem_filterMap

theorem group?_eq_some {email : String} {evidence : Evidence}
    (h : group? senderOf entries email = some evidence) :
    evidence.sender.email = email ∧ evidence.sender ∈ senders senderOf entries
      ∧ evidence.entries = entriesFrom senderOf entries email := by
  obtain ⟨s, hfind, rfl⟩ := Option.map_eq_some_iff.mp h
  have hemail := List.find?_some hfind
  exact ⟨eq_of_beq hemail, List.mem_of_find?_eq_some hfind, rfl⟩

/-- There is one group for each address, and the groups come in the order of the addresses. -/
theorem pairwise_collect :
    (collect senderOf entries).Pairwise (·.sender.email < ·.sender.email) := by
  rw [collect_eq, List.pairwise_filterMap]
  refine (TextSet.increasing _).imp fun {email email'} hlt evidence hfound evidence' hfound' => ?_
  rwa [(group?_eq_some hfound).1, (group?_eq_some hfound').1]

/-- **Each group has all entries of its address.**  An address has a group if there are such
entries. -/
theorem mem_collect
    (hsender : ∀ messageId s, senderOf messageId = some s → Sender.parse? s.email = some s)
    {evidence : Evidence} :
    evidence ∈ collect senderOf entries
      ↔ Sender.parse? evidence.sender.email = some evidence.sender
        ∧ evidence.entries = entriesFrom senderOf entries evidence.sender.email
        ∧ evidence.entries ≠ [] := by
  rw [collect_eq, List.mem_filterMap]
  constructor
  · rintro ⟨email, -, hgroup⟩
    obtain ⟨rfl, hmem, hentries⟩ := group?_eq_some hgroup
    obtain ⟨entry, hentry, hfrom⟩ := mem_senders.mp hmem
    refine ⟨hsender _ _ hfrom, hentries, ?_⟩
    rw [hentries]
    exact List.ne_nil_of_mem (mem_entriesFrom.mpr ⟨hentry, _, hfrom, rfl⟩)
  · rintro ⟨hparse, hentries, hne⟩
    rw [hentries] at hne
    obtain ⟨entry, hentry⟩ := List.exists_mem_of_ne_nil _ hne
    obtain ⟨hmem, s, hfrom, hemail⟩ := mem_entriesFrom.mp hentry
    have hs : s ∈ senders senderOf entries := mem_senders.mpr ⟨entry, hmem, hfrom⟩
    refine ⟨s.email, TextSet.mem_ofList.mpr (List.mem_map_of_mem hs), ?_⟩
    have hsome : ((senders senderOf entries).find? (·.email == s.email)).isSome = true :=
      List.find?_isSome.mpr ⟨s, hs, by simp⟩
    obtain ⟨found, hfound⟩ := Option.isSome_iff_exists.mp hsome
    -- the sender found for the address is the one the address names
    have hsame : found = evidence.sender := by
      obtain ⟨_, _, hfrom'⟩ := mem_senders.mp (List.mem_of_find?_eq_some hfound)
      have hparse' := hsender _ _ hfrom'
      have hfoundEmail : (found.email == s.email) = true := by simpa using List.find?_some hfound
      rw [eq_of_beq hfoundEmail, hemail, hparse] at hparse'
      exact (Option.some_inj.mp hparse').symm
    rw [group?, hfound, hsame, hemail, ← hentries]
    rfl

end Evidence

end

end MailTriage
