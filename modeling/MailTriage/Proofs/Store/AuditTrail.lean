import Mathlib.Data.List.Sort
import MailTriage.Proofs.Json.Data
import MailTriage.Proofs.Store.Listing
import MailTriage.Proofs.Store.MailHistory

/-! # The audit trail

A listing since any instant has the entries since then, each of them once, by time and then by id,
and since an instant in a year of four digits it has no others (`IsListing`).  The instants are
compared by their texts, so a year outside those of four digits needs a look of its own: its text
starts with a sign and comes before all others, and the listing has all entries.

What comes back of an entry is its time up to the milliseconds, its texts up to their first null
characters, and its metadata, whose numbers of double precision are read the quicker way and can be
others than before; but metadata that are nested too deeply cannot be read, and they make each
listing fail that has them (`Tables.Lists`).  So nothing is lost exactly if no text of an entry has a
null character, each number in its metadata is read as it was, and no metadata are nested too deeply
(`Store.audit_trail`).
-/
namespace MailTriage

/-! ### Entries -/

namespace AuditEntry

variable {entry : AuditEntry}

/-- The entry with its time cut off after the milliseconds. -/
def truncated (entry : AuditEntry) : AuditEntry :=
  { entry with timestamp := entry.timestamp.truncateToMillis }

/-- The entry with its time cut off after the milliseconds, its texts at their first null characters,
and its metadata as they are read. -/
def shortened (entry : AuditEntry) : AuditEntry :=
  { entry.truncated with
    actor := readBack entry.actor
    action := readBack entry.action
    messageId := readBack entry.messageId
    label := entry.label.map readBack
    metadata := entry.metadata.map (Json.reread .quick) }

/-- The metadata of an entry are data, if it has some. -/
def HasData (entry : AuditEntry) : Prop := ∀ json ∈ entry.metadata, json.isData = true

/-- The metadata of an entry are not nested too deeply. -/
def IsShallow (entry : AuditEntry) : Prop := ∀ json ∈ entry.metadata, json.isProper 0 = true

/-- Each number of double precision in the metadata of an entry is read as it was. -/
def KeepsNumbers (entry : AuditEntry) : Prop :=
  ∀ json ∈ entry.metadata, json.keepsNumbers .quick = true

theorem map_reread_eq_self_iff :
    entry.metadata.map (Json.reread .quick) = entry.metadata ↔ entry.KeepsNumbers := by
  rw [KeepsNumbers]
  cases entry.metadata with
  | none => exact iff_of_true rfl nofun
  | some json =>
    rw [Option.map_some, Option.some.injEq, Json.reread_eq_self_iff]
    exact ⟨fun h _ hjson => Option.some.inj hjson ▸ h, fun h => h json rfl⟩

theorem shortened_eq_truncated_iff :
    entry.shortened = entry.truncated ↔ entry.KeepsTexts ∧ entry.KeepsNumbers := by
  constructor
  · intro h
    exact
      ⟨{ actor := readBack_eq_self_iff.mp (congrArg AuditEntry.actor h)
         action := readBack_eq_self_iff.mp (congrArg AuditEntry.action h)
         messageId := readBack_eq_self_iff.mp (congrArg AuditEntry.messageId h)
         label := map_readBack_eq_self_iff.mp (congrArg AuditEntry.label h) },
        map_reread_eq_self_iff.mp (congrArg AuditEntry.metadata h)⟩
  · rintro ⟨⟨hactor, haction, hmessage, hlabel⟩, hnumbers⟩
    rw [shortened, readBack_eq_self_iff.mpr hactor, readBack_eq_self_iff.mpr haction,
      readBack_eq_self_iff.mpr hmessage, map_readBack_eq_self_iff.mpr hlabel,
      map_reread_eq_self_iff.mpr hnumbers]
    rfl

/-- Metadata that are nested too deeply cannot be read, even if they are no data. -/
theorem IsReadable.isShallow (h : entry.IsReadable) : entry.IsShallow := by
  intro json hjson
  obtain ⟨metadata, hread⟩ := h
  rw [metadataBack, Option.mem_def.mp hjson, Option.map_some, readMetadata, readBack_compact]
    at hread
  cases hdata : Json.readData .quick json.compact with
  | error why =>
    rw [hdata] at hread
    cases hread
  | ok back => exact Json.isProper_of_readData hdata

/-- Data that are not nested too deeply are read again. -/
theorem HasData.metadataBack (hdata : entry.HasData) (hshallow : entry.IsShallow) :
    entry.metadataBack = .ok (entry.metadata.map (Json.reread .quick)) :=
  metadataBack_of_isData fun json hjson => ⟨hdata json hjson, hshallow json hjson⟩

theorem HasData.kept (hdata : entry.HasData) (hshallow : entry.IsShallow) :
    entry.kept = entry.shortened := by
  rw [AuditEntry.kept, hdata.metadataBack hshallow]
  rfl

end AuditEntry

/-! ### The order of a listing -/

/-- One recorded entry comes before another: its time is earlier, as far as the milliseconds go, or
the times are the same and its id is smaller. -/
def RecordedBefore : String × AuditEntry → String × AuditEntry → Prop :=
  ThenBy (· ≤ ·) (·.2.timestamp.truncateToMillis) (fun a b => a.1 < b.1)

theorem RecordedBefore.asymm {a b : String × AuditEntry} (h : RecordedBefore a b) :
    ¬ RecordedBefore b a := by
  intro h'
  have hsame := Instant.le_antisymm h.1 h'.1
  exact String.lt_asymm (h.2 hsame) (h'.2 hsame.symm)

instance : Std.Asymm RecordedBefore := ⟨fun _ _ => RecordedBefore.asymm⟩

theorem AuditRow.listedBefore_iff {a b : AuditRow} :
    a.listedBefore b = true
      ↔ ThenBy (· ≤ ·) AuditRow.createdAt (fun a b => nullFirst a.id b.id = true) a b :=
  textThenId_iff

theorem AuditRow.pairwise_sorted (rows : List AuditRow) :
    (rows.mergeSort listedBefore).Pairwise fun a b => a.listedBefore b = true :=
  pairwise_mergeSort_of_textThenId createdAt AuditRow.id (fun _ _ => listedBefore_iff) rows

/-- Rows are in the order of their entries. -/
theorem recordedBefore_of_row {a b : String × AuditEntry} (ha : a.2.timestamp.InFourDigitYear)
    (hb : b.2.timestamp.InFourDigitYear) (hid : a.1 ≠ b.1)
    (h : (AuditRow.ofEntry a.1 a.2).listedBefore (.ofEntry b.1 b.2) = true) :
    RecordedBefore a b := by
  obtain ⟨htime, hnull⟩ := AuditRow.listedBefore_iff.mp h
  refine ⟨(Timestamp.writeMillis_le_writeMillis_iff ha hb).mp htime, fun hsame => ?_⟩
  have hle : a.1 ≤ b.1 := of_decide_eq_true (hnull ((Timestamp.writeMillis_inj ha hb).mpr hsame))
  exact (lt_iff_le_of_ne hid).mpr hle

/-- Some recorded entries are the ones since an instant, each of them once and in order.  Since an
instant outside the years of four digits there may be others, too. -/
structure IsListing (recorded : List (String × AuditEntry)) (since : Instant)
    (listed : List (String × AuditEntry)) : Prop where
  subset : ∀ record ∈ listed, record ∈ recorded
  complete : ∀ record ∈ recorded, since ≤ record.2.timestamp → record ∈ listed
  since_le : since.InFourDigitYear → ∀ record ∈ listed, record.2.IsListed since
  sorted : listed.Pairwise RecordedBefore

section
variable {recorded listed listed' : List (String × AuditEntry)} {since : Instant}

theorem pairwise_listedSince (hids : (recorded.map (·.1)).Nodup)
    (hyears : ∀ record ∈ recorded, record.2.timestamp.InFourDigitYear) (since : Instant) :
    (listedSince since recorded).Pairwise RecordedBefore := by
  have hdistinct : ((listedSince since recorded).map (·.1)).Nodup :=
    ((listedSince_perm since recorded).map (·.1)).nodup_iff.mpr
      (hids.sublist (List.filter_sublist.map _))
  have hsorted : (listedSince since recorded).Pairwise fun a b =>
      (AuditRow.ofEntry a.1 a.2).listedBefore (.ofEntry b.1 b.2) = true := by
    unfold listedSince
    rw [← List.pairwise_map (R := fun a b => AuditRow.listedBefore a b = true),
      List.map_mergeSort (s := AuditRow.listedBefore) fun _ _ _ _ => rfl]
    exact AuditRow.pairwise_sorted _
  refine ((List.pairwise_map.mp hdistinct).and hsorted).imp_of_mem fun ha hb h => ?_
  exact recordedBefore_of_row (hyears _ (mem_listedSince.mp ha).1)
    (hyears _ (mem_listedSince.mp hb).1) h.1 h.2

theorem isListing_listedSince (hids : (recorded.map (·.1)).Nodup)
    (hyears : ∀ record ∈ recorded, record.2.timestamp.InFourDigitYear) (since : Instant) :
    IsListing recorded since (listedSince since recorded) where
  subset := fun record hrecord => (mem_listedSince.mp hrecord).1
  complete := fun record hrecord hsince =>
    mem_listedSince.mpr ⟨hrecord, Timestamp.writeMillis_le_of_le hsince (hyears record hrecord)⟩
  since_le := fun hsince record hrecord => by
    obtain ⟨hmem, hle⟩ := mem_listedSince.mp hrecord
    exact (Timestamp.writeMillis_le_writeMillis_iff hsince (hyears record hmem)).mp hle
  sorted := pairwise_listedSince hids hyears since

/-- The entries since the earliest instant are all of them, in one order only. -/
theorem IsListing.eq_of_earliest (h : IsListing recorded .earliest listed)
    (h' : IsListing recorded .earliest listed') : listed = listed' := by
  have hmem : ∀ {listed : List (String × AuditEntry)}, IsListing recorded .earliest listed →
      ∀ record, record ∈ listed ↔ record ∈ recorded := fun h record =>
    ⟨h.subset record, fun hrecord => h.complete record hrecord (Instant.earliest_le_self _)⟩
  exact h.sorted.eq_of_mem_iff h'.sorted fun record => (hmem h record).trans (hmem h' record).symm

end

/-! ### The log of a new store -/

namespace Tables

/-- A listing since an instant gives these entries, with their texts up to their first null
characters and their metadata as they are read; it fails if the metadata of one of them are nested
too deeply. -/
structure Lists (tables : Tables) (since : Instant) (listed : List (String × AuditEntry)) :
    Prop where
  shallow : (∀ record ∈ listed, record.2.IsShallow) →
    tables.entriesSince since = .ok (listed.map fun record => record.2.shortened)
  deep : (∃ record ∈ listed, ¬ record.2.IsShallow) →
    ∃ why, tables.entriesSince since = .error (.json why)

/-- The log keeps what was recorded: since every instant it lists the entries as they were, with
their times up to the milliseconds. -/
def KeepsLog (tables : Tables) (recorded : List (String × AuditEntry)) : Prop :=
  ∀ since, ∃ listed, IsListing recorded since listed
    ∧ tables.entriesSince since = .ok (listed.map fun record => record.2.truncated)

variable {tables : Tables} {recorded : List (String × AuditEntry)}

theorem HoldMail.lists {received : List (Instant × IncomingMessage)}
    (h : tables.HoldMail recorded received)
    (hyears : ∀ record ∈ recorded, record.2.timestamp.InFourDigitYear)
    (hdata : ∀ record ∈ recorded, record.2.HasData) (since : Instant) :
    tables.Lists since (listedSince since recorded) where
  shallow := fun hshallow => by
    have hdata : ∀ record ∈ listedSince since recorded, record.2.HasData := fun record hrecord =>
      hdata record (mem_listedSince.mp hrecord).1
    rw [h.entriesSince_eq_ok hyears fun record hrecord =>
      ⟨_, (hdata record hrecord).metadataBack (hshallow record hrecord)⟩]
    refine congrArg _ (List.map_congr_left fun record hrecord => ?_)
    exact (hdata record hrecord).kept (hshallow record hrecord)
  deep := fun ⟨record, hrecord, hdeep⟩ =>
    h.entriesSince_eq_error hyears ⟨record, hrecord, fun hread => hdeep hread.isShallow⟩

/-- The log keeps what was recorded exactly if it can all be read back as it was. -/
theorem keepsLog_iff
    (hlists : ∀ since, ∃ listed, IsListing recorded since listed ∧ tables.Lists since listed) :
    tables.KeepsLog recorded
      ↔ ∀ record ∈ recorded,
        record.2.KeepsTexts ∧ record.2.KeepsNumbers ∧ record.2.IsShallow := by
  constructor
  · intro hkeeps
    obtain ⟨listed, hlisting, hlist⟩ := hlists .earliest
    obtain ⟨listed', hlisting', hok⟩ := hkeeps .earliest
    obtain rfl := hlisting.eq_of_earliest hlisting'
    have hshallow : ∀ record ∈ listed, record.2.IsShallow := by
      by_contra hdeep
      simp only [not_forall] at hdeep
      obtain ⟨record, hrecord, hdeep⟩ := hdeep
      obtain ⟨why, herror⟩ := hlist.deep ⟨record, hrecord, hdeep⟩
      rw [herror] at hok
      cases hok
    have hsame := Except.ok.inj ((hlist.shallow hshallow).symm.trans hok)
    intro record hrecord
    have hmem : record ∈ listed :=
      hlisting.complete record hrecord (Instant.earliest_le_self _)
    obtain ⟨htexts, hnumbers⟩ :=
      AuditEntry.shortened_eq_truncated_iff.mp (List.map_inj_left.mp hsame record hmem)
    exact ⟨htexts, hnumbers, hshallow record hmem⟩
  · intro h since
    obtain ⟨listed, hlisting, hlist⟩ := hlists since
    refine ⟨listed, hlisting, ?_⟩
    rw [hlist.shallow fun record hrecord => (h record (hlisting.subset record hrecord)).2.2]
    refine congrArg _ (List.map_congr_left fun record hrecord => ?_)
    obtain ⟨htexts, hnumbers, -⟩ := h record (hlisting.subset record hrecord)
    exact AuditEntry.shortened_eq_truncated_iff.mpr ⟨htexts, hnumbers⟩

end Tables

theorem holdMail_recorded {recorded : List (String × AuditEntry)}
    (hids : (recorded.map (·.1)).Nodup) :
    (Store.fresh.content.afterMail (recorded.map fun record => .record record.1 record.2)).HoldMail
      recorded [] := by
  have hrecorded : (recorded.map fun record => MailChange.record record.1 record.2).filterMap
      (·.recorded?) = recorded := by
    rw [List.filterMap_map]
    exact List.filterMap_some
  have hreceived : (recorded.map fun record => MailChange.record record.1 record.2).filterMap
      (·.received?) = [] := by
    rw [List.filterMap_map]
    exact List.filterMap_eq_nil_iff.mpr fun _ _ => rfl
  have hafter : (Store.fresh.content.afterMail
      (recorded.map fun record => .record record.1 record.2)).HoldMail _ _ :=
    Store.holdMail_fresh.after (by rwa [hrecorded, List.nil_append])
      (by rw [hreceived]; exact List.nodup_nil)
  rwa [hrecorded, hreceived, List.nil_append] at hafter

/-- **The audit log lists what was appended.**  Since every instant it gives the entries since then,
each of them once and in order, with their times up to the milliseconds, their texts up to their
first null characters, and their metadata as they are read, unless the metadata of one of them are
nested too deeply.  So it keeps what was appended exactly if no text has a null character, each
number in the metadata is read as it was, and no metadata are nested too deeply. -/
theorem Store.audit_trail (recorded : List (String × AuditEntry))
    (hids : (recorded.map (·.1)).Nodup)
    (hyears : ∀ record ∈ recorded, record.2.timestamp.InFourDigitYear)
    (hdata : ∀ record ∈ recorded, record.2.HasData) :
    (∀ since, ∃ listed, IsListing recorded since listed
      ∧ (Store.fresh.content.afterMail
          (recorded.map fun record => .record record.1 record.2)).Lists since listed)
    ∧ ((Store.fresh.content.afterMail
          (recorded.map fun record => .record record.1 record.2)).KeepsLog recorded
      ↔ ∀ record ∈ recorded,
        record.2.KeepsTexts ∧ record.2.KeepsNumbers ∧ record.2.IsShallow) := by
  have hlists : ∀ since, ∃ listed, IsListing recorded since listed
      ∧ (Store.fresh.content.afterMail
          (recorded.map fun record => .record record.1 record.2)).Lists since listed :=
    fun since => ⟨listedSince since recorded, isListing_listedSince hids hyears since,
      (holdMail_recorded hids).lists hyears hdata since⟩
  exact ⟨hlists, Tables.keepsLog_iff hlists⟩

/-- An entry with a score of one and a half in its metadata. -/
def scoredBy (actor messageId : String) : AuditEntry where
  timestamp := .epoch
  actor
  action := AuditEntry.mute
  messageId
  label := none
  metadata := some (.object [("score", .real ⟨false, 3 * 2 ^ 51, -52, by decide⟩)])

theorem hasData_scoredBy (actor messageId : String) : (scoredBy actor messageId).HasData := by
  intro json hjson
  cases hjson
  decide +kernel

theorem isShallow_scoredBy (actor messageId : String) : (scoredBy actor messageId).IsShallow := by
  intro json hjson
  cases hjson
  rfl

theorem keepsNumbers_scoredBy (actor messageId : String) :
    (scoredBy actor messageId).KeepsNumbers := by
  intro json hjson
  cases hjson
  decide +kernel

/-- Entries of one instant are kept, with the fractions in their metadata. -/
theorem Store.audit_trail_scored :
    (Store.fresh.content.afterMail [.record "b" (scoredBy "ann@desk.io" "m1"),
        .record "a" (scoredBy "bob@desk.io" "m2")]).KeepsLog
      [("b", scoredBy "ann@desk.io" "m1"), ("a", scoredBy "bob@desk.io" "m2")] := by
  have hyears : ∀ record ∈ [("b", scoredBy "ann@desk.io" "m1"), ("a", scoredBy "bob@desk.io" "m2")],
      record.2.timestamp.InFourDigitYear := by
    intro record hrecord
    simp only [List.mem_cons, List.not_mem_nil, or_false] at hrecord
    rcases hrecord with rfl | rfl <;> exact (by decide : Instant.epoch.InFourDigitYear)
  have hdata : ∀ record ∈ [("b", scoredBy "ann@desk.io" "m1"), ("a", scoredBy "bob@desk.io" "m2")],
      record.2.HasData := by
    intro record hrecord
    simp only [List.mem_cons, List.not_mem_nil, or_false] at hrecord
    rcases hrecord with rfl | rfl <;> exact hasData_scoredBy _ _
  refine (Store.audit_trail _ (by decide) hyears hdata).2.mpr fun record hrecord => ?_
  simp only [List.mem_cons, List.not_mem_nil, or_false] at hrecord
  rcases hrecord with rfl | rfl
  · exact ⟨⟨by decide, by decide, by decide, nofun⟩, keepsNumbers_scoredBy _ _,
      isShallow_scoredBy _ _⟩
  · exact ⟨⟨by decide, by decide, by decide, nofun⟩, keepsNumbers_scoredBy _ _,
      isShallow_scoredBy _ _⟩

/-- **An actor is not given back.**  With a null character in it only its start is listed. -/
theorem Store.not_kept_shortened :
    ∃ next, Store.fresh.content.appendAudit "a" (scoredBy "ann\x00x@desk.io" "m1") = .ok next
      ∧ next.entriesSince .earliest = .ok [scoredBy "ann" "m1"] := by
  have hyears : ∀ record ∈ [("a", scoredBy "ann\x00x@desk.io" "m1")],
      record.2.timestamp.InFourDigitYear :=
    List.forall_mem_singleton.mpr (by decide : Instant.epoch.InFourDigitYear)
  have hdata : ∀ record ∈ [("a", scoredBy "ann\x00x@desk.io" "m1")], record.2.HasData :=
    List.forall_mem_singleton.mpr (hasData_scoredBy _ _)
  have hlisted : listedSince .earliest [("a", scoredBy "ann\x00x@desk.io" "m1")]
      = [("a", scoredBy "ann\x00x@desk.io" "m1")] := by
    refine List.perm_singleton.mp ((listedSince_perm _ _).trans (List.Perm.of_eq ?_))
    refine List.filter_eq_self.mpr fun record hrecord => decide_eq_true ?_
    exact Timestamp.writeMillis_le_of_le (Instant.earliest_le_self _) (hyears record hrecord)
  obtain ⟨next, happly, hhold⟩ := Store.holdMail_fresh.record
    (List.not_mem_nil : "a" ∉ []) (scoredBy "ann\x00x@desk.io" "m1")
  refine ⟨next, happly, ?_⟩
  rw [(hhold.lists hyears hdata .earliest).shallow]
  · rw [List.nil_append, hlisted, List.map_singleton, AuditEntry.shortened,
      AuditEntry.map_reread_eq_self_iff.mpr (keepsNumbers_scoredBy _ _)]
    rfl
  · rw [List.nil_append, hlisted]
    exact List.forall_mem_singleton.mpr (isShallow_scoredBy _ _)

end MailTriage
