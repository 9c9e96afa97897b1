import MailTriage.Address
import MailTriage.Proofs.Text.Lowering

/-! # Normal forms of domains

Normalizing a domain is not idempotent: it takes away one leading `@` and one leading `.`, and what
is left may start with another one, or with a blank.  A normal form is kept by normalizing again
exactly when it starts with none of these (`normalizeDomain_normalizeDomain_iff`).
-/
namespace MailTriage

namespace Text

theorem stripStart_isSuffix (c : Char) (cs : List Char) : stripStart c cs <:+ cs := by
  cases cs with
  | nil => exact List.suffix_refl _
  | cons x rest =>
    rw [stripStart]
    split
    · exact List.suffix_cons x rest
    · exact List.suffix_refl _

theorem stripStart_of_head {c : Char} {cs : List Char} (h : c ∉ cs.head?) :
    stripStart c cs = cs := by
  cases cs with
  | nil => rfl
  | cons x rest =>
    rw [stripStart, if_neg]
    rintro rfl
    exact h rfl

theorem stripStart_cons_self (c : Char) (cs : List Char) : stripStart c (c :: cs) = cs :=
  if_pos rfl

theorem length_trimChars_lt {c : Char} (h : isBlank c = true) (cs : List Char) :
    (trimChars (c :: cs)).length < (c :: cs).length := by
  have hend := (trimEnd_isPrefix (trimStart (c :: cs))).length_le
  have hstart : trimStart (c :: cs) = trimStart cs := by
    rw [trimStart, List.dropWhile_cons_of_pos h, trimStart]
  have hle : (trimStart cs).length ≤ cs.length := (List.dropWhile_suffix _).length_le
  rw [trimChars, List.length_cons]
  rw [hstart] at hend ⊢
  omega

end Text

/-- What `normalizeDomain` does to the characters. -/
def normalDomainChars (cs : List Char) : List Char :=
  Text.stripStart '.' (Text.stripStart '@' (Text.lowerChars (Text.trimChars cs)))

theorem toList_normalizeDomain (text : String) :
    (normalizeDomain text).toList = normalDomainChars text.toList := String.toList_ofList

theorem normalDomainChars_isSuffix (cs : List Char) :
    normalDomainChars cs <:+ Text.lowerChars (Text.trimChars cs) :=
  (Text.stripStart_isSuffix '.' _).trans (Text.stripStart_isSuffix '@' _)

@[simp] theorem normalizeDomain_empty : normalizeDomain "" = "" := rfl

theorem isSmall_of_mem_normalizeDomain {text : String} {c : Char}
    (h : c ∈ (normalizeDomain text).toList) : Text.isSmall c = true := by
  rw [toList_normalizeDomain] at h
  exact Text.isSmall_of_mem_lowerChars ((normalDomainChars_isSuffix _).subset h)

theorem last_normalizeDomain (text : String) :
    ∀ c ∈ (normalizeDomain text).toList.getLast?, Text.isBlank c = false := by
  rw [toList_normalizeDomain]
  exact (Text.trimmed_trimChars _).lowerChars.last_of_suffix (normalDomainChars_isSuffix _)

/-- The domain does not start with a character that normalizing takes away. -/
def StartsFirm (domain : String) : Prop :=
  ∀ c ∈ domain.toList.head?, c ≠ '@' ∧ c ≠ '.' ∧ Text.isBlank c = false

instance (domain : String) : Decidable (StartsFirm domain) :=
  Option.decidableForallMem domain.toList.head?

/-- **A normal form is kept exactly when it starts with no `@`, `.` or blank.** -/
theorem normalizeDomain_normalizeDomain_iff (text : String) :
    normalizeDomain (normalizeDomain text) = normalizeDomain text
      ↔ StartsFirm (normalizeDomain text) := by
  have hsmall : ∀ c ∈ (normalizeDomain text).toList, Text.isSmall c = true :=
    fun c => isSmall_of_mem_normalizeDomain
  have hlast := last_normalizeDomain text
  rw [← String.toList_inj, toList_normalizeDomain, StartsFirm]
  generalize (normalizeDomain text).toList = cs at hsmall hlast
  have hkept : (∀ c ∈ cs.head?, Text.isBlank c = false) →
      normalDomainChars cs = Text.stripStart '.' (Text.stripStart '@' cs) := by
    intro hhead
    rw [normalDomainChars, Text.trimChars_of_trimmed ⟨hhead, hlast⟩,
      Text.lowerChars_of_isSmall hsmall]
  constructor
  · rintro hfixed c hc
    obtain ⟨rest, rfl⟩ : ∃ rest, cs = c :: rest := by
      cases cs with
      | nil => cases hc
      | cons x rest => cases hc; exact ⟨rest, rfl⟩
    have hlength := congrArg List.length hfixed
    have hblank : Text.isBlank c = false := by
      refine Bool.eq_false_iff.mpr fun hblank => ?_
      have hlt := Text.length_trimChars_lt hblank rest
      have hle := (normalDomainChars_isSuffix (c :: rest)).length_le
      have htrimmed : ∀ d ∈ Text.trimChars (c :: rest), Text.isSmall d = true :=
        fun d hd => hsmall d ((Text.trimChars_isInfix _).subset hd)
      rw [Text.lowerChars_of_isSmall htrimmed] at hle
      omega
    rw [hkept (fun d hd => by cases hd; exact hblank)] at hlength
    refine ⟨?_, ?_, hblank⟩
    · rintro rfl
      rw [Text.stripStart_cons_self] at hlength
      have := (Text.stripStart_isSuffix '.' rest).length_le
      rw [List.length_cons] at hlength
      omega
    · rintro rfl
      rw [Text.stripStart_of_head (c := '@') (by simp), Text.stripStart_cons_self] at hlength
      rw [List.length_cons] at hlength
      omega
  · intro h
    rw [hkept fun c hc => (h c hc).2.2, Text.stripStart_of_head fun hc => (h _ hc).1 rfl,
      Text.stripStart_of_head fun hc => (h _ hc).2.1 rfl]

end MailTriage
