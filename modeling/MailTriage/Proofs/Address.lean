import MailTriage.Address
import MailTriage.Proofs.Text.Lowering

/-! # Senders in normal form

The normal form of an address is trimmed, in small letters and free of a display name
(`normal_normalizeChars`), and normalization keeps every text of that kind
(`normalizeChars_of_normal`).  So reading a sender's address gives that sender again
(`Sender.parse?_email`), and whatever reads an address twice may as well read it once.

Whether a display name is left can be told from the angle brackets alone (`Bare`); neither trimming
nor lower-casing changes those.
-/
namespace MailTriage
namespace Address

/-! ### Angle brackets -/

/-- The angle brackets of a text, in order. -/
def brackets (cs : List Char) : List Char := cs.filter fun c => c = '<' || c = '>'

/-- No `>` comes after the last `<`. -/
def Bare (cs : List Char) : Prop := (brackets cs).getLast? = some '>' → '<' ∉ brackets cs

theorem mem_brackets {c : Char} {cs : List Char} :
    c ∈ brackets cs ↔ c ∈ cs ∧ (c = '<' ∨ c = '>') := by
  simp [brackets, List.mem_filter]

theorem open_mem_brackets {cs : List Char} : '<' ∈ brackets cs ↔ '<' ∈ cs := by
  simp [mem_brackets]

theorem brackets_append (front back : List Char) :
    brackets (front ++ back) = brackets front ++ brackets back := List.filter_append ..

theorem brackets_append_close (before after : List Char) :
    brackets (before ++ '>' :: after) = brackets before ++ '>' :: brackets after := by
  rw [brackets_append, brackets, brackets, List.filter_cons_of_pos (by decide)]
  rfl

theorem brackets_eq_nil {cs : List Char} (hopen : '<' ∉ cs) (hclose : '>' ∉ cs) :
    brackets cs = [] := by
  refine List.eq_nil_iff_forall_not_mem.mpr fun c hc => ?_
  obtain ⟨hmem, rfl | rfl⟩ := mem_brackets.mp hc
  · exact hopen hmem
  · exact hclose hmem

theorem brackets_trimChars (cs : List Char) : brackets (Text.trimChars cs) = brackets cs := by
  refine Text.filter_trimChars (fun c hc => ?_) cs
  have h : c = '<' ∨ c = '>' := by simpa using hc
  rcases h with rfl | rfl <;> decide

theorem brackets_lowerChars (cs : List Char) : brackets (Text.lowerChars cs) = brackets cs := by
  refine Text.filter_lowerChars (fun c hc => ?_) cs
  have h : c = '<' ∨ c = '>' := by simpa using hc
  rcases h with rfl | rfl <;> decide

theorem bare_of_open_not_mem {cs : List Char} (h : '<' ∉ cs) : Bare cs :=
  fun _ ho => h (open_mem_brackets.mp ho)

theorem bare_of_close_not_mem {cs : List Char} (h : '>' ∉ cs) : Bare cs := fun hl =>
  absurd (mem_brackets.mp (List.mem_of_getLast? hl)).1 h

theorem unwrapChars_of_bare {cs : List Char} (h : Bare cs) : unwrapChars cs = cs := by
  rw [unwrapChars]
  cases hclose : Text.cutLast '>' cs with
  | none => rfl
  | some parts =>
    obtain ⟨before, after⟩ := parts
    obtain ⟨rfl, hafter⟩ := Text.eq_append_of_cutLast hclose
    by_cases hopen : '<' ∈ after
    · exact if_pos hopen
    · -- then the last bracket is this `>`, and it has no `<` before it
      have hbefore : '<' ∉ before := by
        intro hmem
        refine h ?_ (open_mem_brackets.mpr (List.mem_append_left _ hmem))
        rw [brackets_append_close, brackets_eq_nil hopen hafter, List.getLast?_append]
        rfl
      simp only [if_neg hopen, Text.cutLast_eq_none_iff.mpr hbefore]

/-- What is taken out of a display name has none itself. -/
theorem bare_unwrapChars (cs : List Char) : Bare (unwrapChars cs) := by
  rw [unwrapChars]
  cases hclose : Text.cutLast '>' cs with
  | none => exact bare_of_close_not_mem (Text.cutLast_eq_none_iff.mp hclose)
  | some parts =>
    obtain ⟨before, after⟩ := parts
    obtain ⟨rfl, hafter⟩ := Text.eq_append_of_cutLast hclose
    by_cases hopen : '<' ∈ after
    · simp only [if_pos hopen]
      intro hlast
      rw [brackets_append_close, List.getLast?_append, List.getLast?_cons] at hlast
      cases hbrackets : (brackets after).getLast? with
      | none =>
        have hnil := List.getLast?_eq_none_iff.mp hbrackets
        exact absurd (open_mem_brackets.mpr hopen) (by rw [hnil]; exact List.not_mem_nil)
      | some c =>
        have hc : c = '>' := by simpa [hbrackets] using hlast
        exact absurd (mem_brackets.mp (List.mem_of_getLast? hbrackets)).1 (hc ▸ hafter)
    · simp only [if_neg hopen]
      cases hinside : Text.cutLast '<' before with
      | none =>
        refine bare_of_open_not_mem fun hmem => ?_
        have hbefore := Text.cutLast_eq_none_iff.mp hinside
        simp [hbefore, hopen] at hmem
      | some inner => exact bare_of_open_not_mem (Text.eq_append_of_cutLast hinside).2

/-! ### Normal texts -/

/-- A text that is trimmed, in small letters and free of a display name. -/
structure Normal (cs : List Char) : Prop where
  trimmed : Text.Trimmed cs
  small : ∀ c ∈ cs, Text.isSmall c = true
  bare : Bare cs

theorem normal_normalizeChars (cs : List Char) : Normal (normalizeChars cs) where
  trimmed := (Text.trimmed_trimChars _).lowerChars
  small _ := Text.isSmall_of_mem_lowerChars
  bare := by
    rw [Bare, normalizeChars, brackets_lowerChars, brackets_trimChars]
    exact bare_unwrapChars _

theorem normalizeChars_of_normal {cs : List Char} (h : Normal cs) : normalizeChars cs = cs := by
  rw [normalizeChars, Text.trimChars_of_trimmed h.trimmed, unwrapChars_of_bare h.bare,
    Text.trimChars_of_trimmed h.trimmed, Text.lowerChars_of_isSmall h.small]

theorem mem_of_mem_unwrapChars {c : Char} {cs : List Char} (h : c ∈ unwrapChars cs) : c ∈ cs := by
  rw [unwrapChars] at h
  cases hclose : Text.cutLast '>' cs with
  | none => rwa [hclose] at h
  | some parts =>
    obtain ⟨before, after⟩ := parts
    obtain ⟨rfl, -⟩ := Text.eq_append_of_cutLast hclose
    simp only [hclose] at h
    split at h
    · exact h
    · cases hopen : Text.cutLast '<' before with
      | none => rwa [hopen] at h
      | some inner =>
        rw [hopen] at h
        rw [(Text.eq_append_of_cutLast hopen).1]
        exact List.mem_append_left _ (List.mem_append_right _ (List.mem_cons_of_mem _ h))

/-- Normalizing a text in small letters takes characters away and brings no new ones. -/
theorem mem_of_mem_normalizeChars {c : Char} {cs : List Char}
    (hsmall : ∀ d ∈ cs, Text.isSmall d = true) (h : c ∈ normalizeChars cs) : c ∈ cs := by
  have hmem : ∀ d ∈ Text.trimChars (unwrapChars (Text.trimChars cs)), d ∈ cs := fun d hd =>
    (Text.trimChars_isInfix cs).mem (mem_of_mem_unwrapChars ((Text.trimChars_isInfix _).mem hd))
  rw [normalizeChars, Text.lowerChars_of_isSmall fun d hd => hsmall d (hmem d hd)] at h
  exact hmem c h

/-! ### The domain of an address -/

/-- A part of a text that reaches to its end has its brackets there too. -/
theorem Bare.of_append {front back : List Char} (h : Bare (front ++ back)) : Bare back := by
  intro hlast hopen
  refine h ?_ ?_
  · rw [brackets_append, List.getLast?_append, hlast]
    rfl
  · rw [brackets_append, List.mem_append]
    exact .inr hopen

theorem bare_append_of_not_mem (front : List Char) {back : List Char} (hback : Bare back)
    (hopen : '<' ∉ front) (hclose : '>' ∉ front) : Bare (front ++ back) := by
  rw [Bare, brackets_append, brackets_eq_nil hopen hclose, List.nil_append]
  exact hback

theorem domainChars?_eq_some_iff {cs domain : List Char} :
    domainChars? cs = some domain ↔
      domain ≠ [] ∧ '@' ∉ domain ∧ ∃ front, cs = front ++ '@' :: domain := by
  rw [domainChars?]
  constructor
  · intro h
    cases hcut : Text.cutLast '@' cs with
    | none => rw [hcut] at h; cases h
    | some parts =>
      obtain ⟨front, after⟩ := parts
      rw [hcut] at h
      cases after with
      | nil => cases h
      | cons c rest =>
        obtain ⟨hcs, hat⟩ := Text.eq_append_of_cutLast hcut
        rw [← Option.some_inj.mp h]
        exact ⟨List.cons_ne_nil c rest, hat, front, hcs⟩
  · rintro ⟨hne, hat, front, rfl⟩
    rw [Text.cutLast_append front hat]
    cases domain with
    | nil => exact absurd rfl hne
    | cons c rest => rfl

end Address

open Address

theorem extractDomain_eq_some_iff {email domain : String} :
    extractDomain email = some domain ↔
      domain ≠ "" ∧ '@' ∉ domain.toList ∧
        ∃ front, email.toList = front ++ '@' :: domain.toList := by
  rw [extractDomain, Option.map_eq_some_iff]
  constructor
  · rintro ⟨cs, hcs, rfl⟩
    obtain ⟨hne, hat, front, hfront⟩ := domainChars?_eq_some_iff.mp hcs
    refine ⟨fun h => hne ?_, by simpa using hat, front, by simpa using hfront⟩
    rw [← String.toList_ofList (l := cs), h]
    rfl
  · rintro ⟨hne, hat, hfront⟩
    refine ⟨domain.toList, domainChars?_eq_some_iff.mpr ⟨fun h => hne ?_, hat, hfront⟩,
      String.ofList_toList⟩
    rw [← String.ofList_toList (s := domain), h]

/-- A normal text with a domain is the normal form of itself. -/
theorem normalizeEmail_of_normal {email domain : String} (h : Normal email.toList)
    (hdomain : extractDomain email = some domain) : normalizeEmail email = some email := by
  rw [normalizeEmail, normalizeChars_of_normal h, String.ofList_toList]
  exact if_pos (by rw [hdomain]; rfl)

theorem normalizeEmail_eq_some {text email : String} (h : normalizeEmail text = some email) :
    Normal email.toList ∧ ∃ domain, extractDomain email = some domain := by
  rw [normalizeEmail] at h
  split at h
  · next hdomain =>
    obtain rfl := Option.some_inj.mp h
    refine ⟨by rw [String.toList_ofList]; exact normal_normalizeChars _, ?_⟩
    exact Option.isSome_iff_exists.mp hdomain
  · cases h

theorem normalizeEmail_idem {text email : String} (h : normalizeEmail text = some email) :
    normalizeEmail email = some email := by
  obtain ⟨hnormal, domain, hdomain⟩ := normalizeEmail_eq_some h
  exact normalizeEmail_of_normal hnormal hdomain

namespace Sender

theorem parse?_eq_some_iff {text : String} {s : Sender} :
    parse? text = some s ↔
      normalizeEmail text = some s.email ∧ extractDomain s.email = some s.domain := by
  obtain ⟨email, domain⟩ := s
  simp only [parse?, bind, Option.bind_eq_some_iff, pure, Option.some.injEq, mk.injEq]
  constructor
  · rintro ⟨_, hemail, _, hdomain, rfl, rfl⟩
    exact ⟨hemail, hdomain⟩
  · rintro ⟨hemail, hdomain⟩
    exact ⟨email, hemail, domain, hdomain, rfl, rfl⟩

/-- A text has a normal form as an address exactly if it names a sender. -/
theorem map_email_parse? (text : String) : (parse? text).map (·.email) = normalizeEmail text := by
  cases h : normalizeEmail text with
  | none => simp [parse?, h]
  | some email =>
    obtain ⟨-, domain, hdomain⟩ := normalizeEmail_eq_some h
    rw [show parse? text = some ⟨email, domain⟩ from parse?_eq_some_iff.mpr ⟨h, hdomain⟩]
    rfl

/-- **Reading a sender's address gives the sender again.** -/
theorem parse?_email {text : String} {s : Sender} (h : parse? text = some s) :
    parse? s.email = some s := by
  obtain ⟨hemail, hdomain⟩ := parse?_eq_some_iff.mp h
  exact parse?_eq_some_iff.mpr ⟨normalizeEmail_idem hemail, hdomain⟩

/-- Senders with the same address are the same. -/
theorem eq_of_email {text text' : String} {s s' : Sender} (h : parse? text = some s)
    (h' : parse? text' = some s') (hemail : s.email = s'.email) : s = s' := by
  have hs := parse?_email h
  rw [hemail, parse?_email h'] at hs
  exact (Option.some_inj.mp hs).symm

/-- An address names the sender that its normal form names. -/
theorem bind_normalizeEmail (text : String) :
    (normalizeEmail text).bind parse? = parse? text := by
  refine Option.ext fun s => ?_
  rw [Option.bind_eq_some_iff, parse?_eq_some_iff]
  constructor
  · rintro ⟨email, hemail, hparse⟩
    obtain ⟨hsame, hdomain⟩ := parse?_eq_some_iff.mp hparse
    rw [normalizeEmail_idem hemail] at hsame
    exact ⟨hemail.trans hsame, hdomain⟩
  · rintro ⟨hemail, hdomain⟩
    exact ⟨s.email, hemail, parse?_eq_some_iff.mpr ⟨normalizeEmail_idem hemail, hdomain⟩⟩

theorem normal_email {text : String} {s : Sender} (h : parse? text = some s) :
    Normal s.email.toList := (normalizeEmail_eq_some (parse?_eq_some_iff.mp h).1).1

theorem extractDomain_email {text : String} {s : Sender} (h : parse? text = some s) :
    extractDomain s.email = some s.domain := (parse?_eq_some_iff.mp h).2

theorem lower_trim_email {text : String} {s : Sender} (h : parse? text = some s) :
    Text.lower (Text.trim s.email) = s.email := by
  have hnormal := normal_email h
  rw [← String.toList_inj, Text.toList_lower, Text.toList_trim,
    Text.trimChars_of_trimmed hnormal.trimmed, Text.lowerChars_of_isSmall hnormal.small]

theorem email_ne_empty {text : String} {s : Sender} (h : parse? text = some s) : s.email ≠ "" := by
  intro hempty
  obtain ⟨-, -, front, hfront⟩ := extractDomain_eq_some_iff.mp (extractDomain_email h)
  rw [hempty] at hfront
  exact List.append_ne_nil_of_right_ne_nil front (List.cons_ne_nil _ _) hfront.symm

end Sender
end MailTriage
