import MailTriage.Proofs.Domain

/-! # Broad domains by their labels

Apart from the providers, whether a domain is broad is a matter of its labels, the parts between its
dots: there is one label, not empty, and behind it those of an open suffix (`isApex_iff_labels`).

A subdomain of a broad domain is never broad.  Normalizing it keeps what stands behind its first dot
(`exists_normalizeDomain_subdomain`), and for the subdomain to be broad that would have to be an open
suffix or the rest of a provider's domain; none of these is broad itself (`not_broad_names`).
-/
namespace MailTriage

/-! ### Labels -/

/-- The labels of a domain: the parts between its dots. -/
def labels (domain : String) : List String := (domain.toList.splitOn '.').map String.ofList

theorem toList_append_dot (label rest : String) :
    (label ++ "." ++ rest).toList = label.toList ++ '.' :: rest.toList := by simp

theorem labels_append {label : String} (h : '.' ∉ label.toList) (rest : String) :
    labels (label ++ "." ++ rest) = label :: labels rest := by
  rw [labels, toList_append_dot, List.splitOn_append_cons_self_of_not_mem h, List.map_cons,
    String.ofList_toList, labels]

theorem labels_inj {domain other : String} : labels domain = labels other ↔ domain = other := by
  refine ⟨fun h => ?_, congrArg labels⟩
  have hsplit : domain.toList.splitOn '.' = other.toList.splitOn '.' :=
    (List.map_inj_right fun _ _ => String.ofList_injective).mp h
  have hjoined : ['.'].intercalate (domain.toList.splitOn '.')
      = ['.'].intercalate (other.toList.splitOn '.') := congrArg _ hsplit
  rwa [List.intercalate_splitOn, List.intercalate_splitOn, String.toList_inj] at hjoined

/-- A domain is a single label, or its first label ends at a dot. -/
theorem label_cases (domain : String) :
    '.' ∉ domain.toList
      ∨ ∃ label rest : String, '.' ∉ label.toList ∧ domain = label ++ "." ++ rest := by
  by_cases h : '.' ∈ domain.toList
  · obtain ⟨front, back, hdomain, hfront⟩ := List.eq_append_cons_of_mem h
    refine .inr ⟨String.ofList front, String.ofList back, by rwa [String.toList_ofList], ?_⟩
    rw [← String.toList_inj, toList_append_dot, String.toList_ofList, String.toList_ofList, hdomain]
  · exact .inl h

/-! ### Open suffixes -/

/-- The open suffixes without their leading dot. -/
def openNames : List String := ["com", "net", "org", "co.jp", "ne.jp"]

theorem openSuffixes_eq : openSuffixes = openNames.map ("." ++ ·) := by decide

theorem ne_dot_of_mem {cs : List Char} (h : '.' ∉ cs) : ∀ c ∈ cs, decide (c ≠ '.') = true :=
  fun _ hc => decide_eq_true fun hdot => h (hdot ▸ hc)

theorem takeWhile_label {label : String} (h : '.' ∉ label.toList) (rest : String) :
    (label ++ "." ++ rest).toList.takeWhile (· ≠ '.') = label.toList := by
  rw [toList_append_dot, List.takeWhile_append_of_pos (ne_dot_of_mem h),
    List.takeWhile_cons_of_neg (by decide), List.append_nil]

theorem dropWhile_label {label : String} (h : '.' ∉ label.toList) (rest : String) :
    (label ++ "." ++ rest).toList.dropWhile (· ≠ '.') = '.' :: rest.toList := by
  rw [toList_append_dot, List.dropWhile_append_of_pos (ne_dot_of_mem h),
    List.dropWhile_cons_of_neg (by decide)]

theorem isApex_append {label : String} (h : '.' ∉ label.toList) (rest : String) :
    isApex (label ++ "." ++ rest) = true ↔ label ≠ "" ∧ rest ∈ openNames := by
  have hsuffix : ∀ name : String, ("." ++ name).toList = '.' :: rest.toList ↔ name = rest := by
    intro name
    rw [String.toList_append, ← String.toList_inj]
    exact List.cons_inj_right '.'
  rw [isApex]
  simp only [takeWhile_label h, dropWhile_label h, openSuffixes_eq, Bool.and_eq_true,
    Bool.not_eq_true', List.isEmpty_eq_false_iff, ne_eq, String.toList_eq_nil_iff, List.any_map,
    List.any_eq_true, Function.comp_apply, beq_iff_eq, hsuffix, exists_eq_right]

theorem isApex_of_dot_not_mem {domain : String} (h : '.' ∉ domain.toList) :
    isApex domain = false := by
  have hdrop : (domain.toList ++ []).dropWhile (· ≠ '.') = [] :=
    List.dropWhile_append_of_pos (ne_dot_of_mem h)
  rw [List.append_nil] at hdrop
  rw [isApex]
  simp only [hdrop]
  rw [show (openSuffixes.any fun s => s.toList == []) = false by decide, Bool.and_false]

theorem mem_openNames_iff_labels (rest : String) :
    rest ∈ openNames ↔ (∃ name ∈ ["com", "net", "org"], labels rest = [name])
      ∨ ∃ name ∈ ["co", "ne"], labels rest = [name, "jp"] := by
  have hone : ∀ name ∈ ["com", "net", "org"], labels name = [name] := by decide
  have htwo : ∀ name ∈ ["co", "ne"], labels (name ++ ".jp") = [name, "jp"] := by decide
  constructor
  · intro h
    have hcases : rest ∈ ["com", "net", "org"] ∨ ∃ name ∈ ["co", "ne"], rest = name ++ ".jp" := by
      revert rest
      decide
    rcases hcases with hmem | ⟨name, hmem, rfl⟩
    · exact .inl ⟨rest, hmem, hone rest hmem⟩
    · exact .inr ⟨name, hmem, htwo name hmem⟩
  · rintro (⟨name, hmem, hrest⟩ | ⟨name, hmem, hrest⟩)
    · obtain rfl := labels_inj.mp (hrest.trans (hone name hmem).symm)
      exact List.mem_append_left ["co.jp", "ne.jp"] hmem
    · obtain rfl := labels_inj.mp (hrest.trans (htwo name hmem).symm)
      revert name
      decide

/-- **An apex domain has one label in front of those of an open suffix.** -/
theorem isApex_iff_labels (domain : String) :
    isApex domain = true ↔ ∃ label, label ≠ "" ∧
      ((∃ name ∈ ["com", "net", "org"], labels domain = [label, name])
        ∨ ∃ name ∈ ["co", "ne"], labels domain = [label, name, "jp"]) := by
  rcases label_cases domain with hnone | ⟨first, rest, hfirst, rfl⟩
  · have hone : labels domain = [domain] := by
      rw [labels, List.splitOn_eq_singleton hnone, List.map_singleton, String.ofList_toList]
    simp [isApex_of_dot_not_mem hnone, hone]
  · rw [isApex_append hfirst, labels_append hfirst, mem_openNames_iff_labels]
    constructor
    · rintro ⟨hne, ⟨name, hmem, hrest⟩ | ⟨name, hmem, hrest⟩⟩
      · exact ⟨first, hne, .inl ⟨name, hmem, congrArg _ hrest⟩⟩
      · exact ⟨first, hne, .inr ⟨name, hmem, congrArg _ hrest⟩⟩
    · rintro ⟨label, hne, ⟨name, hmem, hrest⟩ | ⟨name, hmem, hrest⟩⟩
      · obtain ⟨rfl, hname⟩ := List.cons.inj hrest
        exact ⟨hne, .inl ⟨name, hmem, hname⟩⟩
      · obtain ⟨rfl, hname⟩ := List.cons.inj hrest
        exact ⟨hne, .inr ⟨name, hmem, hname⟩⟩

/-! ### Subdomains -/

/-- A subdomain keeps the domain behind its first dot when it is normalized. -/
theorem exists_normalizeDomain_subdomain {label domain : String}
    (hdomain : normalizeDomain domain = domain) (hempty : domain ≠ "") (hlabel : label ≠ "")
    (hdot : '.' ∉ label.toList) (hblank : ∀ c ∈ label.toList, Text.isBlank c = false)
    (hat : label.toList.head? ≠ some '@') :
    ∃ small : String, '.' ∉ small.toList
      ∧ normalizeDomain (label ++ "." ++ domain) = small ++ "." ++ domain := by
  have hback : ∀ c ∈ '.' :: domain.toList, Text.isSmall c = true := by
    intro c hc
    rcases List.mem_cons.mp hc with rfl | hc
    · exact Text.isSmall_of_isMark (by decide)
    · exact isSmall_of_mem_normalizeDomain (hdomain.symm ▸ hc)
  have hfirst : (label.toList ++ '.' :: domain.toList).head? = label.toList.head? := by
    obtain ⟨c, rest, hchars⟩ :=
      List.exists_cons_of_ne_nil (mt String.toList_eq_nil_iff.mp hlabel)
    rw [hchars]
    rfl
  have htrimmed : Text.Trimmed (label.toList ++ '.' :: domain.toList) := by
    refine ⟨fun c hc => hblank c (List.mem_of_mem_head? (hfirst ▸ hc)), fun c hc => ?_⟩
    obtain ⟨last, hlast⟩ := Option.isSome_iff_exists.mp
      (List.getLast?_isSome.mpr (mt String.toList_eq_nil_iff.mp hempty))
    rw [List.getLast?_append, List.getLast?_cons, hlast] at hc
    obtain rfl : last = c := Option.some_inj.mp hc
    exact last_normalizeDomain domain last (hdomain.symm ▸ hlast)
  obtain ⟨small, hsmall, hmarks⟩ := Text.exists_lowerAfter_append hback [] label.toList
  have hlower : Text.lowerChars (label.toList ++ '.' :: domain.toList)
      = small ++ '.' :: domain.toList := hsmall
  have hstart : ∀ c, Text.isMark c = true → label.toList.head? ≠ some c →
      c ∉ (small ++ '.' :: domain.toList).head? := by
    intro c hmark hnot hc
    rw [← hlower] at hc
    exact hnot (hfirst ▸ Text.head_lowerChars_of_isMark hc hmark)
  refine ⟨String.ofList small, fun h => ?_, ?_⟩
  · rw [String.toList_ofList] at h
    exact hdot (hmarks '.' h (by decide))
  · rw [← String.toList_inj, toList_normalizeDomain, toList_append_dot, toList_append_dot,
      normalDomainChars, Text.trimChars_of_trimmed htrimmed, hlower,
      Text.stripStart_of_head (hstart '@' (by decide) hat),
      Text.stripStart_of_head (hstart '.' (by decide) fun h => hdot (List.mem_of_mem_head? h)),
      String.toList_ofList]

/-- What stands behind the first dot of a domain. -/
def behindFirstDot (domain : String) : String :=
  String.ofList ((domain.toList.dropWhile (· ≠ '.')).drop 1)

/-- Neither an open suffix nor the rest of a provider's domain is broad. -/
theorem not_broad_names : ∀ name ∈ openNames ++ publicProviders.map behindFirstDot,
    publicProviders.contains name = false ∧ isApex name = false := by decide

theorem behindFirstDot_append {label : String} (h : '.' ∉ label.toList) (rest : String) :
    behindFirstDot (label ++ "." ++ rest) = rest := by
  rw [behindFirstDot, dropWhile_label h, List.drop_one, List.tail_cons, String.ofList_toList]

theorem mem_names_of_broad {label rest : String} (h : '.' ∉ label.toList)
    (hbroad : (publicProviders.contains (label ++ "." ++ rest)
      || isApex (label ++ "." ++ rest)) = true) :
    rest ∈ openNames ++ publicProviders.map behindFirstDot := by
  rcases Bool.or_eq_true_iff.mp hbroad with hprovider | hapex
  · refine List.mem_append_right _ (List.mem_map.mpr ⟨_, List.contains_iff_mem.mp hprovider, ?_⟩)
    exact behindFirstDot_append h rest
  · exact List.mem_append_left _ ((isApex_append h rest).mp hapex).2

/-- **Broadness goes by whole labels.**  A domain is broad exactly when its normal form is that of a
provider, or one label and then those of an open suffix; and with one label more in front of it, a
broad domain is broad no longer. -/
theorem isBroadDomain_iff_labels (domain : String) :
    (isBroadDomain domain = true ↔ normalizeDomain domain ∈ publicProviders
      ∨ ∃ label, label ≠ "" ∧
        ((∃ name ∈ ["com", "net", "org"], labels (normalizeDomain domain) = [label, name])
          ∨ ∃ name ∈ ["co", "ne"], labels (normalizeDomain domain) = [label, name, "jp"]))
    ∧ (isBroadDomain domain = true → normalizeDomain domain = domain →
      ∀ label : String, label ≠ "" → '.' ∉ label.toList →
        (∀ c ∈ label.toList, Text.isBlank c = false) → label.toList.head? ≠ some '@' →
        isBroadDomain (label ++ "." ++ domain) = false) := by
  constructor
  · rw [isBroadDomain, Bool.or_eq_true, List.contains_iff_mem, isApex_iff_labels]
  · intro hbroad hdomain label hlabel hdot hblank hat
    rw [isBroadDomain, hdomain] at hbroad
    have hempty : domain ≠ "" := by
      rintro rfl
      revert hbroad
      decide
    obtain ⟨small, hsmall, hnormal⟩ :=
      exists_normalizeDomain_subdomain hdomain hempty hlabel hdot hblank hat
    refine Bool.eq_false_iff.mpr fun hsub => ?_
    rw [isBroadDomain, hnormal] at hsub
    obtain ⟨hprovider, hapex⟩ := not_broad_names domain (mem_names_of_broad hsmall hsub)
    rw [hprovider, hapex] at hbroad
    cases hbroad

/-- A shop's domain, written with a leading `@`, and with a label more in front of it. -/
theorem isBroadDomain_iff_labels_shop :
    isBroadDomain "@Shop.CO.jp" = true ∧ isBroadDomain "shop.co.jp" = true
      ∧ isBroadDomain "EU@x.shop.co.jp" = false := by
  have hshop : isBroadDomain "shop.co.jp" = true :=
    (isBroadDomain_iff_labels _).1.mpr (.inr ⟨"shop", by decide, .inr ⟨"co", by decide,
      by decide +kernel⟩⟩)
  refine ⟨(isBroadDomain_iff_labels _).1.mpr (.inr ⟨"shop", by decide, .inr ⟨"co", by decide,
    by decide +kernel⟩⟩), hshop, ?_⟩
  have hblank : ∀ c ∈ "EU@x".toList, (!Text.isBlank c) = true := List.all_eq_true.mp rfl
  exact (isBroadDomain_iff_labels _).2 hshop (by decide +kernel) "EU@x" (by decide) (by decide)
    (fun c hc => (Bool.not_eq_true' _).mp (hblank c hc)) (by decide)

end MailTriage
