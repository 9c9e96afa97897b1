import MailTriage.Json.Relaxed
import MailTriage.Proofs.Json.Compact

/-! # Compact JSON read by the relaxed reader

The relaxed reader takes more texts than the strict one, but what is written without gaps it reads
the same way (`read?_compact`): no character of such a text starts a comment or a name without
quotes, and each escape and each number is one that both readers know.  The relaxed reader has no
room for more than a thousand arrays and objects inside each other, so the value must not be nested
too deeply (`isProper`).
-/
namespace MailTriage.Json.Relaxed

open Text

/-! ### Gaps -/

theorem skip_cons {c : Char} (hslash : c ≠ '/') (hblank : isBlank c = false) (cs : List Char) :
    skip (c :: cs) = c :: cs := by
  have hgap : afterGap? (c :: cs) = none := by
    rw [afterGap?.eq_def]
    split
    · next h => exact absurd (List.cons.inj h).1 hslash
    · next h => exact absurd (List.cons.inj h).1 hslash
    · next h =>
      obtain ⟨rfl, rfl⟩ := List.cons.inj h
      rw [hblank]
      rfl
    · next h => cases h
  rw [skip, List.length_cons, skipGaps, hgap]

/-- No gap starts with a character that a value may start with. -/
theorem skip_of_startsValue {c : Char} (h : startsValue c = true) (cs : List Char) :
    skip (c :: cs) = c :: cs := by
  simp only [startsValue, Bool.or_eq_true, decide_eq_true_eq] at h
  rcases h with ((((((rfl | rfl) | rfl) | rfl) | rfl) | rfl) | rfl) | h
  all_goals try exact skip_cons (by decide) (by decide) cs
  have hcode : 48 ≤ c.toNat ∧ c.toNat ≤ 57 := by
    simp only [isDigit, Bool.and_eq_true, decide_eq_true_eq] at h
    exact h
  refine skip_cons ?_ ?_ cs
  · rintro rfl
    exact absurd hcode.1 (by decide)
  · simp only [isBlank, Bool.or_eq_false_iff, Bool.and_eq_false_iff, decide_eq_false_iff_not]
    omega

/-- The characters end here, or with the next one a part of an array or an object ends. -/
def PartEnds (rest : List Char) : Prop := ∀ c ∈ rest.head?, c = ',' ∨ c = ']' ∨ c = '}'

theorem partEnds_cons {c : Char} (h : c = ',' ∨ c = ']' ∨ c = '}') (rest : List Char) :
    PartEnds (c :: rest) := by
  intro d hd
  cases hd
  exact h

theorem skip_mark {c : Char} (h : c = ',' ∨ c = ']' ∨ c = '}' ∨ c = ':') (cs : List Char) :
    skip (c :: cs) = c :: cs := by
  rcases h with rfl | rfl | rfl | rfl <;> exact skip_cons (by decide) (by decide) cs

/-! ### Texts -/

theorem textBody_letter {letter c : Char} (h : Json.shortEscape letter = some c)
    (hu : letter ≠ 'u') (rest : List Char) :
    textBody '"' ('\\' :: letter :: rest) = push c.toNat (textBody '"' rest) := by
  have hline : isLineEnd letter = false := by
    refine Bool.eq_false_iff.mpr fun hline => ?_
    simp only [isLineEnd, Bool.or_eq_true, decide_eq_true_eq] at hline
    rcases hline with ((rfl | rfl) | rfl) | rfl <;> cases h
  have hescape : shortEscape letter = some c := by
    rw [shortEscape, if_neg, if_neg, if_neg, h]
    all_goals
      rintro rfl
      cases h
  rw [textBody]
  · rw [hline, hescape]
    rfl
  · rintro _ rfl
    cases h
  · intro _ _ _ _ _ heq
    exact absurd heq hu
  · rintro _ _ _ rfl
    cases h

theorem textBody_number {c : Char} (h : c.toNat < 0x20) (rest : List Char) :
    textBody '"' ('\\' :: 'u' :: hexDigits 4 c.toNat ++ rest)
      = push c.toNat (textBody '"' rest) := by
  obtain ⟨x, y, z, w, hdigits, hvalue⟩ := hexValue4_hexDigits (n := c.toNat) (by omega)
  simp only [hdigits, List.cons_append, List.nil_append]
  rw [textBody, hvalue]
  rfl

theorem textBody_plain {c : Char} (hquote : c ≠ '"') (hbackslash : c ≠ '\\')
    (hcontrol : 0x20 ≤ c.toNat) (rest : List Char) :
    textBody '"' (c :: rest) = push c.toNat (textBody '"' rest) := by
  rw [textBody.eq_def]
  split
  · next h => cases h
  all_goals try exact absurd (List.cons.inj ‹_›).1 hbackslash
  next h =>
    cases h
    rw [if_neg hquote, if_neg (Nat.not_lt.mpr hcontrol)]

theorem textBody_escaped (c : Char) (rest : List Char) :
    textBody '"' (escaped c ++ rest) = push c.toNat (textBody '"' rest) := by
  rcases escaped_cases c with ⟨letter, h, hletter, hu, -⟩ | ⟨h, hcontrol⟩
    | ⟨h, hquote, hbackslash, hcontrol⟩
  · rw [h]
    exact textBody_letter hletter hu rest
  · rw [h]
    exact textBody_number hcontrol rest
  · rw [h]
    exact textBody_plain hquote hbackslash hcontrol rest

theorem textBody_quoted (cs rest : List Char) :
    textBody '"' (cs.flatMap escaped ++ '"' :: rest) = some (cs.map Char.toNat, rest) := by
  induction cs with
  | nil => simp [textBody]
  | cons c cs ih =>
    rw [List.flatMap_cons, List.append_assoc, textBody_escaped, ih]
    rfl

/-- No character is half of a surrogate pair. -/
theorem joinPairs?_toNat (cs : List Char) : joinPairs? (cs.map Char.toNat) = some cs := by
  induction cs with
  | nil => rfl
  | cons c cs ih =>
    have hvalid : c.toNat < 0xD800 ∨ 0xDFFF < c.toNat := by
      rcases c.valid with h | h
      · exact .inl h
      · exact .inr h.1
    have hhigh : isHighSurrogate c.toNat = false := by
      simp only [isHighSurrogate, Bool.and_eq_false_iff, decide_eq_false_iff_not]
      omega
    have hlow : isLowSurrogate c.toNat = false := by
      simp only [isLowSurrogate, Bool.and_eq_false_iff, decide_eq_false_iff_not]
      omega
    rw [List.map_cons, joinPairs?.eq_def]
    simp only [hlow, hhigh, ih, Bool.false_eq_true, if_false, Char.ofNat_toNat]
    rfl

/-! ### Values without parts -/

theorem leaf_quoted (s : String) (rest : List Char) :
    leaf (quoted s ++ rest) = some (.text s, rest) := by
  have hquoted : quoted s ++ rest = '"' :: (s.toList.flatMap escaped ++ '"' :: rest) := by
    simp [quoted]
  rw [hquoted, leaf]
  simp only [textBody_quoted, bind, Option.bind]
  rw [ofCodes, joinPairs?_toNat]
  simp only [String.ofList_toList]
  rfl

theorem PartEnds.numberEnds {rest : List Char} (h : PartEnds rest) : NumberEnds rest := by
  cases rest with
  | nil => exact fun _ hc => nomatch hc
  | cons c rest => exact numberEnds_cons (h c rfl) rest

theorem exponentPart_of_numberEnds {rest : List Char} (h : NumberEnds rest) :
    exponentPart rest = some ([], rest) := by
  cases rest with
  | nil => rfl
  | cons c rest =>
    obtain ⟨-, -, he, hE⟩ := h c rfl
    rw [exponentPart]
    simp [he, hE]

/-- Decimal digits have no zero in front of other digits. -/
theorem not_zero_in_front (n : Nat) :
    (decide (1 < (Text.decimalChars n).length) && decide ((Text.decimalChars n).head? = some '0'))
      = false := by
  rcases Nat.eq_zero_or_pos n with rfl | hn
  · rfl
  · obtain ⟨c, ds, heq, hzero⟩ := exists_cons_decimalChars hn
    rw [heq]
    simp [hzero]

theorem decimalText_decimalChars (n : Nat) {rest : List Char} (hrest : NumberEnds rest) :
    decimalText (Text.decimalChars n ++ rest) = some (Text.decimalChars n, rest) := by
  have hdigits : ∀ c ∈ Text.decimalChars n, isDigit c = true :=
    fun _ hc => isDigit_of_mem_decimalChars hc
  have hend : ∀ c ∈ rest.head?, isDigit c = false := fun c hc => (hrest c hc).1
  have htake := takeWhile_isDigit_append hdigits hend
  have hdrop := dropWhile_isDigit_append hdigits hend
  have hempty : (Text.decimalChars n).isEmpty = false :=
    List.isEmpty_eq_false_iff.mpr (decimalChars_ne_nil n)
  rw [decimalText]
  simp only [htake, hdrop]
  split
  · next left =>
    exact absurd rfl (hrest '.' rfl).2.1
  · simp only [hempty, not_zero_in_front, exponentPart_of_numberEnds hrest, Bool.false_and,
      Bool.false_eq_true, if_false, bind, Option.bind, pure, List.append_nil]

theorem afterWord?_inf_of_isDigit {c : Char} (h : isDigit c = true) (cs : List Char) :
    afterWord? "inf".toList (c :: cs) = none := by
  have hlower : c.toLower ≠ 'i' := by
    have hall : ∀ d, d < 10 → (Char.ofNat (48 + d)).toLower ≠ 'i' := by decide
    have hcode : 48 ≤ c.toNat ∧ c.toNat ≤ 57 := by
      simp only [isDigit, Bool.and_eq_true, decide_eq_true_eq] at h
      exact h
    have hc := hall (c.toNat - 48) (by omega)
    rwa [Nat.add_sub_cancel' hcode.1, Char.ofNat_toNat] at hc
  rw [afterWord?, if_neg]
  intro heq
  have hhead := congrArg List.head? heq
  exact hlower (Option.some_inj.mp hhead)

theorem number_decimalChars (negative : Bool) (n : Nat) {rest : List Char} (hrest : PartEnds rest) :
    number negative (Text.decimalChars n ++ rest)
      = some (decimalNumber (if negative then '-' :: Text.decimalChars n else Text.decimalChars n),
        rest) := by
  have hdecimal : number.decimal negative (Text.decimalChars n ++ rest)
      = some (decimalNumber (if negative then '-' :: Text.decimalChars n else Text.decimalChars n),
        rest) := by
    rw [number.decimal, decimalText_decimalChars n hrest.numberEnds]
    rfl
  rw [← hdecimal, number.eq_def]
  split
  · next x d left heq =>
    -- a zero in front is the whole number, so no mark of a hexadecimal number follows it
    have hx : x = ',' ∨ x = ']' ∨ x = '}' := by
      rcases Nat.eq_zero_or_pos n with rfl | hn
      · have htail : rest = x :: d :: left := (List.cons.inj heq).2
        exact hrest x (by rw [htail]; rfl)
      · obtain ⟨c, ds, hds, hzero⟩ := exists_cons_decimalChars hn
        rw [hds] at heq
        exact absurd (List.cons.inj heq).1 hzero
    rcases hx with rfl | rfl | rfl <;> rfl
  · next cs heq =>
    obtain ⟨c, ds, hds⟩ := List.exists_cons_of_ne_nil (decimalChars_ne_nil n)
    have hc : isDigit c = true := isDigit_of_mem_decimalChars (hds ▸ List.mem_cons_self)
    rw [hds, List.cons_append, afterWord?_inf_of_isDigit hc]

/-- **An integer reads back as it was.** -/
theorem leaf_decimalInt (n : Int) {rest : List Char} (hrest : PartEnds rest) :
    leaf ((decimalInt n).toList ++ rest) = some (.integer n, rest) := by
  have hvalue : decimalNumber (decimalInt n).toList = .integer n := by
    rw [decimalNumber, integerOf?_decimalInt]
  rw [toList_decimalInt] at hvalue ⊢
  by_cases hneg : n < 0
  · rw [if_pos hneg] at hvalue ⊢
    rw [List.cons_append, leaf, number_decimalChars true n.natAbs hrest]
    simp only [if_true, hvalue]
  · rw [if_neg hneg] at hvalue ⊢
    obtain ⟨c, ds, hds⟩ := List.exists_cons_of_ne_nil (decimalChars_ne_nil n.natAbs)
    have hc : isDigit c = true := isDigit_of_mem_decimalChars (hds ▸ List.mem_cons_self)
    have hnumber := number_decimalChars false n.natAbs hrest
    rw [if_neg Bool.false_ne_true, hvalue] at hnumber
    rw [← hnumber, hds, List.cons_append, leaf.eq_def]
    split
    all_goals try (next heq => obtain rfl := (List.cons.inj heq).1; cases hc)
    next heq =>
      rw [List.head?_cons, Option.any_some, hc, Bool.or_true, if_pos rfl]

/-- A word is read only where no letter or digit follows it. -/
theorem head?_any_isAlphanum {rest : List Char} (h : PartEnds rest) :
    rest.head?.any Char.isAlphanum = false := by
  cases rest with
  | nil => rfl
  | cons c rest =>
    rcases h c rfl with rfl | rfl | rfl <;> rfl

theorem word_of_literal {cs rest : List Char} {json : Json}
    (hliteral : literals.findSome? (fun (spelling, json) =>
      if spelling.toList.isPrefixOf cs then some (json, cs.drop spelling.length) else none)
        = some (json, rest))
    (h : PartEnds rest) : word cs = some (json, rest) := by
  rw [word]
  simp only [hliteral, head?_any_isAlphanum h]
  rfl

theorem leaf_null {rest : List Char} (h : PartEnds rest) :
    leaf (leafChars .null ++ rest) = some (.null, rest) := by
  show word ('n' :: 'u' :: 'l' :: 'l' :: rest) = _
  exact word_of_literal rfl h

theorem leaf_bool (b : Bool) {rest : List Char} (h : PartEnds rest) :
    leaf (leafChars (.bool b) ++ rest) = some (.bool b, rest) := by
  cases b with
  | true =>
    show word ('t' :: 'r' :: 'u' :: 'e' :: rest) = _
    exact word_of_literal rfl h
  | false =>
    show word ('f' :: 'a' :: 'l' :: 's' :: 'e' :: rest) = _
    exact word_of_literal rfl h

/-! ### One step of the reader -/

section
variable {room fuel : Nat} {cs rest : List Char}

theorem value_leaf {c : Char} (hc : startsValue c = true) (harray : c ≠ '[') (hobject : c ≠ '{') :
    value room (fuel + 1) (c :: cs) = leaf (c :: cs) := by
  rw [value, skip_of_startsValue hc]
  all_goals
    intro left
    rw [skip_of_startsValue hc]
    intros
    next h => first | exact harray (List.cons.inj h).1 | exact hobject (List.cons.inj h).1

theorem value_array {parts : List Json} (h : items room fuel cs = some (parts, rest)) :
    value (room + 1) (fuel + 1) ('[' :: cs) = some (.array parts, rest) := by
  have hopen : skip ('[' :: cs) = '[' :: cs := skip_of_startsValue rfl cs
  simp only [value, hopen, h, bind, Option.bind]
  rfl

theorem value_object {parts : List (String × Json)}
    (h : members room fuel cs = some (some parts, rest)) :
    value (room + 1) (fuel + 1) ('{' :: cs) = some (.object parts, rest) := by
  have hopen : skip ('{' :: cs) = '{' :: cs := skip_of_startsValue rfl cs
  simp only [value, hopen, h, bind, Option.bind]
  rfl

theorem items_end : items room (fuel + 1) (']' :: rest) = some ([], rest) := by
  have hclose : skip (']' :: rest) = ']' :: rest := skip_mark (.inr (.inl rfl)) rest
  simp only [items, hclose]

theorem members_end : members room (fuel + 1) ('}' :: rest) = some (some [], rest) := by
  have hclose : skip ('}' :: rest) = '}' :: rest := skip_mark (.inr (.inr (.inl rfl))) rest
  simp only [members, hclose]

theorem items_last {item : Json} {c : Char} (hc : startsValue c = true)
    (h : value room fuel (c :: cs) = some (item, ']' :: rest)) :
    items room (fuel + 1) (c :: cs) = some ([item], rest) := by
  have hclose : skip (']' :: rest) = ']' :: rest := skip_mark (.inr (.inl rfl)) rest
  rw [items, skip_of_startsValue hc]
  split
  · next heq => exact absurd (List.cons.inj heq).1 (startsValue_spec hc).2.1
  · simp only [h, bind, Option.bind, hclose]
    rfl

theorem items_comma {item : Json} {more : List Json} {c : Char} {left : List Char}
    (hc : startsValue c = true) (h : value room fuel (c :: cs) = some (item, ',' :: left))
    (hmore : items room fuel left = some (more, rest)) :
    items room (fuel + 1) (c :: cs) = some (item :: more, rest) := by
  have hcomma : skip (',' :: left) = ',' :: left := skip_mark (.inl rfl) left
  rw [items, skip_of_startsValue hc]
  split
  · next heq => exact absurd (List.cons.inj heq).1 (startsValue_spec hc).2.1
  · simp only [h, bind, Option.bind, hcomma, hmore]
    rfl

theorem name_quoted (s : String) (left : List Char) :
    name (quoted s ++ left) = some (s.toList.map Char.toNat, left) := by
  have hquoted : quoted s ++ left = '"' :: (s.toList.flatMap escaped ++ '"' :: left) := by
    simp [quoted]
  rw [hquoted]
  exact textBody_quoted s.toList left

theorem colon_cons (left : List Char) : colon (':' :: left) = some ((), left) := by
  have hcolon : skip (':' :: left) = ':' :: left := skip_mark (.inr (.inr (.inr rfl))) left
  simp only [colon, hcolon]

theorem members_last {s : String} {item : Json}
    (h : value room fuel cs = some (item, '}' :: rest)) :
    members room (fuel + 1) (quoted s ++ ':' :: cs) = some (some [(s, item)], rest) := by
  have hopen : skip (quoted s ++ ':' :: cs) = quoted s ++ ':' :: cs := skip_of_startsValue rfl _
  have hclose : skip ('}' :: rest) = '}' :: rest := skip_mark (.inr (.inr (.inl rfl))) rest
  rw [members, hopen]
  split
  · next heq => cases heq
  · simp only [bind, Option.bind, name_quoted, colon_cons, h, joinPairs?_toNat, Option.map_some,
      String.ofList_toList, hclose]
    rfl

theorem members_comma {s : String} {item : Json} {more : List (String × Json)} {left : List Char}
    (h : value room fuel cs = some (item, ',' :: left))
    (hmore : members room fuel left = some (some more, rest)) :
    members room (fuel + 1) (quoted s ++ ':' :: cs) = some (some ((s, item) :: more), rest) := by
  have hopen : skip (quoted s ++ ':' :: cs) = quoted s ++ ':' :: cs := skip_of_startsValue rfl _
  have hcomma : skip (',' :: left) = ',' :: left := skip_mark (.inl rfl) left
  rw [members, hopen]
  split
  · next heq => cases heq
  · simp only [bind, Option.bind, name_quoted, colon_cons, h, joinPairs?_toNat, Option.map_some,
      String.ofList_toList, hcomma, hmore]
    rfl

end

/-! ### Whole values -/

mutual

/-- **A plain value reads back as it was**, where a part of an array or an object ends or nothing
follows. -/
theorem value_compactChars : ∀ (json : Json) (depth room fuel : Nat) (rest : List Char),
    json.isPlain = true → json.isProper depth = true → Json.depthLimit ≤ room + depth →
    json.compactChars.length ≤ fuel → PartEnds rest →
    value room fuel (json.compactChars ++ rest) = some (json, rest)
  | json, _, _, 0, rest, _, _, _, hfuel, _ => by
    obtain ⟨c, cs, heq, -⟩ := exists_cons_compactChars json
    rw [heq] at hfuel
    cases hfuel
  | .null, _, _, fuel + 1, rest, _, _, _, _, hrest =>
    (value_leaf rfl (by decide) (by decide)).trans (leaf_null hrest)
  | .bool true, _, _, fuel + 1, rest, _, _, _, _, hrest =>
    (value_leaf rfl (by decide) (by decide)).trans (leaf_bool true hrest)
  | .bool false, _, _, fuel + 1, rest, _, _, _, _, hrest =>
    (value_leaf rfl (by decide) (by decide)).trans (leaf_bool false hrest)
  | .text s, _, _, fuel + 1, rest, _, _, _, _, _ =>
    (value_leaf rfl (by decide) (by decide)).trans (leaf_quoted s rest)
  | .integer n, _, _, fuel + 1, rest, _, _, _, _, hrest => by
    obtain ⟨c, cs, heq, hc⟩ := (isNumeral_decimalInt n).exists_cons
    have hleaf := leaf_decimalInt n hrest
    show value _ (fuel + 1) ((decimalInt n).toList ++ rest) = _
    rw [heq, List.cons_append] at hleaf ⊢
    rw [value_leaf (startsValue_of_number hc), hleaf]
    all_goals
      rintro rfl
      rcases hc with hc | hc <;> cases hc
  | .array parts, depth, room, fuel + 1, rest, hplain, hproper, hroom, hfuel, _ => by
    rw [isPlain] at hplain
    rw [isProper, Bool.and_eq_true, decide_eq_true_eq] at hproper
    rw [compactChars, List.length_append, List.length_cons, List.length_singleton] at hfuel
    -- a value that is not nested too deeply leaves room for its parts
    obtain ⟨room, rfl⟩ : ∃ left, room = left + 1 := ⟨room - 1, by omega⟩
    rw [compactChars, List.cons_append, List.cons_append, List.append_assoc,
      List.singleton_append]
    exact value_array (items_compactItems parts (depth + 1) room fuel rest hplain hproper.2
      (by omega) (by omega))
  | .object parts, depth, room, fuel + 1, rest, hplain, hproper, hroom, hfuel, _ => by
    rw [isPlain] at hplain
    rw [isProper, Bool.and_eq_true, decide_eq_true_eq] at hproper
    rw [compactChars, List.length_append, List.length_cons, List.length_singleton] at hfuel
    obtain ⟨room, rfl⟩ : ∃ left, room = left + 1 := ⟨room - 1, by omega⟩
    rw [compactChars, List.cons_append, List.cons_append, List.append_assoc,
      List.singleton_append]
    exact value_object (members_compactMembers parts (depth + 1) room fuel rest hplain hproper.2
      (by omega) (by omega))

/-- The items of an array read back, up to and with its closing bracket. -/
theorem items_compactItems : ∀ (parts : List Json) (depth room fuel : Nat) (rest : List Char),
    arePlain parts = true → areProper depth parts = true → Json.depthLimit ≤ room + depth →
    (compactItems parts).length < fuel →
    items room fuel (compactItems parts ++ ']' :: rest) = some (parts, rest)
  | _, _, _, 0, _, _, _, _, hfuel => absurd hfuel (Nat.not_lt_zero _)
  | [], _, _, fuel + 1, rest, _, _, _, _ => items_end
  | [item], depth, room, fuel + 1, rest, hplain, hproper, hroom, hfuel => by
    rw [arePlain, Bool.and_eq_true] at hplain
    rw [areProper, Bool.and_eq_true] at hproper
    rw [compactItems] at hfuel ⊢
    obtain ⟨c, cs, heq, hc⟩ := exists_cons_compactChars item
    have hvalue := value_compactChars item depth room fuel (']' :: rest) hplain.1 hproper.1 hroom
      (Nat.le_of_lt_succ hfuel) (partEnds_cons (.inr (.inl rfl)) rest)
    rw [heq, List.cons_append] at hvalue ⊢
    exact items_last hc hvalue
  | item :: next :: more, depth, room, fuel + 1, rest, hplain, hproper, hroom, hfuel => by
    rw [arePlain, Bool.and_eq_true] at hplain
    rw [areProper, Bool.and_eq_true] at hproper
    rw [compactItems_cons_cons, List.length_append, List.length_cons] at hfuel
    obtain ⟨c, cs, heq, hc⟩ := exists_cons_compactChars item
    have hmore := items_compactItems (next :: more) depth room fuel rest hplain.2 hproper.2 hroom
      (by omega)
    have hvalue := value_compactChars item depth room fuel
      (',' :: (compactItems (next :: more) ++ ']' :: rest)) hplain.1 hproper.1 hroom (by omega)
      (partEnds_cons (.inl rfl) _)
    rw [compactItems_cons_cons, List.append_assoc, List.cons_append]
    rw [heq, List.cons_append] at hvalue ⊢
    exact items_comma hc hvalue hmore

/-- The members of an object read back, up to and with its closing brace. -/
theorem members_compactMembers : ∀ (parts : List (String × Json)) (depth room fuel : Nat)
    (rest : List Char), havePlain parts = true → haveProper depth parts = true →
    Json.depthLimit ≤ room + depth → (compactMembers parts).length < fuel →
    members room fuel (compactMembers parts ++ '}' :: rest) = some (some parts, rest)
  | _, _, _, 0, _, _, _, _, hfuel => absurd hfuel (Nat.not_lt_zero _)
  | [], _, _, fuel + 1, rest, _, _, _, _ => members_end
  | [(name, v)], depth, room, fuel + 1, rest, hplain, hproper, hroom, hfuel => by
    rw [havePlain, Bool.and_eq_true] at hplain
    rw [haveProper, Bool.and_eq_true] at hproper
    rw [compactMembers, List.length_append, List.length_cons] at hfuel
    rw [compactMembers, List.append_assoc, List.cons_append]
    exact members_last (value_compactChars v depth room fuel ('}' :: rest) hplain.1 hproper.1 hroom
      (by omega) (partEnds_cons (.inr (.inr rfl)) rest))
  | (name, v) :: next :: more, depth, room, fuel + 1, rest, hplain, hproper, hroom, hfuel => by
    rw [havePlain, Bool.and_eq_true] at hplain
    rw [haveProper, Bool.and_eq_true] at hproper
    rw [compactMembers_cons_cons, List.length_append, List.length_append, List.length_cons,
      List.length_cons] at hfuel
    have hmore := members_compactMembers (next :: more) depth room fuel rest hplain.2 hproper.2
      hroom (by omega)
    have hvalue := value_compactChars v depth room fuel
      (',' :: (compactMembers (next :: more) ++ '}' :: rest)) hplain.1 hproper.1 hroom (by omega)
      (partEnds_cons (.inl rfl) _)
    rw [compactMembers_cons_cons]
    simp only [List.append_assoc, List.cons_append]
    exact members_comma hvalue hmore

end

/-- **What was written without gaps is read by the relaxed reader as it was.** -/
theorem read?_compact {json : Json} (hplain : json.isPlain = true)
    (hproper : json.isProper 0 = true) : read? json.compact = some json := by
  have hvalue := value_compactChars json 0 depthLimit (2 * json.compact.length + 2) [] hplain
    hproper (by decide) (by
      rw [compact, String.length_ofList]
      omega) (fun _ hc => nomatch hc)
  rw [List.append_nil] at hvalue
  have htext : json.compact.toList = json.compactChars := String.toList_ofList
  simp only [read?, htext, hvalue, bind, Option.bind]
  rfl

end MailTriage.Json.Relaxed
