import MailTriage.Proofs.Json.Reread

/-! # Compact JSON read back

A value that is written without gaps is read again part by part (`readUnder_compact`).  A reading
that looks at the meaning needs room for the arrays and objects inside each other
(`Scrutiny.Admits`).  What is written holds no control character, whatever the value's texts hold
(`isShown_of_mem_compact`).
-/
namespace MailTriage.Json

open Text

variable {rounding : Rounding}

/-! ### What separates values -/

/-- Whether a value may start with a character. -/
def startsValue (c : Char) : Bool :=
  c = 'n' || c = 't' || c = 'f' || c = '"' || c = '[' || c = '{' || c = '-' || isDigit c

theorem startsValue_spec {c : Char} (h : startsValue c = true) :
    isGap c = false ∧ c ≠ ']' ∧ c ≠ '}' := by
  simp only [startsValue, Bool.or_eq_true, decide_eq_true_eq] at h
  rcases h with ((((((rfl | rfl) | rfl) | rfl) | rfl) | rfl) | rfl) | h
  all_goals try decide
  refine ⟨?_, ?_, ?_⟩
  · by_cases hgap : isGap c = true
    · simp only [isGap, Bool.or_eq_true, decide_eq_true_eq] at hgap
      rcases hgap with ((rfl | rfl) | rfl) | rfl <;> cases h
    · exact Bool.eq_false_iff.mpr hgap
  · rintro rfl
    cases h
  · rintro rfl
    cases h

theorem startsValue_of_number {c : Char} (h : c = '-' ∨ isDigit c = true) :
    startsValue c = true := by
  rcases h with rfl | h
  · rfl
  · rw [startsValue, h, Bool.or_true]

theorem IsNumeral.startsValue {cs : List Char} (h : IsNumeral cs) :
    ∃ c more, cs = c :: more ∧ Json.startsValue c = true := by
  obtain ⟨c, more, heq, hc⟩ := h.exists_cons
  exact ⟨c, more, heq, startsValue_of_number hc⟩

theorem exists_cons_compactChars (json : Json) :
    ∃ c cs, json.compactChars = c :: cs ∧ startsValue c = true := by
  cases json with
  | null => exact ⟨_, _, rfl, rfl⟩
  | bool b => cases b <;> exact ⟨_, _, rfl, rfl⟩
  | integer n => exact (isNumeral_decimalInt n).startsValue
  | real x => exact (isNumeral_realChars x).startsValue
  | text s => exact ⟨_, _, rfl, rfl⟩
  | broken => exact ⟨_, _, rfl, rfl⟩
  | array items => exact ⟨_, _, rfl, rfl⟩
  | object members => exact ⟨_, _, rfl, rfl⟩

theorem skipGap_cons {c : Char} (h : isGap c = false) (cs : List Char) :
    skipGap (c :: cs) = c :: cs := by
  rw [skipGap, List.dropWhile_cons_of_neg]
  rw [h]
  exact Bool.false_ne_true

theorem numberEnds_cons {c : Char} (h : c = ',' ∨ c = ']' ∨ c = '}') (rest : List Char) :
    NumberEnds (c :: rest) := by
  intro d hd
  cases hd
  rcases h with rfl | rfl | rfl <;> decide

/-! ### What is written -/

theorem compactItems_cons_cons (item next : Json) (more : List Json) :
    compactItems (item :: next :: more)
      = item.compactChars ++ ',' :: compactItems (next :: more) := rfl

theorem compactMembers_cons_cons (name : String) (v : Json) (next : String × Json)
    (more : List (String × Json)) :
    compactMembers ((name, v) :: next :: more)
      = quoted name ++ ':' :: v.compactChars ++ ',' :: compactMembers (next :: more) := rfl

theorem exists_cons_compactItems (item : Json) (more : List Json) :
    ∃ c cs, compactItems (item :: more) = c :: cs ∧ startsValue c = true := by
  obtain ⟨c, cs, heq, hc⟩ := exists_cons_compactChars item
  cases more with
  | nil => exact ⟨c, cs, heq, hc⟩
  | cons next more =>
    refine ⟨c, cs ++ ',' :: compactItems (next :: more), ?_, hc⟩
    rw [compactItems_cons_cons, heq, List.cons_append]

theorem exists_cons_compactMembers (member : String × Json) (more : List (String × Json)) :
    ∃ cs, compactMembers (member :: more) = '"' :: cs := by
  cases more with
  | nil => exact ⟨_, rfl⟩
  | cons next more => exact ⟨_, rfl⟩

/-! ### One step of the reader -/

/-- A reading can take a value, or a part of one, inside some arrays and objects: it looks only at
the form, or all parts of the value have a meaning and there is room for them. -/
def Scrutiny.Admits (scrutiny : Scrutiny) (depth : Nat) (proper : Bool) : Prop :=
  scrutiny = .form ∨ proper = true ∧ ∃ room, scrutiny = .meaning room ∧ depthLimit ≤ room + depth

theorem Scrutiny.Admits.left {scrutiny : Scrutiny} {depth : Nat} {first second : Bool}
    (h : scrutiny.Admits depth (first && second)) : scrutiny.Admits depth first :=
  h.imp_right fun ⟨hproper, hroom⟩ => ⟨(Bool.and_eq_true_iff.mp hproper).1, hroom⟩

theorem Scrutiny.Admits.right {scrutiny : Scrutiny} {depth : Nat} {first second : Bool}
    (h : scrutiny.Admits depth (first && second)) : scrutiny.Admits depth second :=
  h.imp_right fun ⟨hproper, hroom⟩ => ⟨(Bool.and_eq_true_iff.mp hproper).2, hroom⟩

/-- A value that is not nested too deeply leaves room for its parts. -/
theorem Scrutiny.Admits.enter {scrutiny : Scrutiny} {depth : Nat} {proper : Bool}
    (h : scrutiny.Admits depth (depth + 1 < depthLimit && proper)) :
    ∃ inner, scrutiny.enter? = some inner ∧ inner.Admits (depth + 1) proper := by
  rcases h with rfl | ⟨hproper, room, rfl, hroom⟩
  · exact ⟨.form, rfl, .inl rfl⟩
  · rw [Bool.and_eq_true, decide_eq_true_eq] at hproper
    obtain ⟨room, rfl⟩ : ∃ left, room = left + 2 := ⟨room - 2, by omega⟩
    exact ⟨.meaning (room + 1), rfl, .inr ⟨hproper.2, room + 1, rfl, by omega⟩⟩

section
variable {scrutiny inner : Scrutiny} {fuel : Nat} {rest : List Char}

theorem value_numeral {numeral : List Char} (h : IsNumeral numeral) (rest : List Char) :
    value rounding scrutiny (fuel + 1) (numeral ++ rest)
      = number rounding scrutiny.isStrict (numeral ++ rest) := by
  obtain ⟨c, cs, rfl, hc⟩ := h.exists_cons
  have hnot : ∀ d, (d = '-' || isDigit d) = false → c ≠ d := by
    rintro d hd rfl
    rw [Bool.or_eq_false_iff, decide_eq_false_iff_not] at hd
    rcases hc with hc | hc
    · exact hd.1 hc
    · rw [hc] at hd
      cases hd.2
  rw [List.cons_append, value, skipGap_cons (startsValue_spec (startsValue_of_number hc)).1]
  split
  · next heq => cases heq
  · next heq => exact absurd (List.cons.inj heq).1 (hnot _ rfl)
  · next heq => exact absurd (List.cons.inj heq).1 (hnot _ rfl)
  · next heq => exact absurd (List.cons.inj heq).1 (hnot _ rfl)
  · next heq => exact absurd (List.cons.inj heq).1 (hnot _ rfl)
  · next heq => exact absurd (List.cons.inj heq).1 (hnot _ rfl)
  · next heq => exact absurd (List.cons.inj heq).1 (hnot _ rfl)
  · next heq =>
    cases heq
    rw [if_pos (by simpa using hc)]

theorem value_quoted (s : String) (rest : List Char) :
    value rounding scrutiny (fuel + 1) (quoted s ++ rest) = .ok (.text s, rest) := by
  have hquoted : quoted s ++ rest = '"' :: (s.toList.flatMap escaped ++ '"' :: rest) := by
    simp [quoted]
  rw [hquoted, value, skipGap_cons rfl]
  simp only [textBody_quoted, bind, Except.bind]
  rw [Option.map_some, String.ofList_toList]
  rfl

theorem value_no_items (henter : scrutiny.enter? = some inner) (rest : List Char) :
    value rounding scrutiny (fuel + 1) ('[' :: ']' :: rest) = .ok (.array [], rest) := by
  have hopen : skipGap ('[' :: ']' :: rest) = '[' :: ']' :: rest := skipGap_cons rfl _
  rw [value, hopen]
  simp only [henter]
  rfl

theorem value_items (henter : scrutiny.enter? = some inner) (item : Json) (more : List Json)
    (rest : List Char) :
    value rounding scrutiny (fuel + 1) ((Json.array (item :: more)).compactChars ++ rest)
      = (items rounding inner fuel (compactItems (item :: more) ++ ']' :: rest)).map
        fun (items, left) => (.array items, left) := by
  -- the reader looks for a closing bracket first, so the first character has to be known
  obtain ⟨c, cs, heq, hc⟩ := exists_cons_compactItems item more
  obtain ⟨hgap, hbracket, -⟩ := startsValue_spec hc
  have hopen : skipGap ('[' :: c :: (cs ++ ']' :: rest)) = '[' :: c :: (cs ++ ']' :: rest) :=
    skipGap_cons rfl _
  rw [compactChars, List.cons_append, List.cons_append, List.append_assoc, List.singleton_append,
    heq, List.cons_append, value, hopen]
  simp only [henter, skipGap_cons hgap]
  split
  · next heq => cases heq
  · next heq => exact absurd (List.cons.inj heq).1 hbracket
  · rfl

theorem value_no_members (henter : scrutiny.enter? = some inner) (rest : List Char) :
    value rounding scrutiny (fuel + 1) ('{' :: '}' :: rest) = .ok (.object [], rest) := by
  have hopen : skipGap ('{' :: '}' :: rest) = '{' :: '}' :: rest := skipGap_cons rfl _
  rw [value, hopen]
  simp only [henter]
  rfl

theorem value_members (henter : scrutiny.enter? = some inner) (first : String × Json)
    (more : List (String × Json)) (rest : List Char) :
    value rounding scrutiny (fuel + 1) ((Json.object (first :: more)).compactChars ++ rest)
      = (members rounding inner fuel (compactMembers (first :: more) ++ '}' :: rest)).map
        fun (members?, left) => ((members?.map Json.object).getD .broken, left) := by
  obtain ⟨cs, heq⟩ := exists_cons_compactMembers first more
  have hopen : skipGap ('{' :: '"' :: (cs ++ '}' :: rest)) = '{' :: '"' :: (cs ++ '}' :: rest) :=
    skipGap_cons rfl _
  have hquote : skipGap ('"' :: (cs ++ '}' :: rest)) = '"' :: (cs ++ '}' :: rest) :=
    skipGap_cons rfl _
  rw [compactChars, List.cons_append, List.cons_append, List.append_assoc, List.singleton_append,
    heq, List.cons_append, value, hopen]
  simp only [henter, hquote]
  rfl

theorem items_last {item back : Json}
    (h : value rounding scrutiny fuel (item.compactChars ++ ']' :: rest) = .ok (back, ']' :: rest)) :
    items rounding scrutiny (fuel + 1) (compactItems [item] ++ ']' :: rest)
      = .ok ([back], rest) := by
  rw [compactItems, items, h]
  rfl

theorem items_comma {item next back : Json} {more : List Json}
    (h : value rounding scrutiny fuel
        (item.compactChars ++ ',' :: (compactItems (next :: more) ++ ']' :: rest))
      = .ok (back, ',' :: (compactItems (next :: more) ++ ']' :: rest))) :
    items rounding scrutiny (fuel + 1) (compactItems (item :: next :: more) ++ ']' :: rest)
      = (items rounding scrutiny fuel (compactItems (next :: more) ++ ']' :: rest)).map
        fun (more, left) => (back :: more, left) := by
  obtain ⟨c, cs, heq, hc⟩ := exists_cons_compactItems next more
  obtain ⟨hgap, hbracket, -⟩ := startsValue_spec hc
  have hcomma : ∀ left, skipGap (',' :: left) = ',' :: left := fun left => skipGap_cons rfl left
  rw [compactItems_cons_cons, List.append_assoc, List.cons_append, items, h]
  simp only [bind, Except.bind, hcomma, heq, List.cons_append, skipGap_cons hgap]
  split
  · next heq => cases heq
  · next heq => exact absurd (List.cons.inj heq).1 hbracket
  · rfl

theorem name_quoted (strict : Bool) (s : String) (left : List Char) :
    name strict (quoted s ++ ':' :: left) = .ok (some s, left) := by
  have hquoted : quoted s ++ ':' :: left
      = '"' :: (s.toList.flatMap escaped ++ '"' :: ':' :: left) := by simp [quoted]
  have hcolon : skipGap (':' :: left) = ':' :: left := skipGap_cons rfl left
  rw [hquoted, name]
  simp only [textBody_quoted, bind, Except.bind, hcolon]
  rw [Option.map_some, String.ofList_toList]
  rfl

theorem members_last {s : String} {v back : Json}
    (h : value rounding scrutiny fuel (v.compactChars ++ '}' :: rest) = .ok (back, '}' :: rest)) :
    members rounding scrutiny (fuel + 1) (compactMembers [(s, v)] ++ '}' :: rest)
      = .ok (some [(s, back)], rest) := by
  rw [compactMembers, List.append_assoc, List.cons_append, members, name_quoted]
  simp only [bind, Except.bind, h]
  rfl

theorem members_comma {s : String} {v back : Json} {next : String × Json}
    {more : List (String × Json)}
    (h : value rounding scrutiny fuel
        (v.compactChars ++ ',' :: (compactMembers (next :: more) ++ '}' :: rest))
      = .ok (back, ',' :: (compactMembers (next :: more) ++ '}' :: rest))) :
    members rounding scrutiny (fuel + 1) (compactMembers ((s, v) :: next :: more) ++ '}' :: rest)
      = (members rounding scrutiny fuel (compactMembers (next :: more) ++ '}' :: rest)).map
        fun (more?, left) => (member (some s) back more?, left) := by
  obtain ⟨cs, heq⟩ := exists_cons_compactMembers next more
  have hcomma : ∀ left, skipGap (',' :: left) = ',' :: left := fun left => skipGap_cons rfl left
  have hquote : ∀ left, skipGap ('"' :: left) = '"' :: left := fun left => skipGap_cons rfl left
  rw [compactMembers_cons_cons]
  simp only [List.append_assoc, List.cons_append]
  rw [members, name_quoted]
  simp only [bind, Except.bind, h, hcomma]
  simp only [heq, List.cons_append, hquote]
  rfl

end

/-! ### Whole values -/

mutual

/-- **A value is read again**, whatever follows it; the fuel has to cover its length. -/
theorem value_compactChars : ∀ (json : Json) (scrutiny : Scrutiny) (depth fuel : Nat)
    (rest : List Char), json.isSound = true → scrutiny.Admits depth (json.isProper depth) →
    json.compactChars.length ≤ fuel → NumberEnds rest →
    value rounding scrutiny fuel (json.compactChars ++ rest) = .ok (json.reread rounding, rest)
  | json, _, _, 0, rest, _, _, hfuel, _ => by
    obtain ⟨c, cs, heq, -⟩ := exists_cons_compactChars json
    rw [heq] at hfuel
    cases hfuel
  | .null, _, _, fuel + 1, rest, _, _, _, _ => rfl
  | .bool true, _, _, fuel + 1, rest, _, _, _, _ => rfl
  | .bool false, _, _, fuel + 1, rest, _, _, _, _ => rfl
  | .integer n, scrutiny, _, fuel + 1, rest, hsound, _, _, hrest => by
    rw [isSound, decide_eq_true_eq] at hsound
    show value rounding scrutiny (fuel + 1) ((decimalInt n).toList ++ rest) = .ok (.integer n, rest)
    rw [value_numeral (isNumeral_decimalInt n),
      number_decimalInt rounding scrutiny.isStrict hsound hrest]
  | .real x, scrutiny, _, fuel + 1, rest, hsound, _, _, hrest => by
    rw [isSound, decide_eq_true_eq] at hsound
    show value rounding scrutiny (fuel + 1) (realChars x ++ rest)
      = .ok (.real (rereadReal rounding x), rest)
    rw [value_numeral (isNumeral_realChars x),
      number_realChars rounding scrutiny.isStrict hsound hrest]
  | .text s, _, _, fuel + 1, rest, _, _, _, _ => value_quoted s rest
  | .array [], _, _, fuel + 1, rest, _, hadmits, _, _ => by
    obtain ⟨inner, henter, -⟩ := hadmits.enter
    exact value_no_items henter rest
  | .array (item :: more), scrutiny, depth, fuel + 1, rest, hsound, hadmits, hfuel, _ => by
    rw [isSound, areSound, Bool.and_eq_true] at hsound
    rw [compactChars, List.length_append, List.length_cons, List.length_singleton] at hfuel
    obtain ⟨inner, henter, hadmits⟩ := hadmits.enter
    rw [value_items henter, items_compactItems item more inner (depth + 1) fuel rest hsound.1
      hsound.2 hadmits (by omega)]
    rfl
  | .object [], _, _, fuel + 1, rest, _, hadmits, _, _ => by
    obtain ⟨inner, henter, -⟩ := hadmits.enter
    exact value_no_members henter rest
  | .object ((name, v) :: more), scrutiny, depth, fuel + 1, rest, hsound, hadmits, hfuel, _ => by
    rw [isSound, haveSound, Bool.and_eq_true] at hsound
    rw [compactChars, List.length_append, List.length_cons, List.length_singleton] at hfuel
    obtain ⟨inner, henter, hadmits⟩ := hadmits.enter
    rw [value_members henter, members_compactMembers name v more inner (depth + 1) fuel rest
      hsound.1 hsound.2 hadmits (by omega)]
    rfl

/-- The items of an array are read again, up to and with its closing bracket. -/
theorem items_compactItems : ∀ (item : Json) (more : List Json) (scrutiny : Scrutiny)
    (depth fuel : Nat) (rest : List Char), item.isSound = true → areSound more = true →
    scrutiny.Admits depth (areProper depth (item :: more)) →
    (compactItems (item :: more)).length < fuel →
    items rounding scrutiny fuel (compactItems (item :: more) ++ ']' :: rest)
      = .ok (rereadItems rounding (item :: more), rest)
  | _, _, _, _, 0, _, _, _, _, hfuel => absurd hfuel (Nat.not_lt_zero _)
  | item, [], scrutiny, depth, fuel + 1, rest, hitem, _, hadmits, hfuel => by
    rw [compactItems] at hfuel
    exact items_last (value_compactChars item scrutiny depth fuel (']' :: rest) hitem hadmits.left
      (Nat.le_of_lt_succ hfuel) (numberEnds_cons (.inr (.inl rfl)) rest))
  | item, next :: more, scrutiny, depth, fuel + 1, rest, hitem, hmore, hadmits, hfuel => by
    rw [areSound, Bool.and_eq_true] at hmore
    rw [compactItems_cons_cons, List.length_append, List.length_cons] at hfuel
    rw [items_comma (value_compactChars item scrutiny depth fuel _ hitem hadmits.left (by omega)
        (numberEnds_cons (.inl rfl) _)),
      items_compactItems next more scrutiny depth fuel rest hmore.1 hmore.2 hadmits.right
        (by omega)]
    rfl

/-- The members of an object are read again, up to and with its closing brace. -/
theorem members_compactMembers : ∀ (name : String) (v : Json) (more : List (String × Json))
    (scrutiny : Scrutiny) (depth fuel : Nat) (rest : List Char), v.isSound = true →
    haveSound more = true → scrutiny.Admits depth (haveProper depth ((name, v) :: more)) →
    (compactMembers ((name, v) :: more)).length < fuel →
    members rounding scrutiny fuel (compactMembers ((name, v) :: more) ++ '}' :: rest)
      = .ok (some (rereadMembers rounding ((name, v) :: more)), rest)
  | _, _, _, _, _, 0, _, _, _, _, hfuel => absurd hfuel (Nat.not_lt_zero _)
  | name, v, [], scrutiny, depth, fuel + 1, rest, hv, _, hadmits, hfuel => by
    rw [compactMembers, List.length_append, List.length_cons] at hfuel
    exact members_last (value_compactChars v scrutiny depth fuel ('}' :: rest) hv hadmits.left
      (by omega) (numberEnds_cons (.inr (.inr rfl)) rest))
  | name, v, (next, w) :: more, scrutiny, depth, fuel + 1, rest, hv, hmore, hadmits, hfuel => by
    rw [haveSound, Bool.and_eq_true] at hmore
    rw [compactMembers_cons_cons, List.length_append, List.length_append, List.length_cons,
      List.length_cons] at hfuel
    rw [members_comma (value_compactChars v scrutiny depth fuel _ hv hadmits.left (by omega)
        (numberEnds_cons (.inl rfl) _)),
      members_compactMembers next w more scrutiny depth fuel rest hmore.1 hmore.2 hadmits.right
        (by omega)]
    rfl

end

/-- **A value that is written is read as its own value**, if there is room for all parts of it. -/
theorem readUnder_compact {json : Json} {scrutiny : Scrutiny} (hsound : json.isSound = true)
    (hadmits : scrutiny.Admits 0 (json.isProper 0)) :
    readUnder rounding scrutiny json.compact = .ok (json.reread rounding) := by
  have hfuel : json.compactChars.length ≤ 2 * json.compact.length + 2 := by
    rw [compact, String.length_ofList]
    omega
  have hvalue : value rounding scrutiny (2 * json.compact.length + 2) (json.compactChars ++ [])
      = .ok (json.reread rounding, []) :=
    value_compactChars json scrutiny 0 _ [] hsound hadmits hfuel fun _ hc => nomatch hc
  rw [List.append_nil] at hvalue
  rw [readUnder, readWhole]
  rw [show json.compact.toList = json.compactChars from String.toList_ofList]
  simp only [bind, Except.bind, hvalue]
  rfl

/-- A plain value reads back as it was. -/
theorem readUnder_compact_of_isPlain {json : Json} (h : json.isPlain = true) :
    readUnder rounding .form json.compact = .ok json := by
  rw [readUnder_compact (isSound_of_isPlain h) (.inl rfl),
    reread_eq_self_iff.mpr (keepsNumbers_of_isPlain h)]

/-! ### Control characters -/

theorem isShown_of_mem_leafChars : ∀ (json : Json) {c : Char}, c ∈ leafChars json →
    isShown c = true
  | .bool true, c => fun hc =>
    List.all_eq_true.mp (by decide : "true".toList.all isShown = true) c hc
  | .bool false, c => fun hc =>
    List.all_eq_true.mp (by decide : "false".toList.all isShown = true) c hc
  | .integer n, _ => (isNumeral_decimalInt n).isShown
  | .real x, _ => (isNumeral_realChars x).isShown
  | .text _, _ => isShown_of_mem_quoted
  | .broken, c => fun hc =>
    List.all_eq_true.mp (by decide : "\"\\ud800\"".toList.all isShown = true) c hc
  | .null, c | .array _, c | .object _, c => fun hc =>
    List.all_eq_true.mp (by decide : "null".toList.all isShown = true) c hc

mutual

theorem isShown_of_mem_compactChars : ∀ (json : Json), ∀ c ∈ json.compactChars, isShown c = true
  | .null => fun _ => isShown_of_mem_leafChars .null
  | .bool b => fun _ => isShown_of_mem_leafChars (.bool b)
  | .integer n => fun _ => isShown_of_mem_leafChars (.integer n)
  | .real x => fun _ => isShown_of_mem_leafChars (.real x)
  | .text s => fun _ => isShown_of_mem_leafChars (.text s)
  | .broken => fun _ => isShown_of_mem_leafChars .broken
  | .array items => by
    intro c hc
    rw [compactChars, List.cons_append, List.mem_cons, List.mem_append, List.mem_singleton] at hc
    rcases hc with rfl | hc | rfl
    · rfl
    · exact isShown_of_mem_compactItems items c hc
    · rfl
  | .object members => by
    intro c hc
    rw [compactChars, List.cons_append, List.mem_cons, List.mem_append, List.mem_singleton] at hc
    rcases hc with rfl | hc | rfl
    · rfl
    · exact isShown_of_mem_compactMembers members c hc
    · rfl

theorem isShown_of_mem_compactItems : ∀ (items : List Json),
    ∀ c ∈ compactItems items, isShown c = true
  | [] => fun _ hc => nomatch hc
  | [item] => isShown_of_mem_compactChars item
  | item :: next :: more => by
    intro c hc
    rw [compactItems_cons_cons, List.mem_append, List.mem_cons] at hc
    rcases hc with hc | rfl | hc
    · exact isShown_of_mem_compactChars item c hc
    · rfl
    · exact isShown_of_mem_compactItems (next :: more) c hc

theorem isShown_of_mem_compactMembers : ∀ (members : List (String × Json)),
    ∀ c ∈ compactMembers members, isShown c = true
  | [] => fun _ hc => nomatch hc
  | [(name, v)] => by
    intro c hc
    rw [compactMembers, List.mem_append, List.mem_cons] at hc
    rcases hc with hc | rfl | hc
    · exact isShown_of_mem_quoted hc
    · rfl
    · exact isShown_of_mem_compactChars v c hc
  | (name, v) :: next :: more => by
    intro c hc
    rw [compactMembers_cons_cons, List.mem_append, List.mem_append, List.mem_cons,
      List.mem_cons] at hc
    rcases hc with (hc | rfl | hc) | rfl | hc
    · exact isShown_of_mem_quoted hc
    · rfl
    · exact isShown_of_mem_compactChars v c hc
    · rfl
    · exact isShown_of_mem_compactMembers (next :: more) c hc

end

theorem isShown_of_mem_compact {json : Json} {c : Char} (hc : c ∈ json.compact.toList) :
    isShown c = true :=
  isShown_of_mem_compactChars json c (by rwa [compact, String.toList_ofList] at hc)

end MailTriage.Json
