import MailTriage.Proofs.Json.Settled

/-! # The texts in a value

A value that is written and read again has the same texts at the same places, whatever numbers are
in it and however these are read (`wording_of_readUnder`): each numeral is read as a whole and as no
text.  As data nothing changes about that, for settling gives the members their last values
(`exists_wording_of_readData`).  A value that cannot be read again has a broken part or is nested too
deeply: of all others the parts have a meaning (`isProper_of_readData`).
-/
namespace MailTriage.Json

mutual

/-- The value with null in the place of numbers and of parts that denote nothing. -/
def wording : Json → Json
  | .null | .integer _ | .real _ | .broken => .null
  | .bool b => .bool b
  | .text s => .text s
  | .array items => .array (wordingItems items)
  | .object members => .object (wordingMembers members)

/-- The items of an array with null in the place of numbers. -/
def wordingItems : List Json → List Json
  | [] => []
  | item :: rest => wording item :: wordingItems rest

/-- The members of an object with null in the place of numbers. -/
def wordingMembers : List (String × Json) → List (String × Json)
  | [] => []
  | (name, v) :: rest => (name, wording v) :: wordingMembers rest

end

theorem get?_wordingMembers (name : String) (members : List (String × Json)) :
    get? name (wordingMembers members) = (get? name members).map wording := by
  induction members with
  | nil => rfl
  | cons member rest ih =>
    rw [wordingMembers, get?_cons, get?_cons, ih]
    by_cases h : member.1 = name
    · rw [if_pos h, if_pos h]
      cases get? name rest <;> rfl
    · rw [if_neg h, if_neg h, Option.or_none, Option.or_none]

/-! ### Readings that may fail -/

/-- A reading that does not fail leaves these characters and gives such a value. -/
def Takes {α : Type} (read : Except Stop (α × List Char)) (rest : List Char) (P : α → Prop) :
    Prop :=
  ∀ a left, read = .ok (a, left) → left = rest ∧ P a

section
variable {α β : Type} {read : Except Stop (α × List Char)} {next : Except Stop (β × List Char)}
  {rest mid : List Char} {P : α → Prop} {Q : β → Prop}

theorem Takes.error (stop : Stop) : Takes (.error stop) rest P := nofun

theorem Takes.ok {a : α} (h : P a) : Takes (.ok (a, rest)) rest P := fun _ _ heq => by
  cases heq
  exact ⟨rfl, h⟩

theorem Takes.mono {Q : α → Prop} (h : Takes read rest P) (hP : ∀ a, P a → Q a) :
    Takes read rest Q := fun a left hread => (h a left hread).imp_right (hP a)

theorem Takes.map {f : α → β} (h : Takes read rest P) (hf : ∀ a, P a → Q (f a)) :
    Takes (read.map fun (a, left) => (f a, left)) rest Q := by
  cases read with
  | error stop => exact .error stop
  | ok done =>
    obtain ⟨hleft, ha⟩ := h done.1 done.2 rfl
    rw [← hleft]
    exact .ok (hf done.1 ha)

/-- A reading that starts with another one. -/
theorem Takes.step (h : Takes read mid P) (hfail : ∀ stop, read = .error stop → next = .error stop)
    (hnext : ∀ a, read = .ok (a, mid) → P a → Takes next rest Q) : Takes next rest Q := by
  cases read with
  | error stop =>
    rw [hfail stop rfl]
    exact .error stop
  | ok done =>
    obtain ⟨hleft, ha⟩ := h done.1 done.2 rfl
    exact hnext done.1 (by rw [← hleft]) ha

end

/-! ### Reading what was written -/

/-- What is read for its meaning inside some arrays and objects has one, if the room was for as many
as there may be. -/
def Scrutiny.Grants (scrutiny : Scrutiny) (depth : Nat) (proper : Bool) : Prop :=
  ∀ room, scrutiny = .meaning room → room + depth = depthLimit → proper = true

theorem Scrutiny.Grants.and {scrutiny : Scrutiny} {depth : Nat} {first second : Bool}
    (hfirst : scrutiny.Grants depth first) (hsecond : scrutiny.Grants depth second) :
    scrutiny.Grants depth (first && second) := fun room hroom hdepth => by
  rw [hfirst room hroom hdepth, hsecond room hroom hdepth, Bool.and_self]

/-- What is granted inside one more array or object is granted outside of it. -/
theorem Scrutiny.Grants.leave {scrutiny inner : Scrutiny} {depth : Nat} {proper : Bool}
    (henter : scrutiny.enter? = some inner) (h : inner.Grants (depth + 1) proper) :
    scrutiny.Grants depth (depth + 1 < depthLimit && proper) := by
  rintro room rfl hdepth
  unfold Scrutiny.enter? at henter
  split at henter
  · next heq => cases heq
  · next left heq =>
    cases heq
    cases henter
    rw [h (left + 1) rfl (by omega), Bool.and_true, decide_eq_true_eq]
    omega
  · cases henter

theorem wording_of_number {back : Json}
    (h : (∃ n, back = .integer n) ∨ (∃ x, back = .real x) ∨ back = .broken) :
    back.wording = .null := by
  rcases h with ⟨n, rfl⟩ | ⟨x, rfl⟩ | rfl <;> rfl

variable {rounding : Rounding}

section
variable {scrutiny : Scrutiny} {fuel : Nat}

/-- Arrays and objects are refused where there is no room for them. -/
theorem value_nested (hroom : scrutiny.enter? = none) {c : Char} (hc : c = '[' ∨ c = '{')
    (cs : List Char) :
    value rounding scrutiny (fuel + 1) (c :: cs) = stopAt .nestedTooDeeply (c :: cs) := by
  rcases hc with rfl | rfl
  · rw [value, skipGap_cons rfl]
    simp only [hroom]
  · rw [value, skipGap_cons rfl]
    simp only [hroom]

theorem takes_numeral {numeral rest : List Char} (h : IsNumeral numeral) (hrest : NumberEnds rest) :
    Takes (value rounding scrutiny (fuel + 1) (numeral ++ rest)) rest
      fun back => back.wording = .null := by
  intro back left hread
  obtain ⟨hleft, hback⟩ := h.number hrest ((value_numeral h rest).symm.trans hread)
  exact ⟨hleft, wording_of_number hback⟩

theorem textBody_lone (strict : Bool) (rest : List Char) :
    textBody strict ('\\' :: 'u' :: 'd' :: '8' :: '0' :: '0' :: '"' :: rest)
      = if strict then stopAt .unpairedSurrogate ('"' :: rest) else .ok (none, rest) := by
  have hunit : hexValue4 'd' '8' '0' '0' = some 0xD800 := by decide
  have hhigh : isHighSurrogate 0xD800 = true := by decide
  rw [textBody]
  simp only [hunit, hhigh, if_true]
  cases strict <;> rfl

/-- A part that denotes nothing is written as half of a surrogate pair, and read as such or
refused. -/
theorem takes_broken (rest : List Char) :
    Takes (value rounding scrutiny (fuel + 1) (Json.broken.compactChars ++ rest)) rest
      fun back => back.wording = .null ∧ scrutiny.isStrict = false := by
  have hbroken : Json.broken.compactChars ++ rest
      = '"' :: '\\' :: 'u' :: 'd' :: '8' :: '0' :: '0' :: '"' :: rest := rfl
  have hopen : ∀ left, skipGap ('"' :: left) = '"' :: left := fun left => skipGap_cons rfl left
  rw [hbroken, value, hopen]
  simp only [textBody_lone, bind, Except.bind]
  cases scrutiny with
  | meaning room => exact .error _
  | form => exact .ok ⟨rfl, rfl⟩

theorem items_error {item : Json} {cs : List Char} {stop : Stop}
    (h : value rounding scrutiny fuel (item.compactChars ++ cs) = .error stop) :
    items rounding scrutiny (fuel + 1) (item.compactChars ++ cs) = .error stop := by
  rw [items, h]
  rfl

theorem members_error {name : String} {v : Json} {cs : List Char} {stop : Stop}
    (h : value rounding scrutiny fuel (v.compactChars ++ cs) = .error stop) :
    members rounding scrutiny (fuel + 1) (quoted name ++ ':' :: (v.compactChars ++ cs))
      = .error stop := by
  rw [members, name_quoted]
  simp only [bind, Except.bind, h]

end

mutual

/-- A value that is read again has its wording, and a meaning if it was read for it. -/
theorem takes_compactChars : ∀ (json : Json) (scrutiny : Scrutiny) (depth fuel : Nat)
    (rest : List Char), NumberEnds rest →
    Takes (value rounding scrutiny fuel (json.compactChars ++ rest)) rest
      fun back => back.wording = json.wording ∧ scrutiny.Grants depth (json.isProper depth)
  | _, _, _, 0, _, _ => .error _
  | .null, _, _, _ + 1, _, _ => .ok ⟨rfl, fun _ _ _ => rfl⟩
  | .bool true, _, _, _ + 1, _, _ => .ok ⟨rfl, fun _ _ _ => rfl⟩
  | .bool false, _, _, _ + 1, _, _ => .ok ⟨rfl, fun _ _ _ => rfl⟩
  | .integer n, _, _, _ + 1, _, hrest =>
    (takes_numeral (isNumeral_decimalInt n) hrest).mono fun _ h => ⟨h, fun _ _ _ => rfl⟩
  | .real x, _, _, _ + 1, _, hrest =>
    (takes_numeral (isNumeral_realChars x) hrest).mono fun _ h => ⟨h, fun _ _ _ => rfl⟩
  | .text s, _, _, _ + 1, rest, _ => by
    rw [show (Json.text s).compactChars = quoted s from rfl, value_quoted]
    exact .ok ⟨rfl, fun _ _ _ => rfl⟩
  | .broken, scrutiny, _, _ + 1, rest, _ =>
    (takes_broken rest).mono fun _ h => ⟨h.1, fun room hroom _ => by
      rw [hroom] at h
      cases h.2⟩
  | .array items, scrutiny, depth, fuel + 1, rest, _ => by
    cases hroom : scrutiny.enter? with
    | none =>
      rw [compactChars, List.cons_append, List.cons_append, value_nested hroom (.inl rfl)]
      exact .error _
    | some inner =>
      cases items with
      | nil =>
        rw [show (Json.array []).compactChars ++ rest = '[' :: ']' :: rest from rfl,
          value_no_items hroom]
        exact .ok ⟨rfl, .leave hroom fun _ _ _ => rfl⟩
      | cons item more =>
        rw [value_items hroom]
        exact (takes_compactItems item more inner (depth + 1) fuel rest).map fun _ h =>
          ⟨congrArg Json.array h.1, h.2.leave hroom⟩
  | .object members, scrutiny, depth, fuel + 1, rest, _ => by
    cases hroom : scrutiny.enter? with
    | none =>
      rw [compactChars, List.cons_append, List.cons_append, value_nested hroom (.inr rfl)]
      exact .error _
    | some inner =>
      cases members with
      | nil =>
        rw [show (Json.object []).compactChars ++ rest = '{' :: '}' :: rest from rfl,
          value_no_members hroom]
        exact .ok ⟨rfl, .leave hroom fun _ _ _ => rfl⟩
      | cons first more =>
        obtain ⟨name, v⟩ := first
        rw [value_members hroom]
        refine Takes.map (f := fun members? => (members?.map Json.object).getD .broken)
          (takes_compactMembers name v more inner (depth + 1) fuel rest) ?_
        rintro _ ⟨⟨back, rfl, hwording⟩, hgrants⟩
        exact ⟨congrArg Json.object hwording, hgrants.leave hroom⟩

/-- Items that are read again have their wording. -/
theorem takes_compactItems : ∀ (item : Json) (more : List Json) (scrutiny : Scrutiny)
    (depth fuel : Nat) (rest : List Char),
    Takes (items rounding scrutiny fuel (compactItems (item :: more) ++ ']' :: rest)) rest
      fun back => wordingItems back = wordingItems (item :: more)
        ∧ scrutiny.Grants depth (areProper depth (item :: more))
  | _, _, _, _, 0, _ => .error _
  | item, [], scrutiny, depth, fuel + 1, rest => by
    refine (takes_compactChars item scrutiny depth fuel (']' :: rest)
      (numberEnds_cons (.inr (.inl rfl)) rest)).step (fun stop => items_error) ?_
    rintro back hread ⟨hwording, hgrants⟩
    rw [items_last hread]
    exact .ok ⟨congrArg (· :: []) hwording, hgrants.and fun _ _ _ => rfl⟩
  | item, next :: more, scrutiny, depth, fuel + 1, rest => by
    refine (takes_compactChars item scrutiny depth fuel
      (',' :: (compactItems (next :: more) ++ ']' :: rest))
      (numberEnds_cons (.inl rfl) _)).step (fun stop hread => ?_) ?_
    · rw [compactItems_cons_cons, List.append_assoc]
      exact items_error hread
    · rintro back hread ⟨hwording, hgrants⟩
      rw [items_comma hread]
      refine (takes_compactItems next more scrutiny depth fuel rest).map fun others h =>
        ⟨?_, hgrants.and h.2⟩
      rw [wordingItems, hwording, h.1]
      rfl

/-- Members that are read again have their names and their wording. -/
theorem takes_compactMembers : ∀ (name : String) (v : Json) (more : List (String × Json))
    (scrutiny : Scrutiny) (depth fuel : Nat) (rest : List Char),
    Takes (members rounding scrutiny fuel (compactMembers ((name, v) :: more) ++ '}' :: rest)) rest
      fun back? => (∃ back, back? = some back
        ∧ wordingMembers back = wordingMembers ((name, v) :: more))
        ∧ scrutiny.Grants depth (haveProper depth ((name, v) :: more))
  | _, _, _, _, _, 0, _ => .error _
  | name, v, [], scrutiny, depth, fuel + 1, rest => by
    refine (takes_compactChars v scrutiny depth fuel ('}' :: rest)
      (numberEnds_cons (.inr (.inr rfl)) rest)).step (fun stop hread => ?_) ?_
    · rw [compactMembers, List.append_assoc, List.cons_append]
      exact members_error hread
    · rintro back hread ⟨hwording, hgrants⟩
      rw [members_last hread]
      exact .ok ⟨⟨_, rfl, congrArg (fun w => [(name, w)]) hwording⟩, hgrants.and fun _ _ _ => rfl⟩
  | name, v, (next, w) :: more, scrutiny, depth, fuel + 1, rest => by
    refine (takes_compactChars v scrutiny depth fuel
      (',' :: (compactMembers ((next, w) :: more) ++ '}' :: rest))
      (numberEnds_cons (.inl rfl) _)).step (fun stop hread => ?_) ?_
    · rw [compactMembers_cons_cons, List.append_assoc, List.append_assoc]
      exact members_error hread
    · rintro back hread ⟨hwording, hgrants⟩
      rw [members_comma hread]
      refine (takes_compactMembers next w more scrutiny depth fuel rest).map ?_
      rintro _ ⟨⟨others, rfl, hothers⟩, hmore⟩
      refine ⟨⟨(name, back) :: others, rfl, ?_⟩, hgrants.and hmore⟩
      rw [wordingMembers, hwording, hothers]
      rfl

end

theorem takes_readUnder {json back : Json} {scrutiny : Scrutiny}
    (h : readUnder rounding scrutiny json.compact = .ok back) :
    back.wording = json.wording ∧ scrutiny.Grants 0 (json.isProper 0) := by
  have htakes : Takes (value rounding scrutiny (2 * json.compact.length + 2)
      (json.compactChars ++ [])) [] _ := takes_compactChars json scrutiny 0 _ [] nofun
  rw [List.append_nil] at htakes
  rw [readUnder, readWhole, show json.compact.toList = json.compactChars from String.toList_ofList]
    at h
  cases hvalue : value rounding scrutiny (2 * json.compact.length + 2) json.compactChars with
  | error stop =>
    simp only [bind, Except.bind, hvalue] at h
    cases h
  | ok read =>
    obtain ⟨hleft, hwording⟩ := htakes read.1 read.2 hvalue
    simp only [bind, Except.bind, hvalue, hleft] at h
    cases h
    exact hwording

/-- **A value that is written and read again has its wording.** -/
theorem wording_of_readUnder {json back : Json} {scrutiny : Scrutiny}
    (h : readUnder rounding scrutiny json.compact = .ok back) : back.wording = json.wording :=
  (takes_readUnder h).1

/-- **A value that is taken as data once it is written has a meaning in all its parts**, and is not
nested too deeply. -/
theorem isProper_of_readData {json back : Json} (h : readData rounding json.compact = .ok back) :
    json.isProper 0 = true := by
  rw [readData, readProper] at h
  cases hread : readUnder rounding (.meaning depthLimit) json.compact with
  | error why =>
    rw [hread] at h
    cases h
  | ok form => exact (takes_readUnder hread).2 depthLimit rfl rfl

/-- Data that are read from a value's text are a value with the same wording, settled. -/
theorem exists_wording_of_readData {json back : Json}
    (h : readData rounding json.compact = .ok back) :
    ∃ form : Json, form.wording = json.wording ∧ back = form.settledBy rounding := by
  rw [readData, readProper] at h
  cases hread : readUnder rounding (.meaning depthLimit) json.compact with
  | error why =>
    rw [hread] at h
    cases h
  | ok form =>
    rw [hread] at h
    cases h
    exact ⟨form, wording_of_readUnder hread, rfl⟩

end MailTriage.Json
