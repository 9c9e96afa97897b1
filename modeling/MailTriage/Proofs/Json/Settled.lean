import MailTriage.Json.Settled
import MailTriage.Proofs.Json.Compact

/-! # Settled values

A value that is written and taken as data again is settled (`readData_compact`).  Settling does
not change what counts under a name: where a name is repeated, the last value counts before and
after (`get?_settled`).
-/
namespace MailTriage.Json

variable {rounding : Rounding}

/-- A sound value that is not nested too deeply is data once it is written and read again. -/
theorem readData_compact {json : Json} (hsound : json.isSound = true)
    (hproper : json.isProper 0 = true) :
    readData rounding json.compact = .ok ((json.reread rounding).settledBy rounding) := by
  rw [readData, readProper,
    readUnder_compact hsound (.inr ⟨hproper, depthLimit, rfl, Nat.le_refl _⟩)]
  rfl

/-! ### Members -/

theorem get?_cons (name : String) (member : String × Json) (rest : List (String × Json)) :
    get? name (member :: rest)
      = (get? name rest).or (if member.1 = name then some member.2 else none) := by
  rw [get?, get?, valuesAt, valuesAt, List.filter_cons]
  by_cases h : member.1 = name
  · rw [if_pos (by simpa using h), if_pos h, List.map_cons, List.getLast?_cons]
    cases ((rest.filter fun m => m.1 == name).map (·.2)).getLast? <;> rfl
  · rw [if_neg (by simpa using h), if_neg h, Option.or_none]

theorem get?_append (name : String) (members more : List (String × Json)) :
    get? name (members ++ more) = (get? name more).or (get? name members) := by
  rw [get?, get?, get?, valuesAt, valuesAt, valuesAt, List.filter_append, List.map_append,
    List.getLast?_append]

section
variable (own : String) (v : Json)

theorem get?_map_self (members : List (String × Json)) :
    get? own (members.map fun m => if m.1 = own then (m.1, v) else m)
      = if members.any (·.1 == own) then some v else none := by
  induction members with
  | nil => rfl
  | cons member rest ih =>
    rw [List.map_cons, get?_cons, ih, List.any_cons]
    by_cases h : member.1 = own
    · rw [if_pos h, if_pos h, beq_iff_eq.mpr h, Bool.true_or, if_pos rfl]
      cases rest.any (·.1 == own) <;> rfl
    · rw [if_neg h, if_neg h, beq_eq_false_iff_ne.mpr h, Bool.false_or, Option.or_none]

theorem get?_map_of_ne {name : String} (hname : own ≠ name) (members : List (String × Json)) :
    get? name (members.map fun m => if m.1 = own then (m.1, v) else m) = get? name members := by
  induction members with
  | nil => rfl
  | cons member rest ih =>
    rw [List.map_cons, get?_cons, get?_cons, ih]
    by_cases h : member.1 = own
    · simp [h, hname]
    · simp [h]

/-- Giving a member a value changes what counts under its name, and nothing else. -/
theorem get?_putMember (members : List (String × Json)) (name : String) :
    get? name (putMember members own v) = if own = name then some v else get? name members := by
  rw [putMember]
  split
  · next h =>
    by_cases hname : own = name
    · subst hname
      rw [get?_map_self, if_pos h, if_pos rfl]
    · rw [get?_map_of_ne own v hname, if_neg hname]
  · next h =>
    rw [get?_append, get?_cons]
    by_cases hname : own = name
    · rw [if_pos hname, if_pos hname]
      rfl
    · rw [if_neg hname, if_neg hname]
      rfl

end

theorem get?_settledMembers (name : String) (before members : List (String × Json)) :
    get? name (settledMembers rounding before members)
      = ((get? name members).map (settledBy rounding)).or (get? name before) := by
  induction members generalizing before with
  | nil => rfl
  | cons member rest ih =>
    rw [settledMembers, ih, get?_putMember, get?_cons]
    by_cases h : member.1 = name
    · rw [if_pos h, if_pos h]
      cases get? name rest <;> rfl
    · rw [if_neg h, if_neg h, Option.or_none]

/-- What counts under a name is settled with the members. -/
theorem get?_settled (name : String) (members : List (String × Json)) :
    get? name (settledMembers rounding [] members)
      = (get? name members).map (settledBy rounding) := by
  rw [get?_settledMembers]
  exact Option.or_none

/-- An integer stays a number, or a part that denotes nothing. -/
theorem settledInteger_cases (n : Int) :
    settledInteger rounding n = .integer n ∨ (∃ x, settledInteger rounding n = .real x)
      ∨ settledInteger rounding n = .broken := by
  rw [settledInteger]
  split
  · exact .inl rfl
  · split
    · exact .inr (.inl ⟨_, rfl⟩)
    · exact .inr (.inr rfl)

end MailTriage.Json
