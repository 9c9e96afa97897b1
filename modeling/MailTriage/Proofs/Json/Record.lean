import MailTriage.Json.Record
import MailTriage.Proofs.Time.Timestamp

/-! # Decoding what was written

An object in which no name comes twice is a record, and what it has under a name is the first value
there (`record_object`); and each decoder of a single value undoes its writing.
-/
namespace MailTriage.Json

/-! ### Records -/

section
variable {name : String} {v : Json} {members : List (String × Json)}

theorem valuesAt_cons_self (name : String) (v : Json) (rest : List (String × Json)) :
    valuesAt name ((name, v) :: rest) = v :: valuesAt name rest := by
  simp [valuesAt]

theorem valuesAt_cons_of_ne {other : String} (h : other ≠ name) (v : Json)
    (rest : List (String × Json)) : valuesAt name ((other, v) :: rest) = valuesAt name rest := by
  simp [valuesAt, h]

theorem valuesAt_of_not_mem (h : name ∉ members.map (·.1)) : valuesAt name members = [] := by
  induction members with
  | nil => rfl
  | cons m rest ih =>
    rw [List.map_cons, List.mem_cons, not_or] at h
    rw [valuesAt_cons_of_ne (Ne.symm h.1), ih h.2]

theorem length_valuesAt_le_one (h : (members.map (·.1)).Nodup) :
    (valuesAt name members).length ≤ 1 := by
  induction members with
  | nil => exact Nat.zero_le 1
  | cons m rest ih =>
    rw [List.map_cons, List.nodup_cons] at h
    by_cases hname : m.1 = name
    · subst hname
      rw [valuesAt_cons_self, valuesAt_of_not_mem h.1]
      exact Nat.le_refl 1
    · rw [valuesAt_cons_of_ne hname]
      exact ih h.2

/-- An object in which no name comes twice is a record, whatever the fields are. -/
theorem record_object (names : List String) (h : (members.map (·.1)).Nodup) :
    record names (.object members) = .ok fun name => (valuesAt name members).head? := by
  have hnone : names.find? (fun name => 1 < (valuesAt name members).length) = none := by
    rw [List.find?_eq_none]
    intro name _ hlt
    exact absurd (of_decide_eq_true hlt) (Nat.not_lt.mpr (length_valuesAt_le_one h))
  rw [record, hnone]

end

/-! ### Single values -/

theorem nullable_of_ne_null {α : Type} {decoder : Decoder α} {json : Json} (h : json ≠ .null) :
    nullable decoder json = (decoder json).map some := by
  cases json with
  | null => exact absurd rfl h
  | _ => rfl

theorem nullable_ofText? (text : Option String) :
    nullable decodeText (ofText? text) = .ok text := by
  cases text <;> rfl

theorem decodeList_ofTexts (texts : List String) :
    decodeList decodeText (ofTexts texts) = .ok texts := by
  rw [ofTexts, decodeList]
  induction texts with
  | nil => rfl
  | cons s rest ih =>
    rw [List.map_cons, List.mapM_cons, ih]
    rfl

theorem decodeInt64_toInt (n : Int64) : decodeInt64 (.integer n.toInt) = .ok n := by
  have hbounds : (Int64.minValue.toInt ≤ n.toInt && n.toInt ≤ Int64.maxValue.toInt) = true := by
    rw [Bool.and_eq_true, decide_eq_true_eq, decide_eq_true_eq]
    exact ⟨Int64.minValue_le_toInt n, Int64.toInt_le n⟩
  rw [decodeInt64, if_pos hbounds, Int64.ofInt_toInt]

theorem decodeInstant_ofInstant (t : Instant) : decodeInstant (ofInstant t) = .ok t := by
  rw [ofInstant, decodeInstant, Timestamp.readLoosely_write]

theorem nullable_ofInstant? (t? : Option Instant) :
    nullable decodeInstant (ofInstant? t?) = .ok t? := by
  cases t? with
  | none => rfl
  | some t =>
    rw [ofInstant?, nullable_of_ne_null (by rw [ofInstant]; exact Json.noConfusion),
      decodeInstant_ofInstant]
    rfl

end MailTriage.Json
