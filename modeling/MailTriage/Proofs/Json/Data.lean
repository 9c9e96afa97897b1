import MailTriage.Proofs.Json.Wording

/-! # Values that are data

A value as a program holds it leaves nothing open: its whole numbers are integers of 64 bits, its
numbers of double precision have their canonical form, an object has each name once, and no part is
broken (`isData`).  Settling changes nothing about it, also when its numbers are others
(`settledBy_reread`).  Written and taken as data again it is the value that it is read as, if its
arrays and objects are not nested too deeply (`readData_compact_of_isData`); otherwise it cannot be
read at all (`isProper_of_readData`).
-/
namespace MailTriage.Json

mutual

/-- Whether a value is data. -/
def isData : Json → Bool
  | .null | .bool _ | .text _ => true
  | .integer n => Int64.minValue.toInt ≤ n && n < 0x10000000000000000
  | .real x => x.IsCanonical
  | .broken => false
  | .array items => areData items
  | .object members => (members.map (·.1)).Nodup && haveData members

/-- Whether all items of an array are data. -/
def areData : List Json → Bool
  | [] => true
  | item :: rest => isData item && areData rest

/-- Whether all members of an object are data. -/
def haveData : List (String × Json) → Bool
  | [] => true
  | (_, v) :: rest => isData v && haveData rest

end

mutual

theorem isSound_of_isData : ∀ {json : Json}, json.isData = true → json.isSound = true
  | .null, _ | .bool _, _ | .text _, _ => rfl
  | .integer n, h => by
    have hmin : Int64.minValue.toInt = -2 ^ 63 := rfl
    rw [isData, hmin, Bool.and_eq_true, decide_eq_true_eq, decide_eq_true_eq] at h
    rw [isSound, decide_eq_true_eq]
    omega
  | .real _, h => h
  | .array _, h => areSound_of_areData h
  | .object _, h => by
    rw [isData, Bool.and_eq_true] at h
    exact haveSound_of_haveData h.2

theorem areSound_of_areData : ∀ {items : List Json}, areData items = true →
    areSound items = true
  | [], _ => rfl
  | _ :: _, h => by
    rw [areData, Bool.and_eq_true] at h
    rw [areSound, isSound_of_isData h.1, areSound_of_areData h.2]
    rfl

theorem haveSound_of_haveData : ∀ {members : List (String × Json)}, haveData members = true →
    haveSound members = true
  | [], _ => rfl
  | (_, _) :: _, h => by
    rw [haveData, Bool.and_eq_true] at h
    rw [haveSound, isSound_of_isData h.1, haveSound_of_haveData h.2]
    rfl

end

/-! ### Data are settled -/

theorem putMember_of_notMem {members : List (String × Json)} {name : String}
    (h : name ∉ members.map (·.1)) (value : Json) :
    putMember members name value = members ++ [(name, value)] := by
  unfold putMember
  refine if_neg fun hany => h ?_
  obtain ⟨member, hmember, heq⟩ := List.any_eq_true.mp hany
  exact List.mem_map.mpr ⟨member, hmember, beq_iff_eq.mp heq⟩

section
variable {rounding : Rounding}

mutual

/-- What data are read as is settled. -/
theorem settledBy_reread : ∀ {json : Json}, json.isData = true →
    (json.reread rounding).settledBy rounding = json.reread rounding
  | .null, _ | .bool _, _ | .text _, _ | .real _, _ => rfl
  | .integer n, h => if_pos h
  | .array _, h => congrArg Json.array (settledItems_rereadItems h)
  | .object members, h => by
    rw [isData, Bool.and_eq_true, decide_eq_true_eq] at h
    have hmembers : settledMembers rounding [] (rereadMembers rounding members)
        = [] ++ rereadMembers rounding members :=
      settledMembers_rereadMembers h.1 h.2
    exact congrArg Json.object hmembers

theorem settledItems_rereadItems : ∀ {items : List Json}, areData items = true →
    settledItems rounding (rereadItems rounding items) = rereadItems rounding items
  | [], _ => rfl
  | _ :: _, h => by
    rw [areData, Bool.and_eq_true] at h
    rw [rereadItems, settledItems, settledBy_reread h.1, settledItems_rereadItems h.2]

/-- Members with new names come behind those that were settled before. -/
theorem settledMembers_rereadMembers : ∀ {before members : List (String × Json)},
    ((before ++ members).map (·.1)).Nodup → haveData members = true →
    settledMembers rounding before (rereadMembers rounding members)
      = before ++ rereadMembers rounding members
  | _, [], _, _ => (List.append_nil _).symm
  | before, (name, v) :: rest, hnodup, h => by
    rw [haveData, Bool.and_eq_true] at h
    have hnew : name ∉ before.map (·.1) := by
      rw [List.map_append, List.nodup_append] at hnodup
      exact fun hmem => hnodup.2.2 name hmem name List.mem_cons_self rfl
    have hrest : ((before ++ [(name, v.reread rounding)] ++ rest).map (·.1)).Nodup := by
      rwa [List.append_assoc, List.map_append, List.singleton_append, List.map_cons,
        ← List.map_cons (f := (·.1)) (a := (name, v)), ← List.map_append]
    rw [rereadMembers, settledMembers, settledBy_reread h.1, putMember_of_notMem hnew,
      settledMembers_rereadMembers hrest h.2, List.append_assoc, List.singleton_append]

end

/-- **Data that are written are what they are read as**, if they are not nested too deeply. -/
theorem readData_compact_of_isData {json : Json} (hdata : json.isData = true)
    (hproper : json.isProper 0 = true) :
    readData rounding json.compact = .ok (json.reread rounding) := by
  rw [readData_compact (isSound_of_isData hdata) hproper, settledBy_reread hdata]

end

example : (Json.object [("of", .integer 5), ("of", .null)]).isData = false := by decide

end MailTriage.Json
