/-! # Texts and their bytes

Texts are ordered as their bytes are (`bytes_lt_bytes_iff`).  The first byte of a character tells how
many bytes it takes, so a character of more bytes comes later; among characters of as many bytes, the
first byte that differs decides as the number of the character does, since the bytes carry the digits
of that number, the highest ones first (`utf8EncodeChar_append_lt`).
-/
namespace MailTriage.Text

/-- The bytes of a text. -/
def bytes (text : String) : List UInt8 := text.toUTF8.data.toList

theorem bytes_eq (text : String) : bytes text = text.toList.flatMap String.utf8EncodeChar := by
  conv => lhs; rw [← String.ofList_toList (s := text)]
  rw [bytes, String.toUTF8_eq_toByteArray, String.toByteArray_ofList, List.utf8Encode,
    List.data_toByteArray]

theorem bytes_inj {text other : String} : bytes text = bytes other ↔ text = other := by
  refine ⟨fun h => String.toByteArray_inj.mp (ByteArray.ext (Array.toList_inj.mp h)), congrArg bytes⟩

/-- Of two texts of bytes the first byte decides, unless it is the same. -/
theorem ofNat_cons_lt {m n : Nat} (hm : m < 256) (hn : n < 256) {bs cs : List UInt8} :
    UInt8.ofNat m :: bs < UInt8.ofNat n :: cs ↔ m < n ∨ m = n ∧ bs < cs := by
  rw [List.cons_lt_cons_iff, UInt8.lt_iff_toNat_lt, ← UInt8.toNat_inj,
    UInt8.toNat_ofNat_of_lt' hm, UInt8.toNat_ofNat_of_lt' hn]

/-- **Earlier characters have earlier bytes**, whatever comes after them. -/
theorem utf8EncodeChar_append_lt {c d : Char} (h : c < d) (bs cs : List UInt8) :
    String.utf8EncodeChar c ++ bs < String.utf8EncodeChar d ++ cs := by
  have hcode : c.val.toNat < d.val.toNat := UInt32.lt_iff_toNat_lt.mp h
  have hbound : d.val.toNat < 0x110000 := by
    rcases d.valid with hlow | ⟨-, hhigh⟩
    · exact Nat.lt_trans hlow (by decide)
    · exact hhigh
  unfold String.utf8EncodeChar
  dsimp only
  generalize c.val.toNat = m at hcode
  generalize d.val.toNat = n at hcode hbound
  -- the three bits of the first of four bytes are enough for the highest digit
  have hm : m / 262144 % 8 = m / 262144 := Nat.mod_eq_of_lt (by omega)
  have hn : n / 262144 % 8 = n / 262144 := Nat.mod_eq_of_lt (by omega)
  rw [hm, hn]
  -- one case for each two numbers of bytes; where they differ the first byte decides
  repeat' split
  all_goals
    simp (disch := omega) only [List.cons_append, List.nil_append, ofNat_cons_lt]
    omega

theorem flatMap_utf8EncodeChar_lt {cs ds : List Char} (h : cs < ds) :
    cs.flatMap String.utf8EncodeChar < ds.flatMap String.utf8EncodeChar := by
  induction h with
  | @nil d ds =>
    obtain ⟨b, bs, hbytes⟩ := List.exists_cons_of_ne_nil (String.utf8EncodeChar_ne_nil (c := d))
    rw [List.flatMap_nil, List.flatMap_cons, hbytes]
    exact List.nil_lt_cons b _
  | cons _ ih =>
    rw [List.flatMap_cons, List.flatMap_cons]
    exact List.append_left_lt ih
  | rel hchar =>
    rw [List.flatMap_cons, List.flatMap_cons]
    exact utf8EncodeChar_append_lt hchar _ _

theorem bytes_lt_bytes {text other : String} (h : text < other) : bytes text < bytes other := by
  rw [bytes_eq, bytes_eq]
  exact flatMap_utf8EncodeChar_lt h

/-- **Texts are ordered as their bytes are.** -/
theorem bytes_lt_bytes_iff {text other : String} : bytes text < bytes other ↔ text < other := by
  refine ⟨fun h => ?_, bytes_lt_bytes⟩
  by_cases hlt : text < other
  · exact hlt
  · exfalso
    by_cases hgt : other < text
    · exact List.lt_asymm h (bytes_lt_bytes hgt)
    · have hsame := String.le_antisymm (String.not_lt.mp hlt) (String.not_lt.mp hgt)
      rw [hsame] at h
      exact List.lt_irrefl _ h

end MailTriage.Text
