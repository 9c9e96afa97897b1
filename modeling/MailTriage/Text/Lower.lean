import MailTriage.Text.Casing

/-! # Small letters

Full lower-casing of a text: every capital letter becomes its small letter, and capital sigma
becomes `ς` at the end of a word and `σ` elsewhere.  Whether a sigma ends a word is read off its
neighbours (`endsWord`), so the small form of a text depends on each character's context and not
on the character alone.

Some keywords and addresses are compared with only the letters `A` to `Z` and `a` to `z` identified
(`eqIgnoringAsciiCase`).  All other characters, accented letters included, count as they stand.
-/
namespace MailTriage.Text

/-! ### Lower-casing -/

/-- The small form of a character seen alone: two characters for `İ`, one for all others. -/
def lowerChar (c : Char) : List Char :=
  if c = 'İ' then ['i', '\u0307']
  else match shiftOf capitalRuns c.toNat with
    | some shift => [Char.ofNat (c.toNat + shift).toNat]
    | none => [c]

/-- Whether the first character that is not case-ignorable exists and is cased. -/
def meetsCased : List Char → Bool
  | [] => false
  | c :: rest => if isCaseIgnorable c then meetsCased rest else isCased c

/-- Whether a sigma ends a word: a cased character lies before it and none after it, looking past
case-ignorable characters both ways.  The characters before it are given nearest first. -/
def endsWord (before after : List Char) : Bool :=
  meetsCased before && !meetsCased after

/-- The small form of `c` between the characters `before` (nearest first) and `after`. -/
def lowerAt (before : List Char) (c : Char) (after : List Char) : List Char :=
  if c = 'Σ' then [if endsWord before after then 'ς' else 'σ'] else lowerChar c

/-- The small form of a text that follows the characters `before` (nearest first). -/
def lowerAfter (before : List Char) : List Char → List Char
  | [] => []
  | c :: rest => lowerAt before c rest ++ lowerAfter (c :: before) rest

/-- The small form of a sequence of characters. -/
def lowerChars (cs : List Char) : List Char := lowerAfter [] cs

/-- The small form of a text. -/
def lower (s : String) : String := String.ofList (lowerChars s.toList)

@[simp] theorem lowerAfter_nil (before : List Char) : lowerAfter before [] = [] := rfl

theorem lowerAfter_cons (before : List Char) (c : Char) (rest : List Char) :
    lowerAfter before (c :: rest) = lowerAt before c rest ++ lowerAfter (c :: before) rest := rfl

@[simp] theorem toList_lower (s : String) : (lower s).toList = lowerChars s.toList :=
  String.toList_ofList

/-! ### ASCII letters -/

/-- The text with `A` to `Z` made small and everything else kept. -/
def foldAscii (s : String) : List Char := s.toList.map Char.toLower

/-- Whether two texts differ at most in the case of ASCII letters. -/
def eqIgnoringAsciiCase (s t : String) : Bool := foldAscii s == foldAscii t

theorem eqIgnoringAsciiCase_iff {s t : String} :
    eqIgnoringAsciiCase s t = true ↔ foldAscii s = foldAscii t := beq_iff_eq

end MailTriage.Text
