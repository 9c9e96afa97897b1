/-! # Finite sets of texts

A `TextSet` is a strictly increasing list of texts, in the order of code points.  So each set has
one form: two sets with the same members are equal (`TextSet.ext`), and listing a set gives its
members in order and each of them once.
-/
namespace MailTriage
namespace TextSet

/-- Adds a text to a strictly increasing list, at its place, unless it is there already. -/
def place (x : String) : List String → List String
  | [] => [x]
  | y :: rest =>
    if x < y then x :: y :: rest else if y < x then y :: place x rest else y :: rest

theorem mem_place {x z : String} {l : List String} : z ∈ place x l ↔ z = x ∨ z ∈ l := by
  induction l with
  | nil => simp [place]
  | cons y rest ih =>
    simp only [place]
    split
    · simp
    · split
      · simp only [List.mem_cons, ih]
        constructor
        · rintro (h | h | h) <;> simp [h]
        · rintro (h | h | h) <;> simp [h]
      · next h₁ h₂ =>
        have : x = y := String.le_antisymm (String.not_lt.mp h₂) (String.not_lt.mp h₁)
        subst this
        simp

theorem increasing_place {x : String} {l : List String} (h : l.Pairwise (· < ·)) :
    (place x l).Pairwise (· < ·) := by
  induction l with
  | nil => simp [place]
  | cons y rest ih =>
    rw [List.pairwise_cons] at h
    simp only [place]
    split
    · next hxy =>
      refine List.pairwise_cons.mpr ⟨fun z hz => ?_, List.pairwise_cons.mpr h⟩
      rcases List.mem_cons.mp hz with rfl | hz
      · exact hxy
      · exact String.lt_trans hxy (h.1 z hz)
    · split
      · next hyx =>
        refine List.pairwise_cons.mpr ⟨fun z hz => ?_, ih h.2⟩
        rcases mem_place.mp hz with rfl | hz
        · exact hyx
        · exact h.1 z hz
      · exact List.pairwise_cons.mpr h

end TextSet

/-- A finite set of texts, held as the strictly increasing list of its members. -/
structure TextSet where
  /-- The members, each once, in ascending order. -/
  toList : List String
  increasing : toList.Pairwise (· < ·)
deriving DecidableEq, Repr

namespace TextSet

instance : Membership String TextSet := ⟨fun s x => x ∈ s.toList⟩

instance (x : String) (s : TextSet) : Decidable (x ∈ s) :=
  inferInstanceAs (Decidable (x ∈ s.toList))

/-- The set without members. -/
def empty : TextSet := ⟨[], .nil⟩

instance : EmptyCollection TextSet := ⟨empty⟩
instance : Inhabited TextSet := ⟨empty⟩

/-- The set with one text more. -/
def insert (s : TextSet) (x : String) : TextSet := ⟨place x s.toList, increasing_place s.increasing⟩

/-- The set of the texts in a list. -/
def ofList (l : List String) : TextSet := l.foldr (fun x s => s.insert x) empty

/-- The texts that are in one set or the other. -/
def union (s t : TextSet) : TextSet := s.toList.foldr (fun x u => u.insert x) t

instance : Union TextSet := ⟨union⟩

/-- The texts that are in some set of a list. -/
def unions (sets : List TextSet) : TextSet := sets.foldr union empty

/-- The set with a single member. -/
def singleton (x : String) : TextSet := ofList [x]

/-- How many texts the set has. -/
def size (s : TextSet) : Nat := s.toList.length

/-- Whether the set has no members. -/
def isEmpty (s : TextSet) : Bool := s.toList.isEmpty

theorem mem_def {x : String} {s : TextSet} : x ∈ s ↔ x ∈ s.toList := Iff.rfl

@[simp] theorem not_mem_empty {x : String} : x ∉ (∅ : TextSet) := List.not_mem_nil

@[simp] theorem mem_insert {x y : String} {s : TextSet} : y ∈ s.insert x ↔ y = x ∨ y ∈ s :=
  mem_place

theorem ofList_cons (x : String) (l : List String) : ofList (x :: l) = (ofList l).insert x := rfl

@[simp] theorem mem_ofList {x : String} {l : List String} : x ∈ ofList l ↔ x ∈ l := by
  induction l with
  | nil => exact Iff.rfl
  | cons y rest ih => rw [ofList_cons, mem_insert, ih, List.mem_cons]

@[simp] theorem mem_union {x : String} {s t : TextSet} : x ∈ s ∪ t ↔ x ∈ s ∨ x ∈ t := by
  show x ∈ s.toList.foldr (fun x u => u.insert x) t ↔ x ∈ s.toList ∨ x ∈ t
  induction s.toList with
  | nil => simp
  | cons y rest ih => rw [List.foldr_cons, mem_insert, ih, List.mem_cons, or_assoc]

@[simp] theorem mem_unions {x : String} {sets : List TextSet} :
    x ∈ unions sets ↔ ∃ s ∈ sets, x ∈ s := by
  induction sets with
  | nil => simp [unions, empty, mem_def]
  | cons s rest ih =>
    rw [show unions (s :: rest) = s ∪ unions rest from rfl, mem_union, ih]
    simp

/-- Sets with the same members are equal. -/
theorem ext {s t : TextSet} (h : ∀ x, x ∈ s ↔ x ∈ t) : s = t := by
  obtain ⟨l, hl⟩ := s
  obtain ⟨m, hm⟩ := t
  congr 1
  induction l generalizing m with
  | nil =>
    cases m with
    | nil => rfl
    | cons y m => exact absurd ((h y).mpr List.mem_cons_self) List.not_mem_nil
  | cons x l ih =>
    cases m with
    | nil => exact absurd ((h x).mp List.mem_cons_self) List.not_mem_nil
    | cons y m =>
      have hl' := List.pairwise_cons.mp hl
      have hm' := List.pairwise_cons.mp hm
      have hxy : x = y := by
        rcases List.mem_cons.mp ((h x).mp List.mem_cons_self) with hx | hx
        · exact hx
        · rcases List.mem_cons.mp ((h y).mpr List.mem_cons_self) with hy | hy
          · exact hy.symm
          · exact absurd (hl'.1 y hy) (String.lt_asymm (hm'.1 x hx))
      subst hxy
      congr 1
      refine ih hl'.2 m hm'.2 fun z => ⟨fun hz => ?_, fun hz => ?_⟩
      · rcases List.mem_cons.mp ((h z).mp (List.mem_cons_of_mem x hz)) with rfl | hz'
        · exact absurd (hl'.1 z hz) (String.lt_irrefl z)
        · exact hz'
      · rcases List.mem_cons.mp ((h z).mpr (List.mem_cons_of_mem x hz)) with rfl | hz'
        · exact absurd (hm'.1 z hz) (String.lt_irrefl z)
        · exact hz'

end TextSet
end MailTriage
