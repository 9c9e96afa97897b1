import MailTriage.Address
import MailTriage.Mailbox

/-! # Looking up senders

The senders of some messages are looked up, each message once and a bounded number at a time.  Which
lookup in flight completes next is not known beforehand; `completionOrder` takes it from outside,
and every order of completion has the same lookups in it (`completionOrder_perm`).
-/
namespace MailTriage

/-- The order in which lookups complete.  They start in the order of the list, as many at once as
the limit says but at least one; of those in flight, the one that completes next is chosen by how
many are not yet complete. -/
def completionOrder {α : Type} (limit : Nat) (choose : Nat → Nat) (pending : List α) : List α :=
  match _found : pending[choose pending.length % min (max limit 1) pending.length]? with
  | none => []
  | some done =>
    done :: completionOrder limit choose
      (pending.eraseIdx (choose pending.length % min (max limit 1) pending.length))
termination_by pending.length
decreasing_by
  have hlt := (List.getElem?_eq_some_iff.mp _found).1
  rw [List.length_eraseIdx_of_lt hlt]
  omega

/-- A list is its item at some place and the other items, in some order. -/
theorem getElem_cons_eraseIdx_perm {α : Type} {l : List α} {i : Nat} (h : i < l.length) :
    (l[i] :: l.eraseIdx i).Perm l := by
  induction l generalizing i with
  | nil => exact absurd h (Nat.not_lt_zero i)
  | cons x rest ih =>
    cases i with
    | zero => exact .refl _
    | succ i =>
      have h : i < rest.length := Nat.lt_of_succ_lt_succ h
      exact (List.Perm.swap x rest[i] (rest.eraseIdx i)).trans ((ih h).cons x)

/-- Every lookup that starts completes, once. -/
theorem completionOrder_perm {α : Type} (limit : Nat) (choose : Nat → Nat) (pending : List α) :
    (completionOrder limit choose pending).Perm pending := by
  induction pending using completionOrder.induct limit choose with
  | case1 pending h =>
    rw [completionOrder]
    have hnil : pending = [] := by
      have hle := List.getElem?_eq_none_iff.mp h
      cases pending with
      | nil => rfl
      | cons x rest =>
        have hpos : 0 < min (max limit 1) (x :: rest).length := by
          rw [List.length_cons]; omega
        have := Nat.mod_lt (choose (x :: rest).length) hpos
        have := Nat.min_le_right (max limit 1) (x :: rest).length
        omega
    subst hnil
    simp
  | case2 pending done h ih =>
    rw [completionOrder]
    split
    · next hnone => rw [hnone] at h; cases h
    · next x hx =>
      rw [h] at hx
      cases hx
      obtain ⟨hlt, rfl⟩ := List.getElem?_eq_some_iff.mp h
      exact (ih.cons _).trans (getElem_cons_eraseIdx_perm hlt)

/-- A lookup with its answer. -/
structure SenderLookup where
  messageId : String
  answer : Except StoreError (Option String)

namespace SenderLookup

/-- Asks for the senders of some messages. -/
def all (mailbox : Mailbox) (messageIds : List String) : List SenderLookup :=
  messageIds.map fun id => { messageId := id, answer := mailbox.senderOf id }

/-- The sender that was found, if it is an address. -/
def sender? (lookup : SenderLookup) : Option Sender :=
  match lookup.answer with
  | .ok (some text) => Sender.parse? text
  | _ => none

/-- Why there was no answer. -/
def failure? (lookup : SenderLookup) : Option StoreError :=
  match lookup.answer with
  | .error why => some why
  | .ok _ => none

/-- The sender of a message among some lookups. -/
def find? (lookups : List SenderLookup) (messageId : String) : Option Sender :=
  (lookups.find? fun lookup => lookup.messageId == messageId).bind (·.sender?)

/-- How many of some lookups had no answer. -/
def failures (lookups : List SenderLookup) : Nat := (lookups.filterMap (·.failure?)).length

end SenderLookup
end MailTriage
