import MailTriage.Text.Digits
import MailTriage.Rule
import MailTriage.Text.Lower

/-! # Conflicts between rules

Two enabled rules conflict when they cover a common sender and decide differently: label rules that
put different labels on it, assignee rules of the same priority that name different people.  What
the two conditions have in common is found by comparing them field by field (`Overlap`), without
looking at any sender.
-/
namespace MailTriage

/-- What two conditions have in common. -/
inductive Overlap where
  | sameEmail (email : String)
  | sameDomain (domain : String)
  /-- The address that one of them names lies in the domain that the other one names. -/
  | emailWithin (email domain : String)
deriving DecidableEq, Repr

/-- An overlap in words. -/
def Overlap.describe : Overlap → String
  | .sameEmail email => "fromEmail=" ++ email
  | .sameDomain domain => "fromDomain=" ++ domain
  | .emailWithin email domain => "fromEmail=" ++ email ++ " within fromDomain=" ++ domain

namespace Condition

/-- The common value of two options, if both have the same. -/
def commonValue? : Option String → Option String → Option String
  | some a, some b => if a = b then some a else none
  | _, _ => none

/-- Whether the address of the first condition lies in the domain of the second. -/
def emailWithin? (a b : Condition) : Option Overlap :=
  match a.email, b.domain with
  | some email, some domain =>
    if extractDomain email = some domain then some (.emailWithin email domain) else none
  | _, _ => none

/-- What two conditions have in common: the same address, else the same domain, else the address of
the first within the domain of the second, else the other way round. -/
def overlap? (a b : Condition) : Option Overlap :=
  let a := a.normalized
  let b := b.normalized
  ((commonValue? a.email b.email).map .sameEmail)
    <|> ((commonValue? a.domain b.domain).map .sameDomain)
    <|> emailWithin? a b
    <|> emailWithin? b a

end Condition

/-- The kinds of conflict, in the order in which they are reported. -/
inductive ConflictKind where
  | labelLabel
  | assigneeAssignee
  /-- Between a label rule and an assignee rule; no such conflict is looked for. -/
  | crossType
deriving DecidableEq, Repr

/-- The place of a kind of conflict in a report. -/
def ConflictKind.rank : ConflictKind → Nat
  | .labelLabel => 0
  | .assigneeAssignee => 1
  | .crossType => 2

/-- Two enabled rules that cover a common sender and decide differently. -/
structure Conflict where
  kind : ConflictKind
  /-- The smaller id of the two. -/
  firstId : String
  secondId : String
  overlap : Overlap
  /-- What the rule with the smaller id decides. -/
  firstResult : String
  secondResult : String
  /-- The priority that two assignee rules share. -/
  priority : Option Int64
deriving DecidableEq

namespace Conflict

/-- The ids of the two rules, the smaller one first. -/
def ruleIds (c : Conflict) : List String := [c.firstId, c.secondId]

/-- What the two rules decide, in the order of their ids. -/
def results (c : Conflict) : List String := [c.firstResult, c.secondResult]

/-- A conflict in words. -/
def message (c : Conflict) : String :=
  match c.priority with
  | none =>
    "label rules " ++ c.firstId ++ " and " ++ c.secondId ++ " both match " ++ c.overlap.describe
      ++ " but apply different labels"
  | some priority =>
    "assignee rules " ++ c.firstId ++ " and " ++ c.secondId ++ " share priority "
      ++ Text.decimalInt priority.toInt ++ " and both match " ++ c.overlap.describe
      ++ " but assign different people"

/-- The conflict of two rules, each given by its id and its result. -/
def between (kind : ConflictKind) (overlap : Overlap) (priority : Option Int64)
    (a b : String × String) : Conflict :=
  let (first, second) := if b.1 < a.1 then (b, a) else (a, b)
  { kind, overlap, priority, firstId := first.1, firstResult := first.2
    secondId := second.1, secondResult := second.2 }

/-- Whether one conflict is reported before or with another: by kind, then by ids. -/
def reportedBefore (a b : Conflict) : Bool :=
  if a.kind.rank ≠ b.kind.rank then a.kind.rank < b.kind.rank
  else if a.firstId ≠ b.firstId then a.firstId < b.firstId
  else a.secondId ≤ b.secondId

end Conflict

/-- The labels of a rule in words. -/
def LabelRule.result (rule : LabelRule) : String := ", ".intercalate rule.labels.toList

/-- The conflict of two label rules, if there is one. -/
def LabelRule.conflict? (a b : LabelRule) : Option Conflict :=
  if a.labels = b.labels then none
  else (a.condition.overlap? b.condition).map fun overlap =>
    .between .labelLabel overlap none (a.id, a.result) (b.id, b.result)

/-- The conflict of two assignee rules, if there is one.  Rules of different priorities have none:
the smaller priority counts. -/
def AssigneeRule.conflict? (a b : AssigneeRule) : Option Conflict :=
  if a.priority ≠ b.priority || Text.eqIgnoringAsciiCase a.assigneeEmail b.assigneeEmail then none
  else (a.condition.overlap? b.condition).map fun overlap =>
    .between .assigneeAssignee overlap (some a.priority) (a.id, a.assigneeEmail)
      (b.id, b.assigneeEmail)

/-- What a test finds in each pair of a list, an earlier and a later member, in the order of the
list. -/
def pairwiseFindings {α β : Type} (test : α → α → Option β) : List α → List β
  | [] => []
  | a :: rest => rest.filterMap (test a) ++ pairwiseFindings test rest

/-- The conflicts among label rules, pair by pair. -/
def labelConflicts (rules : List LabelRule) : List Conflict :=
  pairwiseFindings LabelRule.conflict? (rules.filter (·.enabled))

/-- The conflicts among assignee rules, pair by pair. -/
def assigneeConflicts (rules : List AssigneeRule) : List Conflict :=
  pairwiseFindings AssigneeRule.conflict? (rules.filter (·.enabled))

/-- All conflicts of some rules, ordered by kind and ids. -/
def findConflicts (labelRules : List LabelRule) (assigneeRules : List AssigneeRule) :
    List Conflict :=
  (labelConflicts labelRules ++ assigneeConflicts assigneeRules).mergeSort Conflict.reportedBefore

end MailTriage
