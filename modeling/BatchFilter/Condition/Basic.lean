import BatchFilter.Condition.Operator
import BatchFilter.Counter

/-! # Conditions

    A condition is built once and then checked against many parts.  Its
    leaves test the part and count what they answer; its inner nodes combine
    the answers of their children from left to right and stop as soon as the
    answer is known, so that a later child is neither asked nor counted.

    * `Test.holds`: the answer of a leaf.
    * `Condition.check`: the answer of a condition, with the leaves that
      were asked, in order. -/

namespace BatchFilter

/-! ## Section 1: Leaves -/

/-- What a leaf tests. -/
inductive Test where
  | static (value : Bool)
  | text (op : TextOperator) (part : Int64) (arg : Bytes)
  | metadata (op : MetadataOperator) (part : Int64) (key : String)
  deriving DecidableEq

/-- The answer of a test.  There is nothing to be found at a part index that
    does not exist or under a key that is not set. -/
def Test.holds (t : Test) (s : SinglePart) : Bool :=
  match t with
  | .static value => value
  | .text op part arg =>
      match s.get? part with
      | none => false
      | some p => op.holds arg p
  | .metadata op part key =>
      match s.get? part with
      | none => false
      | some p => (p.metadata.find? key).any op.holds

/-- The counters of a leaf: all answers, the positive and the negative
    ones. -/
structure Tally where
  count : Counter
  hit : Counter
  miss : Counter
  deriving DecidableEq

namespace Tally

/-- The counters of a leaf of the given type. -/
def ofKind (r : Registry) (kind : String) : Tally where
  count := r.counter ("condition." ++ kind ++ ".count")
  hit := r.counter ("condition." ++ kind ++ ".true")
  miss := r.counter ("condition." ++ kind ++ ".false")

/-- The counters in the order they are registered in. -/
def counters (t : Tally) : List Counter :=
  [t.count, t.hit, t.miss]

/-- What an answer adds to the counters. -/
def increments (t : Tally) (verdict : Bool) : List Increment :=
  [⟨t.count, 1⟩, ⟨if verdict then t.hit else t.miss, 1⟩]

end Tally

/-! ## Section 2: Conditions -/

/-- A condition that can be checked. -/
inductive Condition where
  | leaf (test : Test) (tally : Tally)
  | all (children : List Condition)
  | any (children : List Condition)
  | not (child : Condition)
  /-- A named condition, as it was when it was referred to. -/
  | shared (target : Condition)

/-- A leaf that was asked, and its answer. -/
structure Visit where
  tally : Tally
  verdict : Bool
  deriving DecidableEq

/-- The answer of a condition and the leaves that were asked for it. -/
structure Checked where
  verdict : Bool
  visits : List Visit
  deriving DecidableEq

namespace Condition

mutual

/-- Check a part. -/
def check : Condition → SinglePart → Checked
  | .leaf test tally, s =>
      let verdict := test.holds s
      ⟨verdict, [⟨tally, verdict⟩]⟩
  | .all children, s => checkAll children s
  | .any children, s => checkAny children s
  | .not child, s =>
      let answer := child.check s
      ⟨!answer.verdict, answer.visits⟩
  | .shared target, s => target.check s

/-- Check until a condition does not hold. -/
def checkAll : List Condition → SinglePart → Checked
  | [], _ => ⟨true, []⟩
  | c :: rest, s =>
      let answer := c.check s
      if answer.verdict then
        let others := checkAll rest s
        ⟨others.verdict, answer.visits ++ others.visits⟩
      else answer

/-- Check until a condition holds. -/
def checkAny : List Condition → SinglePart → Checked
  | [], _ => ⟨false, []⟩
  | c :: rest, s =>
      let answer := c.check s
      if answer.verdict then answer
      else
        let others := checkAny rest s
        ⟨others.verdict, answer.visits ++ others.visits⟩

end

/-- Does the condition hold for a part? -/
def holds (c : Condition) (s : SinglePart) : Bool :=
  (c.check s).verdict

end Condition

/-- What the visits of a check add to the counters. -/
def Checked.increments (a : Checked) : List Increment :=
  a.visits.flatMap fun v => v.tally.increments v.verdict

/-! ## Section 3: Checks that are counted -/

namespace Ledger

/-- Check a part: the sums after it, and the answer. -/
def check (l : Ledger) (c : Condition) (s : SinglePart) : Ledger × Bool :=
  let answer := c.check s
  (l.addAll answer.increments, answer.verdict)

/-- The sums after checks of conditions, one after another. -/
def afterChecks (l : Ledger) (checks : List (Condition × SinglePart)) : Ledger :=
  checks.foldl (fun l e => (l.check e.1 e.2).1) l

end Ledger

end BatchFilter
