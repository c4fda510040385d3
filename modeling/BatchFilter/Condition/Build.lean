import BatchFilter.Attempt
import BatchFilter.Config.Clause
import BatchFilter.Limits
import BatchFilter.Pool

/-! # Building Conditions

    A condition is built from what its config says, node by node, each
    node's own rule before its children and children from left to right;
    the first rule that is broken is the error.  Leaves register their
    counters as they are built, under the route that leads to them
    (`and.<i>`, `or.<i>`, `not`). -/

namespace BatchFilter

/-- The leaf for a test, its counters registered. -/
def buildLeaf (r : Registry) (kind : Kind) (test : Test) : Attempt Condition :=
  let tally := Tally.ofKind r kind.name
  ⟨.ok (.leaf test tally), tally.counters⟩

/-- The test of a text section. -/
def TextSection.test (s : TextSection) : Except Error Test :=
  (TextOperator.parse s.operator).map fun op => .text op s.part (op.prepare s.arg)

/-- The test of a metadata section. -/
def MetadataSection.test (s : MetadataSection) : Except Error Test :=
  if s.key = "" then .error (.invalidConfig .keyRequired)
  else
    (MetadataOperator.parse s.operator s.arg).map fun op =>
      .metadata op s.part s.key

/-- The rule on how many children a combination has. -/
def checkCount (kind : Kind) (count : Nat) : Except Error Unit :=
  if count = 0 then .error (.invalidConfig (.childrenRequired kind.name))
  else if count > Limits.conditionChildren then
    .error (.invalidConfig (.tooManyChildren kind.name count Limits.conditionChildren))
  else .ok ()

/-- The registry of a child. -/
def Registry.child (r : Registry) (kind : Kind) (i : Nat) : Registry :=
  .within (kind.name ++ "." ++ toString i) r

namespace Clause

mutual

/-- Build what a clause says. -/
def build (pool : Pool) (r : Registry) : Clause → Attempt Condition
  | .unknown kind => .fail (.unknownConditionType kind)
  | .static value => buildLeaf r .static (.static value)
  | .text s => (Attempt.ofExcept s.test).bind (buildLeaf r .text)
  | .metadata s => (Attempt.ofExcept s.test).bind (buildLeaf r .metadata)
  | .all children =>
      (Attempt.ofExcept (checkCount .all children.length)).bind fun _ =>
        (buildAll pool r .all 0 children).bind fun cs => pure (.all cs)
  | .any children =>
      (Attempt.ofExcept (checkCount .any children.length)).bind fun _ =>
        (buildAll pool r .any 0 children).bind fun cs => pure (.any cs)
  | .not child =>
      (build? pool (.within Kind.not.name r) child).bind fun c => pure (.not c)
  | .resource name =>
      if name = "" then .fail (.invalidConfig .nameRequired)
      else (Attempt.ofExcept (pool.resolve name)).bind fun c => pure (.shared c)

/-- Build children, of which the first has number `i`. -/
def buildAll (pool : Pool) (r : Registry) (kind : Kind) (i : Nat) :
    List Clause → Attempt (List Condition)
  | [] => pure []
  | c :: rest =>
      (c.build pool (r.child kind i)).bind fun first =>
        (buildAll pool r kind (i + 1) rest).bind fun others => pure (first :: others)

/-- Build the child of a negation, which must be there. -/
def build? (pool : Pool) (r : Registry) : Option Clause → Attempt Condition
  | none => .fail (.invalidConfig .childRequired)
  | some c => c.build pool r

end

end Clause

/-- Build a condition from its config.  How deep the config nests is looked
    at once, before anything is built; a type nobody knows nests no deeper
    than 1, so it is reported all the same. -/
def Config.build (pool : Pool) (r : Registry) (c : Config) : Attempt Condition :=
  if c.depth > Limits.conditionDepth then
    .fail (.invalidConfig (.tooDeep c.depth Limits.conditionDepth))
  else c.clause.build pool r

/-- The registry of a named condition. -/
def Registry.named (r : Registry) (name : String) : Registry :=
  .within ("resource.condition." ++ name) r

/-- Build a condition and give it a name.  If that fails there is no new
    pool, and whoever asked goes on with the old one. -/
def Pool.add (pool : Pool) (r : Registry) (name : String) (c : Config) : Attempt Pool :=
  (c.build pool (r.named name)).bind fun built => pure (pool.insert name built)

end BatchFilter
