import BatchFilter.Declarations

/-! # Sessions

    Conditions are given names, all at once or one by one, others are built
    with them, and whatever was built or looked up can be checked, in any
    order.  Who gets a condition holds it from then on: its name may be given
    to another one later, but what is held stays what it was.

    * `Session.Request`, `Session.Answer`: what is asked for, and what comes
      of it.
    * `Session.step`, `Session.run`: one request, and one after another. -/

namespace BatchFilter

/-! ## Section 1: Requests -/

/-- What there is between two requests. -/
structure Session where
  /-- The named conditions. -/
  pool : Pool
  /-- The conditions that are held, in the order in which they were got. -/
  held : List Condition
  ledger : Ledger

namespace Session

/-- What can be asked for. -/
inductive Request where
  /-- Build all declared conditions; they take the place of the named ones. -/
  | declare (r : Registry) (d : Declarations)
  /-- Build a condition and give it a name. -/
  | add (r : Registry) (name : String) (c : Config)
  /-- Build a condition and hold it. -/
  | build (r : Registry) (c : Config)
  /-- Look up a named condition and hold it. -/
  | hold (name : String)
  /-- Check a part with a named condition. -/
  | check (name : String) (s : SinglePart)
  /-- Check a part with a condition that is held, by its number. -/
  | checkHeld (i : Nat) (s : SinglePart)

/-- What comes of a request. -/
inductive Answer where
  | done
  | verdict (value : Bool)
  | failed (e : Error)
  /-- No condition is held under the number. -/
  | notHeld
  deriving DecidableEq

/-! ## Section 2: Steps -/

/-- Attempt something.  Its counters are registered even if it fails, and what
    comes of it is only used if it does not. -/
def attempt {α : Type} (σ : Session) (x : Attempt α) (use : Session → α → Session) :
    Session × Answer :=
  let σ := { σ with ledger := σ.ledger.registerAll x.registered }
  match x.result with
  | .ok a => (use σ a, .done)
  | .error e => (σ, .failed e)

/-- Give names to other conditions than before. -/
def rename (σ : Session) (pool : Pool) : Session :=
  { σ with pool := pool }

/-- Hold one more condition. -/
def keep (σ : Session) (c : Condition) : Session :=
  { σ with held := σ.held ++ [c] }

/-- Check a part with a condition. -/
def ask (σ : Session) (c : Condition) (s : SinglePart) : Session × Answer :=
  let (ledger, verdict) := σ.ledger.check c s
  ({ σ with ledger := ledger }, .verdict verdict)

/-- Deal with a request. -/
def step (σ : Session) : Request → Session × Answer
  | .declare r d => σ.attempt (d.build r) rename
  | .add r name c => σ.attempt (σ.pool.add r name c) rename
  | .build r c => σ.attempt (c.build σ.pool r) keep
  | .hold name => σ.attempt (.ofExcept (σ.pool.resolve name)) keep
  | .check name s =>
      match σ.pool.resolve name with
      | .ok c => σ.ask c s
      | .error e => (σ, .failed e)
  | .checkHeld i s =>
      match σ.held[i]? with
      | some c => σ.ask c s
      | none => (σ, .notHeld)

/-- Deal with requests, one after another. -/
def run (σ : Session) : List Request → Session × List Answer
  | [] => (σ, [])
  | q :: rest =>
      let (σ, answer) := σ.step q
      let (σ, answers) := σ.run rest
      (σ, answer :: answers)

end Session

end BatchFilter
