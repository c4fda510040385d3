import BatchFilter.Declarations
import BatchFilter.Reply

/-! # Stages

    The filtering stage tests every part of a batch alone against its
    condition and passes on the parts that satisfy it.  If there are none
    the batch ends here, and its source is told that it was dealt with.

    The stage counts batches, rejected parts, batches dropped, batches sent
    and parts sent. -/

namespace BatchFilter

/-! ## Section 1: Configs -/

/-- The name of the filtering stage's type. -/
def Stage.typeName : String := "filter_parts"

/-- What the filtering stage does, for the listing of types. -/
def Stage.description : String :=
  "Tests each individual part of a message batch against a "
    ++ "condition; parts that fail are dropped. If the resulting "
    ++ "batch is empty it is dropped and the source acknowledged. "
    ++ "Each condition sees a part as if it were a single-part "
    ++ "message. Useful for removing specific parts from batches."

/-- A stage's config: the name of a type, and the section of the only type
    there is, which is the config of its condition. -/
structure StageConfig where
  kind : String := Stage.typeName
  condition : Config := {}

/-! ## Section 2: Counters -/

/-- The namespace of the stage's condition. -/
def Stage.ns : String := "processor.filter_parts"

/-- The stage's counters. -/
structure StageTally where
  count : Counter
  partDropped : Counter
  dropped : Counter
  sent : Counter
  partsSent : Counter
  deriving DecidableEq

namespace StageTally

/-- The paths of the stage's counters, in the order they are registered. -/
def paths : List String :=
  ["processor.filter_parts.count", "processor.filter_parts.part.dropped",
    "processor.filter_parts.dropped", "processor.filter_parts.sent",
    "processor.filter_parts.parts.sent"]

/-- The stage's counters in a registry. -/
def ofRegistry (r : Registry) : StageTally where
  count := r.counter "processor.filter_parts.count"
  partDropped := r.counter "processor.filter_parts.part.dropped"
  dropped := r.counter "processor.filter_parts.dropped"
  sent := r.counter "processor.filter_parts.sent"
  partsSent := r.counter "processor.filter_parts.parts.sent"

/-- The counters in the order they are registered. -/
def counters (t : StageTally) : List Counter :=
  [t.count, t.partDropped, t.dropped, t.sent, t.partsSent]

end StageTally

/-! ## Section 3: The stage -/

/-- A stage that can process batches. -/
structure Stage where
  condition : Condition
  tally : StageTally

/-- What processing a batch gives: batches to pass on, and an answer for the
    source or none. -/
structure Outcome where
  batches : List Batch
  reply : Option Reply
  deriving DecidableEq

namespace Stage

/-- Build the filtering stage for a condition.  The condition's counters
    come before the stage's own, which are not under the namespace. -/
def build (pool : Pool) (r : Registry) (condition : Config) : Attempt Stage :=
  ((condition.build pool (.within ns r)).mapError
      (.conditionConstruction condition.kind)).bind fun built =>
    let tally := StageTally.ofRegistry r
    (Attempt.register tally.counters).bind fun _ => pure ⟨built, tally⟩

/-- The parts that satisfy the condition, in order. -/
def kept (s : Stage) (b : Batch) : List Part :=
  b.parts.filter fun p => s.condition.holds ⟨p⟩

/-- What a batch with these parts left gives. -/
def outcome (kept : List Part) : Outcome :=
  if kept.isEmpty then ⟨[], some .ack⟩ else ⟨[⟨kept⟩], none⟩

/-- Process a batch. -/
def process (s : Stage) (b : Batch) : Outcome :=
  outcome (s.kept b)

/-- What testing one part adds to the counters. -/
def partIncrements (s : Stage) (p : Part) : List Increment :=
  let answer := s.condition.check ⟨p⟩
  answer.increments ++ if answer.verdict then [] else [⟨s.tally.partDropped, 1⟩]

/-- What processing a batch adds to the counters, in order. -/
def increments (s : Stage) (b : Batch) : List Increment :=
  let n := (s.kept b).length
  [⟨s.tally.count, 1⟩] ++ b.parts.flatMap s.partIncrements
    ++ if n = 0 then [⟨s.tally.dropped, 1⟩]
      else [⟨s.tally.sent, 1⟩, ⟨s.tally.partsSent, Int64.ofNat n⟩]

end Stage

/-- Build the stage that a config asks for. -/
def StageConfig.build (pool : Pool) (r : Registry) (c : StageConfig) : Attempt Stage :=
  if c.kind = Stage.typeName then Stage.build pool r c.condition
  else .fail (.unknownProcessorType c.kind)

end BatchFilter
