import BatchFilter.Batch.Written
import BatchFilter.Stage
import BatchFilter.Stream.Frame
import BatchFilter.Stream.Sink

/-! # Runs

    A run reads a source line by line, lets a processor handle the batch on
    every line, and writes what the processor passes on, a batch a line, in
    the order of the lines they came from.

    Several lines are handled at a time: a line that was handed out waits in
    the window until its result is written.  Before a line is handed out,
    the oldest results are written until there is a place in the window for
    it, and at the end of the source the rest is written.  The places of the
    window are asked for beforehand, all in one piece.  What the system has to
    spare is not told here, but a piece may be larger than there can be any,
    and then the run breaks down.

    * `Report.ofLine`: what handling a line gives.
    * `Run.settle`: writing a result and counting it.
    * `Run.take`: one frame of the source.
    * `Run.complete`: a run that has its window.
    * `Run.perform`: a whole run. -/

namespace BatchFilter

/-! ## Section 1: Handling a line -/

/-- What handles batches.  It may break down over one (`none`). -/
abbrev Processor : Type := Batch → Option Outcome

/-- What handling a line gives. -/
inductive Report where
  /-- The line is no batch. -/
  | unreadable
  /-- The processor broke down. -/
  | brokeDown
  | handled (batch : Batch) (outcome : Outcome)

/-- Decode a line and let the processor handle its batch. -/
def Report.ofLine (p : Processor) (line : Bytes) : Report :=
  match Batch.ofLine line with
  | .error _ => .unreadable
  | .ok b =>
      match p b with
      | none => .brokeDown
      | some outcome => .handled b outcome

/-- The processor that a stage is.  It never breaks down. -/
def Stage.processor (s : Stage) : Processor :=
  fun b => some (s.process b)

/-- Is there nothing on a line but white space? -/
def isBlankLine (line : Bytes) : Bool :=
  line.all fun b => b == 0x20 || b == 0x09 || b == 0x0A || b == 0x0C || b == 0x0D

/-- The line that carries a batch, with its end. -/
def Batch.toLine (b : Batch) : Bytes :=
  Utf8.ofString b.encode ++ [lineFeed]

/-! ## Section 2: Totals -/

/-- The totals of a run. -/
structure Summary where
  /-- Batches that were handled. -/
  batchesIn : Nat := 0
  /-- Batches that were written. -/
  batchesOut : Nat := 0
  /-- Batches that were answered with an acknowledgment. -/
  acked : Nat := 0
  /-- Batches that were answered with an error, and lines that are no
      batch. -/
  errors : Nat := 0
  deriving DecidableEq

/-- The totals as JSON. -/
def Summary.toJson (s : Summary) : Json :=
  .object [("batches_in", .int s.batchesIn), ("batches_out", .int s.batchesOut),
    ("acked", .int s.acked), ("errors", .int s.errors)]

/-! ## Section 3: The state of a run -/

/-- A line that was handed out: its number, and what handling it gives. -/
structure Task where
  number : Nat
  report : Report

/-- How far a run is. -/
structure Run where
  /-- How many lines were read. -/
  lines : Nat := 0
  /-- The lines whose results are not written yet, oldest first. -/
  window : List Task := []
  summary : Summary := {}
  /-- The batches that were handled, newest first. -/
  handled : List Batch := []
  sink : Sink
  /-- What ended the run early. -/
  failure : Option Error := none

namespace Run

/-- End the run, unless it has already ended. -/
def fail (r : Run) (e : Error) : Run :=
  match r.failure with
  | some _ => r
  | none => { r with failure := some e }

/-- Go on unless the run has ended. -/
def andThen (r : Run) (step : Run → Run) : Run :=
  match r.failure with
  | some _ => r
  | none => step r

/-- Change the totals. -/
def count (r : Run) (f : Summary → Summary) : Run :=
  { r with summary := f r.summary }

/-- Count an error. -/
def countError (r : Run) : Run :=
  r.count fun s => { s with errors := s.errors + 1 }

/-! ## Section 4: Writing results -/

/-- Write a batch. -/
def put (r : Run) (b : Batch) : Run :=
  r.andThen fun r =>
    match r.sink.write b.toLine with
    | (sink, true) =>
        { r with sink := sink }.count fun s => { s with batchesOut := s.batchesOut + 1 }
    | (sink, false) => { r with sink := sink }.fail (.io (.writeOutput sink.refusal))

/-- Count how a batch was answered. -/
def answer (r : Run) (reply : Option Reply) : Run :=
  r.andThen fun r =>
    match reply with
    | none => r
    | some .ack => r.count fun s => { s with acked := s.acked + 1 }
    | some (.error _) => r.countError

/-- Count a batch that was handled. -/
def receive (r : Run) (b : Batch) : Run :=
  { r with handled := b :: r.handled }.count fun s => { s with batchesIn := s.batchesIn + 1 }

/-- Write the result of a line and count it. -/
def settle (r : Run) (t : Task) : Run :=
  r.andThen fun r =>
    match t.report with
    | .unreadable => r.countError
    | .brokeDown => r.fail (.io (.workerFailed t.number))
    | .handled b outcome =>
        (outcome.batches.foldl put (r.receive b)).answer outcome.reply

/-- Write the oldest results until no more than `keep` lines are in the
    window. -/
def settleDownTo (r : Run) (keep : Nat) : Run :=
  let due := r.window.length - keep
  (r.window.take due).foldl settle { r with window := r.window.drop due }

/-! ## Section 5: Whole runs -/

/-- How many lines may be in the window; at least one. -/
def windowSize (workers : Nat) : Nat :=
  max workers 1

/-- Take one frame: a line that is too long is an error, a blank one is
    left out, any other is handed out once there is a place for it. -/
def take (p : Processor) (workers : Nat) (r : Run) (f : Frame) : Run :=
  r.andThen fun r =>
    let number := r.lines + 1
    let r := { r with lines := number }
    match f with
    | .oversized _ => r.countError
    | .line data =>
        if isBlankLine data then r
        else
          -- A place is made first: the line is handed out after older results
          -- were written, and not at all if that failed.
          (r.settleDownTo (windowSize workers - 1)).andThen fun r =>
            { r with window := r.window ++ [⟨number, Report.ofLine p data⟩] }

/-- Flush the sink. -/
def flush (r : Run) : Run :=
  r.andThen fun r =>
    match r.sink.flushFailure with
    | none => r
    | some reason => r.fail (.io (.flushOutput reason))

/-- End of the source: write what is left, or leave it if the source
    failed. -/
def finish (r : Run) (failure : Option String) : Run :=
  match failure with
  | some reason => r.fail (.io (.readInput reason))
  | none => (r.settleDownTo 0).flush

/-- Run a processor over a source, lines limited to `max` bytes, with a window
    that is there. -/
def complete (p : Processor) (workers max : Nat) (source : Source) (sink : Sink) : Run :=
  let read := source.frames max
  (read.1.foldl (take p workers) { sink := sink }).finish read.2

/-- How many bytes a place in the window takes: the number of a line, and a
    handle on its worker. -/
def placeBytes : Nat := 16

/-- Can the places of the window be asked for in one piece? -/
def reservable (workers : Nat) : Bool :=
  windowSize workers * placeBytes ≤ Limits.reservedBytes

/-- Run a processor over a source, lines limited to `max` bytes.  Without a
    window nothing is read and nothing is written. -/
def perform (p : Processor) (workers max : Nat) (source : Source) (sink : Sink) : Run :=
  if reservable workers then complete p workers max source sink
  else { sink := sink, failure := some .windowTooLarge }

/-- The totals of a finished run, or what ended it early. -/
def result (r : Run) : Except Error Summary :=
  match r.failure with
  | some e => .error e
  | none => .ok r.summary

/-- What a finished run of a stage has added to the counters, in the order
    of the lines. -/
def increments (r : Run) (s : Stage) : List Increment :=
  r.handled.reverse.flatMap s.increments

end Run

end BatchFilter
