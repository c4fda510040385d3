import BatchFilter.Settings

/-! # Services

    A stage at work.  It is built with a registry, which makes its counters in
    a ledger, and then handles one batch after another, adding to the ledger
    at every step it takes.

    * `Settings.start`: building the stage.
    * `Stage.handleWith`: handling a batch, whoever is asked and whoever adds.
    * `Stage.handle`, `Stage.serve`: a batch, and one after another. -/

namespace BatchFilter

/-- Build the stage that settings ask for.  The counters that were registered
    are made in the ledger, also if there is no stage in the end. -/
def Settings.start (s : Settings) (r : Registry) (l : Ledger) : Ledger × Except Error Stage :=
  let attempt := s.build r
  (l.registerAll attempt.registered, attempt.result)

namespace Stage

section

variable {σ : Type} (ask : σ → SinglePart → σ × Bool) (add : σ → Increment → σ) (s : Stage)

/-- Test parts one by one, whoever is asked and whoever adds: their state after
    that, and the parts that are kept. -/
def siftWith (state : σ) : List Part → σ × List Part
  | [] => (state, [])
  | p :: rest =>
      let (state, verdict) := ask state ⟨p⟩
      if verdict then
        let (state, kept) := siftWith state rest
        (state, p :: kept)
      else siftWith (add state ⟨s.tally.partDropped, 1⟩) rest

/-- Handle a batch, whoever is asked and whoever adds. -/
def handleWith (state : σ) (b : Batch) : σ × Outcome :=
  let (state, kept) := s.siftWith ask add (add state ⟨s.tally.count, 1⟩) b.parts
  if kept.isEmpty then (add state ⟨s.tally.dropped, 1⟩, ⟨[], some .ack⟩)
  else
    (add (add state ⟨s.tally.sent, 1⟩) ⟨s.tally.partsSent, Int64.ofNat kept.length⟩,
      ⟨[⟨kept⟩], none⟩)

end

/-- Test parts one by one: the sums after that, and the parts that are kept. -/
def sift (s : Stage) (l : Ledger) (ps : List Part) : Ledger × List Part :=
  s.siftWith (fun l p => l.check s.condition p) Ledger.add l ps

theorem sift_cons (s : Stage) (l : Ledger) (p : Part) (ps : List Part) :
    s.sift l (p :: ps) =
      let checked := l.check s.condition ⟨p⟩
      if checked.2 then ((s.sift checked.1 ps).1, p :: (s.sift checked.1 ps).2)
      else s.sift (checked.1.add ⟨s.tally.partDropped, 1⟩) ps := rfl

/-- Handle a batch: the condition is asked, and the ledger is added to. -/
def handle (s : Stage) (l : Ledger) (b : Batch) : Ledger × Outcome :=
  s.handleWith (fun l p => l.check s.condition p) Ledger.add l b

theorem handle_eq (s : Stage) (l : Ledger) (b : Batch) :
    s.handle l b =
      let sifted := s.sift (l.add ⟨s.tally.count, 1⟩) b.parts
      if sifted.2.isEmpty then (sifted.1.add ⟨s.tally.dropped, 1⟩, ⟨[], some .ack⟩)
      else
        ((sifted.1.add ⟨s.tally.sent, 1⟩).add
          ⟨s.tally.partsSent, Int64.ofNat sifted.2.length⟩, ⟨[⟨sifted.2⟩], none⟩) := rfl

/-- Handle batches, one after another. -/
def serve (s : Stage) (l : Ledger) : List Batch → Ledger × List Outcome
  | [] => (l, [])
  | b :: rest =>
      let (l, outcome) := s.handle l b
      let (l, outcomes) := s.serve l rest
      (l, outcome :: outcomes)

end Stage

end BatchFilter
