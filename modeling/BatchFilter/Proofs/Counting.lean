import BatchFilter.Proofs.Breakdown
import BatchFilter.Proofs.Sums

/-! # Workers that Count

    A worker that filters a batch counts as it goes along, while other workers
    count too.  Nobody can tell whose increment comes next: all that is known
    is that a worker adds its own one after another, and gives its result back
    when it has added them all.

    * `CountingCrew`: a run on workers that count, and `CountingCrew.Step`:
      what may happen next.
    * `CountingCrew.Balanced`: what was added is what was handled, less what
      workers have yet to add.
    * `CountingCrew.reachable_progress`: counting holds nobody up.
    * `CountingCrew.closed_ledger`: whatever the order, the counters of a run
      that ended well have counted all its batches. -/

namespace BatchFilter

/-! ## Section 1: Batches that were handled -/

/-- The batch of a task, if it was handled. -/
def Task.batch? (t : Task) : Option Batch :=
  match t.report with
  | .handled b _ => some b
  | .unreadable | .brokeDown => none

namespace Run

/-- What handles nothing may be done under `andThen`. -/
theorem andThen_handled (r : Run) {step : Run → Run} (h : ∀ r, (step r).handled = r.handled) :
    (r.andThen step).handled = r.handled := by
  cases hf : r.failure with
  | none => rw [andThen_none hf, h]
  | some e => rw [andThen_some hf]

theorem fail_handled (r : Run) (e : Error) : (r.fail e).handled = r.handled := by
  unfold fail
  cases r.failure <;> rfl

theorem put_handled (r : Run) (b : Batch) : (r.put b).handled = r.handled := by
  apply andThen_handled
  intro r
  rcases r.sink.write b.toLine with ⟨sink, written⟩
  cases written with
  | true => rfl
  | false => exact fail_handled _ _

theorem foldl_put_handled (bs : List Batch) (r : Run) :
    (bs.foldl put r).handled = r.handled := by
  induction bs generalizing r with
  | nil => rfl
  | cons b bs ih => rw [List.foldl_cons, ih, put_handled]

theorem answer_handled (r : Run) (reply : Option Reply) : (r.answer reply).handled = r.handled := by
  apply andThen_handled
  intro r
  match reply with
  | none => rfl
  | some .ack => rfl
  | some (.error _) => rfl

theorem flush_handled (r : Run) : r.flush.handled = r.handled := by
  apply andThen_handled
  intro r
  cases r.sink.flushFailure with
  | none => rfl
  | some reason => exact fail_handled _ _

/-- Whoever settles a task has handled its batch, if there is one. -/
theorem settle_handled {r : Run} (h : r.failure = none) (t : Task) :
    (r.settle t).handled = t.batch?.toList ++ r.handled := by
  rw [settle, andThen_none h]
  obtain ⟨number, report⟩ := t
  cases report with
  | unreadable => rfl
  | brokeDown => exact fail_handled _ _
  | handled b outcome =>
    show ((outcome.batches.foldl put (r.receive b)).answer outcome.reply).handled = b :: r.handled
    rw [answer_handled, foldl_put_handled]
    rfl

theorem foldl_settle_handled {r : Run} {ts : List Task}
    (h : (ts.foldl settle r).failure = none) :
    (ts.foldl settle r).handled = (ts.filterMap Task.batch?).reverse ++ r.handled := by
  induction ts generalizing r with
  | nil => rfl
  | cons t ts ih =>
    have hgoing : r.failure = none := by
      -- A run that has ended settles nothing, and would not have gone on.
      cases hf : r.failure with
      | none => rfl
      | some e =>
        rw [foldl_settle_some hf, hf] at h
        cases h
    rw [List.foldl_cons] at h ⊢
    rw [ih h, settle_handled hgoing]
    cases hbatch : t.batch? with
    | none => rw [List.filterMap_cons_none hbatch, Option.toList_none, List.nil_append]
    | some b =>
      rw [List.filterMap_cons_some hbatch, List.reverse_cons, List.append_assoc]
      rfl

/-- The tasks of lines are about the batches on them. -/
theorem tasksOf_batches (f : Batch → Outcome) (max lines : Nat) (ls : List Line) :
    (tasksOf f max lines ls).filterMap Task.batch? = batchesOf max ls := by
  induction ls generalizing lines with
  | nil => rfl
  | cons l ls ih =>
    rcases tasksOf_cons f max lines l ls with ⟨hl, _, htasks⟩ | ⟨_, hcases⟩
    · rw [htasks, ih, batchesOf_none (congrArg Intake.batch? hl)]
    rcases hcases with ⟨hl, htasks⟩ | ⟨hl, htasks⟩ | ⟨b, hl, htasks⟩
    · rw [htasks, ih, batchesOf_none (congrArg Intake.batch? hl)]
    · have hnone : Task.batch? ⟨lines + 1, .unreadable⟩ = none := rfl
      rw [htasks, List.filterMap_cons_none hnone, ih, batchesOf_none (congrArg Intake.batch? hl)]
    · have hsome : Task.batch? ⟨lines + 1, .handled b (f b)⟩ = some b := rfl
      rw [htasks, List.filterMap_cons_some hsome, ih, batchesOf_some (congrArg Intake.batch? hl)]

theorem flush_failure {r : Run} (h : r.flush.failure = none) : r.failure = none := by
  cases hf : r.failure with
  | none => rfl
  | some e =>
    rw [flush_some hf, hf] at h
    cases h

/-- A run whose source fails does not end well. -/
theorem finish_failed (r : Run) (reason : String) : (r.finish (some reason)).failure ≠ none := by
  show (r.fail _).failure ≠ none
  unfold fail
  cases hf : r.failure with
  | none => nofun
  | some e =>
    rw [hf]
    nofun

section
variable (f : Batch → Outcome) (workers max : Nat) (source : Source) (sink : Sink)

/-- **A run that ends well** has read its source to the end and has handled
    every batch on its lines. -/
theorem complete_handled
    (h : (complete (fun b => some (f b)) workers max source sink).failure = none) :
    source.failure = none ∧
      (complete (fun b => some (f b)) workers max source sink).handled.reverse
        = batchesOf max (linesOf source.bytes) := by
  obtain ⟨pieces, failure⟩ := source
  cases failure with
  | some reason =>
    refine absurd h ?_
    unfold complete
    rw [Source.frames_eq]
    exact finish_failed _ reason
  | none =>
    refine ⟨rfl, ?_⟩
    have halike := complete_settled max (fun b => some (f b)) workers pieces sink
    rw [windUp, foldl_settle_aside] at halike
    change Alike _ (Run.flush (Run.aside ((tasksOf f max 0 _).foldl settle _) 0 [] _)) at halike
    have hgoing := flush_failure (halike.failure.symm.trans h)
    rw [aside_failure] at hgoing
    rw [halike.handled, flush_handled, aside_handled, foldl_settle_handled hgoing,
      tasksOf_batches, List.append_nil, List.reverse_reverse]
    rfl

end

end Run

/-! ## Section 2: The state -/

/-- What a worker counts for a line: nothing if it is no batch. -/
def Stage.lineIncrements (s : Stage) (line : Bytes) : List Increment :=
  match Batch.ofLine line with
  | .error _ => []
  | .ok b => s.increments b

/-- A run on workers that count. -/
structure CountingCrew where
  crew : Crew
  /-- What the workers have yet to add, job by job. -/
  owed : List (List Increment) := []
  ledger : Ledger

namespace CountingCrew

/-- At the start of a run. -/
def start (workers : Nat) (source : Source) (sink : Sink) (ledger : Ledger) :
    CountingCrew where
  crew := .start workers source sink
  ledger := ledger

/-- What may happen next. -/
inductive Step (s : Stage) (workers max : Nat) : CountingCrew → CountingCrew → Prop where
  /-- Any worker may add its next increment. -/
  | count {c : CountingCrew} {n : Nat} {i : Increment} {is : List Increment}
      (howed : c.owed[n]? = some (i :: is)) :
      Step s workers max c { c with owed := c.owed.set n is, ledger := c.ledger.add i }
  /-- A worker that has added everything may finish its line. -/
  | finish {c : CountingCrew} {before after : List Job} {j : Job}
      (hjobs : c.crew.jobs = before ++ j :: after) (hbusy : j.report = none)
      (hcounted : c.owed[before.length]? = some []) :
      Step s workers max c { c with
        crew := { c.crew with
          jobs := before ++ { j with report := some (Report.ofLine s.processor j.line) } :: after } }
  /-- Whoever is handed a line has all of its increments before it. -/
  | handOut {c : CountingCrew} {data : Bytes} (hplacing : c.crew.activity = .placing data)
      (hroom : c.crew.jobs.length < Run.windowSize workers) :
      Step s workers max c { c with
        crew := { c.crew with
          jobs := c.crew.jobs ++ [⟨c.crew.base.lines, data, none⟩], activity := .reading }
        owed := c.owed ++ [s.lineIncrements data] }
  | settle {c : CountingCrew} {j : Job} {rest : List Job} {report : Report}
      (hmust : c.crew.MustSettle workers) (hjobs : c.crew.jobs = j :: rest)
      (hdone : j.report = some report) :
      Step s workers max c { c with
        crew := c.crew.afterSettling (c.crew.base.settle ⟨j.number, report⟩) rest
        owed := c.owed.tail }
  /-- Whatever else the loop does is no business of the workers. -/
  | loop {c : CountingCrew} {crew : Crew} (hstep : Crew.Step s.processor workers max c.crew crew)
      (hjobs : crew.jobs = c.crew.jobs) :
      Step s workers max c { c with crew := crew }

/-- The states of runs over a source into a sink, whose counters stood as in a
    ledger. -/
inductive Reachable (s : Stage) (workers max : Nat) (source : Source) (sink : Sink)
    (ledger : Ledger) : CountingCrew → Prop where
  | start : Reachable s workers max source sink ledger (start workers source sink ledger)
  | step {c c' : CountingCrew} : Reachable s workers max source sink ledger c →
      Step s workers max c c' → Reachable s workers max source sink ledger c'

/-- To count does not change a run: it is a run on workers. -/
theorem reachable_crew {s : Stage} {workers max : Nat} {source : Source} {sink : Sink}
    {ledger : Ledger} {c : CountingCrew} (h : Reachable s workers max source sink ledger c) :
    Crew.Reachable s.processor workers max source sink c.crew := by
  induction h with
  | start => exact .start
  | step _ hstep ih =>
    cases hstep with
    | count howed => exact ih
    | finish hjobs hbusy hcounted => exact .step ih (.finish hjobs hbusy)
    | handOut hplacing hroom => exact .step ih (.handOut hplacing hroom)
    | settle hmust hjobs hdone => exact .step ih (.settle hmust hjobs hdone)
    | loop hstep hjobs => exact .step ih hstep

/-- A worker may add all that it owes before anybody else does anything. -/
theorem reachable_counts {s : Stage} {workers max : Nat} {source : Source} {sink : Sink}
    {ledger : Ledger} {c : CountingCrew} (h : Reachable s workers max source sink ledger c)
    {n : Nat} {is : List Increment} (howed : c.owed[n]? = some is) :
    Reachable s workers max source sink ledger
      { c with owed := c.owed.set n [], ledger := c.ledger.addAll is } := by
  obtain ⟨hn, hget⟩ := List.getElem?_eq_some_iff.mp howed
  induction is generalizing c with
  | nil =>
    have hset : c.owed.set n [] = c.owed := by
      rw [← hget]
      exact List.set_getElem_self hn
    rw [hset]
    exact h
  | cons i is ih =>
    have hn' : n < (c.owed.set n is).length := by
      rw [List.length_set]
      exact hn
    have hrest := ih (.step h (.count howed)) (List.getElem?_set_self hn) hn'
      (List.getElem_set_self hn')
    rw [List.set_set] at hrest
    exact hrest

/-! ## Section 3: The balance -/

/-- All that a run has to count for the lines it has handed out. -/
def due (s : Stage) (c : Crew) : List Increment :=
  c.base.handled.flatMap s.increments ++ c.jobs.flatMap fun j => s.lineIncrements j.line

/-- What holds of every state of a run on workers that count. -/
structure Balanced (s : Stage) (ledger : Ledger) (c : CountingCrew) : Prop where
  /-- There is something owed, if only nothing, for every job. -/
  length : c.owed.length = c.crew.jobs.length
  /-- Workers that have finished owe nothing. -/
  finished : ∀ (n : Nat) (j : Job), c.crew.jobs[n]? = some j → j.report ≠ none →
    c.owed[n]? = some []
  /-- What was added and what is owed are together what is due. -/
  counted : ∃ added, c.ledger = ledger.addAll added ∧
    (added ++ c.owed.flatten).Perm (due s c.crew)
  /-- Whoever ends well has written everything. -/
  closed : c.crew.activity = .closed → c.crew.base.failure = none → c.crew.jobs = []

/-- To add an increment that is owed moves it from one side to the other. -/
theorem flatten_set {owed : List (List Increment)} {n : Nat} {i : Increment}
    {is : List Increment} (h : owed[n]? = some (i :: is)) :
    (i :: (owed.set n is).flatten).Perm owed.flatten := by
  induction owed generalizing n with
  | nil => cases h
  | cons first rest ih =>
    cases n with
    | zero =>
      obtain rfl := Option.some.inj h
      exact .refl _
    | succ n =>
      rw [List.set_cons_succ, List.flatten_cons, List.flatten_cons]
      exact List.perm_middle.symm.trans ((ih h).append_left first)

theorem balanced_start (s : Stage) (workers : Nat) (source : Source) (sink : Sink)
    (ledger : Ledger) : Balanced s ledger (start workers source sink ledger) := by
  unfold start
  rcases Nat.lt_or_ge workers (2 ^ 59) with hfew | hmany
  · rw [Crew.start_eq hfew]
    exact ⟨rfl, nofun, ⟨[], rfl, .refl _⟩, nofun⟩
  · rw [Crew.start_overflow hmany]
    exact ⟨rfl, nofun, ⟨[], rfl, .refl _⟩, nofun⟩

theorem balanced_count {s : Stage} {ledger : Ledger} {c : CountingCrew}
    (hb : Balanced s ledger c) {n : Nat} {i : Increment} {is : List Increment}
    (howed : c.owed[n]? = some (i :: is)) :
    Balanced s ledger { c with owed := c.owed.set n is, ledger := c.ledger.add i } := by
  obtain ⟨added, hledger, hperm⟩ := hb.counted
  refine ⟨?_, ?_, ⟨added ++ [i], ?_, ?_⟩, hb.closed⟩
  · rw [List.length_set]
    exact hb.length
  · intro m j hj hdone
    have hm := hb.finished m j hj hdone
    -- A worker that has finished is not the one that adds something.
    have hne : n ≠ m := by
      rintro rfl
      rw [howed] at hm
      cases hm
    rw [List.getElem?_set_ne hne]
    exact hm
  · rw [hledger, Ledger.addAll_append]
    rfl
  · rw [List.append_assoc]
    exact ((flatten_set howed).append_left added).trans hperm

/-- What is in one place of a list does not matter in another. -/
theorem getElem?_around {α : Type} (before after : List α) (a a' : α) {n : Nat}
    (h : n ≠ before.length) : (before ++ a :: after)[n]? = (before ++ a' :: after)[n]? := by
  by_cases hn : n < before.length
  · rw [List.getElem?_append_left hn, List.getElem?_append_left hn]
  · have hle : before.length ≤ n := Nat.le_of_not_lt hn
    obtain ⟨k, hk⟩ : ∃ k, n - before.length = k + 1 := Nat.exists_eq_succ_of_ne_zero (by omega)
    rw [List.getElem?_append_right hle, List.getElem?_append_right hle, hk,
      List.getElem?_cons_succ, List.getElem?_cons_succ]

theorem balanced_finish {s : Stage} {ledger : Ledger} {c : CountingCrew}
    (hb : Balanced s ledger c) {before after : List Job} {j : Job}
    (hjobs : c.crew.jobs = before ++ j :: after) (hcounted : c.owed[before.length]? = some []) :
    Balanced s ledger { c with
      crew := { c.crew with
        jobs := before ++ { j with report := some (Report.ofLine s.processor j.line) } :: after } } := by
  have hlength := hb.length
  refine ⟨?_, ?_, ?_, ?_⟩
  · rw [hlength, hjobs, List.length_append, List.length_append, List.length_cons, List.length_cons]
  · intro m j' hj' hdone
    by_cases hm : m = before.length
    · rw [hm]
      exact hcounted
    · -- The other jobs are what they were.
      refine hb.finished m j' ?_ hdone
      rw [hjobs, ← hj']
      exact getElem?_around before after j _ hm
  · obtain ⟨added, hledger, hperm⟩ := hb.counted
    refine ⟨added, hledger, ?_⟩
    simpa only [due, hjobs, List.flatMap_append, List.flatMap_cons] using hperm
  · intro hover hgoing
    have hnil := hb.closed hover hgoing
    rw [hjobs] at hnil
    exact absurd hnil (List.append_ne_nil_of_right_ne_nil before (List.cons_ne_nil j after))

theorem balanced_handOut {s : Stage} {ledger : Ledger} {c : CountingCrew}
    (hb : Balanced s ledger c) (data : Bytes) :
    Balanced s ledger { c with
      crew := { c.crew with
        jobs := c.crew.jobs ++ [⟨c.crew.base.lines, data, none⟩], activity := .reading }
      owed := c.owed ++ [s.lineIncrements data] } := by
  have hlength := hb.length
  refine ⟨?_, ?_, ?_, nofun⟩
  · rw [List.length_append, List.length_append, hlength]
    rfl
  · intro m j hj hdone
    by_cases hm : m < c.crew.jobs.length
    · rw [List.getElem?_append_left hm] at hj
      rw [List.getElem?_append_left (hlength ▸ hm)]
      exact hb.finished m j hj hdone
    · -- The new job has just begun.
      rw [List.getElem?_append_right (Nat.le_of_not_lt hm)] at hj
      have hmem := List.mem_of_getElem? hj
      rw [List.mem_singleton.mp hmem] at hdone
      exact absurd rfl hdone
  · obtain ⟨added, hledger, hperm⟩ := hb.counted
    refine ⟨added, hledger, ?_⟩
    have hdue : due s { c.crew with
        jobs := c.crew.jobs ++ [⟨c.crew.base.lines, data, none⟩], activity := .reading }
        = due s c.crew ++ s.lineIncrements data := by
      simp only [due, List.flatMap_append, List.flatMap_singleton, List.append_assoc]
    rw [hdue, List.flatten_append, List.flatten_singleton, ← List.append_assoc]
    exact hperm.append_right _

/-- Once a line is settled its increments are those of a batch that was
    handled. -/
theorem handled_settle (s : Stage) {base : Run} (h : base.failure = none) (number : Nat)
    (line : Bytes) :
    (base.settle ⟨number, Report.ofLine s.processor line⟩).handled.flatMap s.increments
      = s.lineIncrements line ++ base.handled.flatMap s.increments := by
  rw [Run.settle_handled h]
  unfold Stage.lineIncrements Report.ofLine
  cases Batch.ofLine line with
  | error e => rfl
  | ok b => rfl

theorem balanced_settle {s : Stage} {workers max : Nat} {ledger : Ledger} {c : CountingCrew}
    (hv : c.crew.Valid s.processor workers max) (hb : Balanced s ledger c)
    (hmust : c.crew.MustSettle workers) {j : Job} {rest : List Job} {report : Report}
    (hjobs : c.crew.jobs = j :: rest) (hdone : j.report = some report) :
    Balanced s ledger { c with
      crew := c.crew.afterSettling (c.crew.base.settle ⟨j.number, report⟩) rest
      owed := c.owed.tail } := by
  have hopen : c.crew.activity ≠ .closed := by
    rcases hmust with h | ⟨⟨line, h⟩, _⟩ <;> simp [h]
  have hreport : report = Report.ofLine s.processor j.line :=
    hv.reports j (hjobs ▸ List.mem_cons_self) report hdone
  -- The oldest worker has finished, so it owes nothing.
  have howed : c.owed = [] :: c.owed.tail := by
    have hfirst : c.owed[0]? = some [] :=
      hb.finished 0 j (by rw [hjobs]; rfl) (by rw [hdone]; nofun)
    cases ho : c.owed with
    | nil =>
      rw [ho] at hfirst
      cases hfirst
    | cons first owed =>
      rw [ho] at hfirst
      rw [Option.some.inj hfirst]
      rfl
  have hlength := hb.length
  rw [howed, hjobs, List.length_cons, List.length_cons] at hlength
  refine ⟨Nat.succ.inj hlength, ?_, ?_, ?_⟩
  · intro m j' hj' hdone'
    have hm := hb.finished (m + 1) j' (by rw [hjobs]; exact hj') hdone'
    rw [howed] at hm
    exact hm
  · obtain ⟨added, hledger, hperm⟩ := hb.counted
    refine ⟨added, hledger, ?_⟩
    rw [howed, List.flatten_cons, List.nil_append, due, hjobs, List.flatMap_cons] at hperm
    have hhandled := handled_settle s (hv.running hopen) j.number j.line
    show (added ++ c.owed.tail.flatten).Perm
      ((c.crew.base.settle ⟨j.number, report⟩).handled.flatMap s.increments
        ++ rest.flatMap fun j => s.lineIncrements j.line)
    rw [hreport, hhandled]
    refine hperm.trans ?_
    rw [← List.append_assoc]
    exact List.perm_append_comm.append_right _
  · intro hover hgoing
    -- It would be over only if this had ended it.
    have hgoing' : (c.crew.base.settle ⟨j.number, report⟩).failure = none := hgoing
    simp only [Crew.afterSettling, hgoing', Option.isSome_none, Bool.false_eq_true,
      if_false] at hover
    exact absurd hover hopen

theorem balanced_loop {s : Stage} {workers max : Nat} {ledger : Ledger} {c : CountingCrew}
    (hb : Balanced s ledger c) {crew : Crew}
    (hstep : Crew.Step s.processor workers max c.crew crew) (hjobs : crew.jobs = c.crew.jobs) :
    Balanced s ledger { c with crew := crew } := by
  -- The loop handles nothing but in settling, which takes a job away, and is
  -- over when it has failed or when there are no jobs left.
  have hloop : crew.base.handled = c.crew.base.handled ∧
      (crew.activity = .closed → crew.base.failure = none → c.crew.jobs = []) := by
    have hreads : c.crew.activity = .reading → ¬c.crew.activity = .closed := by
      intro hreading hover
      rw [hreading] at hover
      cases hover
    cases hstep with
    | finish hold hbusy => exact ⟨rfl, hb.closed⟩
    | skipLong hreading hread => exact ⟨rfl, fun hover => absurd hover (hreads hreading)⟩
    | skipBlank hreading hread hblank => exact ⟨rfl, fun hover => absurd hover (hreads hreading)⟩
    | readLine hreading hread hblank => exact ⟨rfl, Activity.noConfusion⟩
    | handOut hplacing hroom => exact ⟨rfl, Activity.noConfusion⟩
    | @settle j rest report hmust hold hdone =>
      have hlength := congrArg List.length (hjobs.trans hold)
      simp [Crew.afterSettling] at hlength
    | sourceEnded hreading hread => exact ⟨rfl, Activity.noConfusion⟩
    | sourceFailed hreading hread =>
      refine ⟨Run.fail_handled _ _, ?_⟩
      intro _ hgoing
      exact absurd hgoing (Run.finish_failed c.crew.base _)
    | flush hdraining hold => exact ⟨Run.flush_handled _, fun _ _ => hold⟩
  obtain ⟨hhandled, hclosed⟩ := hloop
  refine ⟨?_, ?_, ?_, ?_⟩
  · rw [hjobs]
    exact hb.length
  · rw [hjobs]
    exact hb.finished
  · have hdue : due s crew = due s c.crew := by
      rw [due, hhandled, hjobs]
      rfl
    rw [hdue]
    exact hb.counted
  · rw [hjobs]
    exact hclosed

theorem balanced_step {s : Stage} {workers max : Nat} {ledger : Ledger} {c c' : CountingCrew}
    (hv : c.crew.Valid s.processor workers max) (hb : Balanced s ledger c)
    (h : Step s workers max c c') : Balanced s ledger c' := by
  cases h with
  | count howed => exact balanced_count hb howed
  | finish hjobs hbusy hcounted => exact balanced_finish hb hjobs hcounted
  | handOut hplacing hroom => exact balanced_handOut hb _
  | settle hmust hjobs hdone => exact balanced_settle hv hb hmust hjobs hdone
  | loop hstep hjobs => exact balanced_loop hb hstep hjobs

theorem reachable_balanced {s : Stage} {workers max : Nat} {source : Source} {sink : Sink}
    {ledger : Ledger} {c : CountingCrew} (h : Reachable s workers max source sink ledger c) :
    Balanced s ledger c := by
  induction h with
  | start => exact balanced_start s workers source sink ledger
  | step hreach hstep ih =>
    exact balanced_step (Crew.reachable_valid (reachable_crew hreach)) ih hstep

/-- **Counting holds nobody up.**  As long as a run is not over, something may
    happen next. -/
theorem reachable_progress {s : Stage} {workers max : Nat} {source : Source} {sink : Sink}
    {ledger : Ledger} {c : CountingCrew} (h : Reachable s workers max source sink ledger c)
    (hopen : c.crew.activity ≠ .closed) : ∃ c', Step s workers max c c' := by
  obtain ⟨crew, hstep⟩ := Crew.progress s.processor workers max hopen
  cases hstep with
  | @finish before after j hjobs hbusy =>
    -- The worker that might finish may still have something to add.
    have hn : before.length < c.owed.length := by
      rw [(reachable_balanced h).length, hjobs, List.length_append, List.length_cons]
      omega
    have howed := List.getElem?_eq_getElem hn
    cases hi : c.owed[before.length] with
    | nil => exact ⟨_, .finish hjobs hbusy (howed.trans (congrArg some hi))⟩
    | cons i is => exact ⟨_, .count (howed.trans (congrArg some hi))⟩
  | handOut hplacing hroom => exact ⟨_, .handOut hplacing hroom⟩
  | settle hmust hjobs hdone => exact ⟨_, .settle hmust hjobs hdone⟩
  | skipLong hreading hread => exact ⟨_, .loop (.skipLong hreading hread) rfl⟩
  | skipBlank hreading hread hblank => exact ⟨_, .loop (.skipBlank hreading hread hblank) rfl⟩
  | readLine hreading hread hblank => exact ⟨_, .loop (.readLine hreading hread hblank) rfl⟩
  | sourceEnded hreading hread => exact ⟨_, .loop (.sourceEnded hreading hread) rfl⟩
  | sourceFailed hreading hread => exact ⟨_, .loop (.sourceFailed hreading hread) rfl⟩
  | flush hdraining hjobs => exact ⟨_, .loop (.flush hdraining hjobs) rfl⟩

/-! ## Section 4: The end -/

/-- **Whatever the order of increments**, the counters of a run that ended well
    have counted every batch on its lines, and nothing else. -/
theorem closed_ledger {s : Stage} {workers max : Nat} {source : Source} {sink : Sink}
    {ledger : Ledger} {c : CountingCrew} (h : Reachable s workers max source sink ledger c)
    (hover : c.crew.activity = .closed) (hgoing : c.crew.base.failure = none) :
    c.ledger
      = ledger.addAll ((batchesOf max (linesOf source.bytes)).flatMap s.increments) := by
  have hb := reachable_balanced h
  have halike := Crew.reachable_closed_going (reachable_crew h) hover hgoing
  obtain ⟨_, hhandled⟩ := Run.complete_handled s.process workers max source sink
    (halike.failure.symm.trans hgoing)
  obtain ⟨added, hledger, hperm⟩ := hb.counted
  have hjobs := hb.closed hover hgoing
  have howed : c.owed = [] := by
    apply List.eq_nil_of_length_eq_zero
    rw [hb.length, hjobs]
    rfl
  rw [howed, due, hjobs, List.flatten_nil, List.flatMap_nil, List.append_nil,
    List.append_nil, halike.handled] at hperm
  rw [hledger, ← hhandled]
  apply ledger.addAll_perm
  exact hperm.trans ((List.reverse_perm _).symm.flatMap_right _)

end CountingCrew

end BatchFilter
