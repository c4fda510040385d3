import BatchFilter.Proofs.Settling

/-! # Runs on Workers

    The lines of a run are handled by workers that take their own time.  One
    loop reads the source, hands lines out and writes results; it waits for
    nobody but the worker of the oldest line it still has to write.  Which
    step comes next, one of the loop or one of a worker, nobody can tell.

    * `Crew`: the state of such a run, and `Crew.Step`: what may happen next.
    * `Crew.Reachable`: the states of all runs, in any order of steps.
    * `Crew.step_measure`, `Crew.progress`: every order of steps ends, and
      only when the run is over.
    * `Crew.reachable_ending`: whatever the order, a run that is over has ended
      like `Run.perform`.
    * `Crew.every_order_ends`: so every order comes to the same. -/

namespace BatchFilter

/-! ## Section 1: The state -/

/-- A line that was handed to a worker. -/
structure Job where
  number : Nat
  line : Bytes
  /-- What the worker gave back, once it has finished. -/
  report : Option Report := none

/-- What its worker makes of a job. -/
def Job.task (p : Processor) (j : Job) : Task :=
  ⟨j.number, Report.ofLine p j.line⟩

/-- What the loop of a run is at. -/
inductive Activity where
  /-- It reads the next line. -/
  | reading
  /-- It has read a line and needs a place in the window for it. -/
  | placing (line : Bytes)
  /-- The source has ended; it writes what is left. -/
  | draining
  /-- It is over. -/
  | closed

/-- A run on workers. -/
structure Crew where
  /-- What is left to read. -/
  source : Source
  /-- What was read, counted and written so far.  Its window is not used. -/
  base : Run
  /-- The lines that were handed out and not written yet, oldest first. -/
  jobs : List Job := []
  activity : Activity := .reading

namespace Crew

/-- At the start of a run.  Without a window it is over at once. -/
def start (workers : Nat) (source : Source) (sink : Sink) : Crew :=
  if Run.reservable workers then { source := source, base := { sink := sink } }
  else
    { source := source
      base := { sink := sink, failure := some .windowTooLarge }
      activity := .closed }

theorem start_eq {workers : Nat} (h : workers < 2 ^ 59) (source : Source) (sink : Sink) :
    start workers source sink = { source := source, base := { sink := sink } } :=
  if_pos (Run.reservable_iff.mpr h)

theorem start_overflow {workers : Nat} (h : 2 ^ 59 ≤ workers) (source : Source) (sink : Sink) :
    start workers source sink =
      { source := source
        base := { sink := sink, failure := some .windowTooLarge }
        activity := .closed } := by
  unfold start
  rw [Run.reservable_eq_false h]
  rfl

/-- Before a frame is looked at, its line is counted. -/
def advance (c : Crew) (rest : Source) : Crew :=
  { c with source := rest, base := { c.base with lines := c.base.lines + 1 } }

/-- Go on with the oldest job written, unless that ended the run. -/
def afterSettling (c : Crew) (base : Run) (jobs : List Job) : Crew :=
  { c with
    base := base
    jobs := jobs
    activity := if base.failure.isSome then .closed else c.activity }

/-- Must the loop write the oldest result now? -/
def MustSettle (workers : Nat) (c : Crew) : Prop :=
  c.activity = .draining ∨
    (∃ line, c.activity = .placing line) ∧ Run.windowSize workers ≤ c.jobs.length

/-- What may happen next. -/
inductive Step (p : Processor) (workers max : Nat) : Crew → Crew → Prop where
  /-- Any worker that is still at its line may finish it. -/
  | finish {c : Crew} {before after : List Job} {j : Job}
      (hjobs : c.jobs = before ++ j :: after) (hbusy : j.report = none) :
      Step p workers max c
        { c with jobs := before ++ { j with report := some (Report.ofLine p j.line) } :: after }
  /-- A line past the limit is an error. -/
  | skipLong {c : Crew} {length : Nat} {rest : Source} (hreading : c.activity = .reading)
      (hread : c.source.read max = .frame (.oversized length) rest) :
      Step p workers max c { c.advance rest with base := (c.advance rest).base.countError }
  /-- A blank line is left out. -/
  | skipBlank {c : Crew} {data : Bytes} {rest : Source} (hreading : c.activity = .reading)
      (hread : c.source.read max = .frame (.line data) rest) (hblank : isBlankLine data = true) :
      Step p workers max c (c.advance rest)
  | readLine {c : Crew} {data : Bytes} {rest : Source} (hreading : c.activity = .reading)
      (hread : c.source.read max = .frame (.line data) rest) (hblank : isBlankLine data = false) :
      Step p workers max c { c.advance rest with activity := .placing data }
  /-- A line is handed out when there is a place for it. -/
  | handOut {c : Crew} {data : Bytes} (hplacing : c.activity = .placing data)
      (hroom : c.jobs.length < Run.windowSize workers) :
      Step p workers max c
        { c with jobs := c.jobs ++ [⟨c.base.lines, data, none⟩], activity := .reading }
  /-- The oldest result is written once its worker has finished. -/
  | settle {c : Crew} {j : Job} {rest : List Job} {report : Report}
      (hmust : c.MustSettle workers) (hjobs : c.jobs = j :: rest)
      (hdone : j.report = some report) :
      Step p workers max c (c.afterSettling (c.base.settle ⟨j.number, report⟩) rest)
  | sourceEnded {c : Crew} (hreading : c.activity = .reading)
      (hread : c.source.read max = .ended) :
      Step p workers max c { c with activity := .draining }
  | sourceFailed {c : Crew} {reason : String} (hreading : c.activity = .reading)
      (hread : c.source.read max = .failed reason) :
      Step p workers max c
        { c with base := c.base.fail (.io (.readInput reason)), activity := .closed }
  | flush {c : Crew} (hdraining : c.activity = .draining) (hjobs : c.jobs = []) :
      Step p workers max c { c with base := c.base.flush, activity := .closed }

/-- The states of runs over a source into a sink. -/
inductive Reachable (p : Processor) (workers max : Nat) (source : Source) (sink : Sink) :
    Crew → Prop where
  | start : Reachable p workers max source sink (start workers source sink)
  | step {c c' : Crew} : Reachable p workers max source sink c → Step p workers max c c' →
      Reachable p workers max source sink c'

/-! ## Section 2: Every order of steps ends -/

/-- How many workers are still at their line. -/
def busy (jobs : List Job) : Nat :=
  jobs.countP fun j => j.report.isNone

theorem busy_append (jobs jobs' : List Job) : busy (jobs ++ jobs') = busy jobs + busy jobs' :=
  List.countP_append

theorem busy_cons_none {j : Job} (h : j.report = none) (jobs : List Job) :
    busy (j :: jobs) = busy jobs + 1 :=
  List.countP_cons_of_pos (by rw [h]; rfl)

theorem busy_cons_some {j : Job} {report : Report} (h : j.report = some report)
    (jobs : List Job) : busy (j :: jobs) = busy jobs :=
  List.countP_cons_of_neg (by simp [h])

/-- What is left to do, by what the loop is at. -/
def activityMeasure : Activity → Nat
  | .reading => 2
  | .placing _ => 5
  | .draining => 1
  | .closed => 0

/-- What is left to do.  A byte may turn out to be a whole line, which has to
    be read, placed, handed out, finished and written. -/
def measure (c : Crew) : Nat :=
  4 * c.source.bytes.length + (c.jobs.length + busy c.jobs) + activityMeasure c.activity

theorem activityMeasure_afterSettling (c : Crew) (base : Run) (jobs : List Job) :
    activityMeasure (c.afterSettling base jobs).activity ≤ activityMeasure c.activity := by
  unfold afterSettling
  cases base.failure.isSome with
  | true => exact Nat.zero_le _
  | false => exact Nat.le_refl _

/-- Every step leaves less to do. -/
theorem step_measure {p : Processor} {workers max : Nat} {c c' : Crew}
    (h : Step p workers max c c') : c'.measure < c.measure := by
  cases h with
  | finish hjobs hbusy =>
    -- One worker less is busy.
    simp only [measure, hjobs, List.length_append, List.length_cons, busy_append]
    rw [busy_cons_none hbusy, busy_cons_some rfl]
    omega
  | skipLong hreading hread =>
    -- A frame takes a byte at least, which outweighs what it may turn into.
    have hlt := Source.read_length_lt hread
    simp only [measure, advance]
    omega
  | skipBlank hreading hread hblank =>
    have hlt := Source.read_length_lt hread
    simp only [measure, advance]
    omega
  | readLine hreading hread hblank =>
    have hlt := Source.read_length_lt hread
    simp only [measure, advance, hreading, activityMeasure]
    omega
  | handOut hplacing hroom =>
    simp only [measure, hplacing, activityMeasure, List.length_append, List.length_singleton,
      busy_append]
    rw [busy_cons_none rfl]
    simp only [busy, List.countP_nil]
    omega
  | @settle j rest report hmust hjobs hdone =>
    have hle := activityMeasure_afterSettling c (c.base.settle ⟨j.number, report⟩) rest
    simp only [measure, hjobs, List.length_cons]
    rw [busy_cons_some hdone]
    simp only [afterSettling] at hle ⊢
    omega
  | sourceEnded hreading hread =>
    simp only [measure, hreading, activityMeasure]
    omega
  | sourceFailed hreading hread =>
    simp only [measure, hreading, activityMeasure]
    omega
  | flush hdraining hjobs =>
    simp only [measure, hdraining, activityMeasure]
    omega

/-- No order of steps goes on for ever. -/
theorem no_endless_run {p : Processor} {workers max : Nat} (e : Nat → Crew)
    (h : ∀ n, Step p workers max (e n) (e (n + 1))) : False := by
  have hbound : ∀ n, (e n).measure + n ≤ (e 0).measure := by
    intro n
    induction n with
    | zero => exact Nat.le_refl _
    | succ n ih =>
      have hlt := step_measure (h n)
      omega
  have := hbound ((e 0).measure + 1)
  omega

/-- While jobs are left that the loop waits for, something can happen: the
    oldest is finished or it is written. -/
theorem progress_settle (p : Processor) (max : Nat) {workers : Nat} {c : Crew}
    (hmust : c.MustSettle workers) (hjobs : c.jobs ≠ []) : ∃ c', Step p workers max c c' := by
  cases hc : c.jobs with
  | nil => exact absurd hc hjobs
  | cons j rest =>
    cases hj : j.report with
    | none =>
      have hfirst : c.jobs = [] ++ j :: rest := hc
      exact ⟨_, .finish hfirst hj⟩
    | some report => exact ⟨_, .settle hmust hc hj⟩

/-- A run that is not over can go on. -/
theorem progress (p : Processor) (workers max : Nat) {c : Crew} (h : c.activity ≠ .closed) :
    ∃ c', Step p workers max c c' := by
  cases ha : c.activity with
  | closed => exact absurd ha h
  | reading =>
    cases hread : c.source.read max with
    | ended => exact ⟨_, .sourceEnded ha hread⟩
    | failed reason => exact ⟨_, .sourceFailed ha hread⟩
    | frame f rest =>
      cases f with
      | oversized length => exact ⟨_, .skipLong ha hread⟩
      | line data =>
        cases hb : isBlankLine data with
        | true => exact ⟨_, .skipBlank ha hread hb⟩
        | false => exact ⟨_, .readLine ha hread hb⟩
  | placing data =>
    by_cases hroom : c.jobs.length < Run.windowSize workers
    · exact ⟨_, .handOut ha hroom⟩
    · have hfull : Run.windowSize workers ≤ c.jobs.length := Nat.le_of_not_lt hroom
      apply progress_settle p max (Or.inr ⟨⟨data, ha⟩, hfull⟩)
      -- A full window is not empty, as it has one place at least.
      intro hnil
      rw [hnil] at hroom
      exact hroom (Run.windowSize_pos workers)
  | draining =>
    by_cases hjobs : c.jobs = []
    · exact ⟨_, .flush ha hjobs⟩
    · exact progress_settle p max (Or.inl ha) hjobs

/-! ## Section 3: The window -/

/-- What holds of every state of a run on workers. -/
structure Valid (p : Processor) (workers max : Nat) (c : Crew) : Prop where
  /-- Workers give back what handling their line gives. -/
  reports : ∀ j ∈ c.jobs, ∀ report, j.report = some report → report = Report.ofLine p j.line
  /-- No more lines are out than there are places. -/
  room : c.jobs.length ≤ Run.windowSize workers
  /-- Only a run that is over has failed. -/
  running : c.activity ≠ .closed → c.base.failure = none
  /-- What is left is only written once the source has ended. -/
  ended : c.activity = .draining → (c.source.frames max).1 = [] ∧ c.source.failure = none

theorem valid_start (p : Processor) (workers max : Nat) (source : Source) (sink : Sink) :
    (start workers source sink).Valid p workers max := by
  rcases Nat.lt_or_ge workers (2 ^ 59) with hfew | hmany
  · rw [start_eq hfew]
    exact ⟨nofun, Nat.zero_le _, fun _ => rfl, nofun⟩
  · -- It is over already, with no line out.
    rw [start_overflow hmany]
    exact ⟨nofun, Nat.zero_le _, fun hgoing => absurd rfl hgoing, nofun⟩

theorem valid_finish {p : Processor} {workers max : Nat} {c : Crew}
    (hv : c.Valid p workers max) {before after : List Job} {j : Job}
    (hjobs : c.jobs = before ++ j :: after) :
    Valid p workers max
      { c with jobs := before ++ { j with report := some (Report.ofLine p j.line) } :: after } := by
  refine ⟨?_, ?_, hv.running, hv.ended⟩
  · intro j' hj' report hreport
    rcases List.mem_append.mp hj' with hmem | hmem
    · exact hv.reports j' (hjobs ▸ List.mem_append_left _ hmem) report hreport
    · rcases List.mem_cons.mp hmem with rfl | hmem
      · exact (Option.some.inj hreport).symm
      · refine hv.reports j' (hjobs ▸ ?_) report hreport
        exact List.mem_append_right _ (List.mem_cons_of_mem _ hmem)
  · have hroom := hv.room
    rw [hjobs] at hroom
    simpa using hroom

theorem valid_settle {p : Processor} {workers max : Nat} {c : Crew}
    (hv : c.Valid p workers max) {j : Job} {rest : List Job} (base : Run)
    (hjobs : c.jobs = j :: rest) : (c.afterSettling base rest).Valid p workers max := by
  have hroom := hv.room
  rw [hjobs, List.length_cons] at hroom
  refine ⟨?_, Nat.le_of_succ_le hroom, ?_, ?_⟩
  · intro j' hj'
    exact hv.reports j' (hjobs ▸ List.mem_cons_of_mem _ hj')
  · intro hgoing
    cases hf : base.failure with
    | none => exact hf
    | some e => simp [afterSettling, hf] at hgoing
  · intro hdraining
    cases hf : base.failure with
    | none => exact hv.ended (by simpa [afterSettling, hf] using hdraining)
    | some e => simp [afterSettling, hf] at hdraining

theorem valid_step {p : Processor} {workers max : Nat} {c c' : Crew}
    (hv : c.Valid p workers max) (h : Step p workers max c c') : c'.Valid p workers max := by
  cases h with
  | finish hjobs hbusy => exact valid_finish hv hjobs
  | skipLong hreading hread =>
    have hgoing : c.base.failure = none := hv.running (by simp [hreading])
    refine ⟨hv.reports, hv.room, fun _ => hgoing, ?_⟩
    intro hdraining
    cases hreading.symm.trans hdraining
  | skipBlank hreading hread hblank =>
    have hgoing : c.base.failure = none := hv.running (by simp [hreading])
    refine ⟨hv.reports, hv.room, fun _ => hgoing, ?_⟩
    intro hdraining
    cases hreading.symm.trans hdraining
  | readLine hreading hread hblank =>
    have hgoing : c.base.failure = none := hv.running (by simp [hreading])
    exact ⟨hv.reports, hv.room, fun _ => hgoing, nofun⟩
  | handOut hplacing hroom =>
    have hgoing : c.base.failure = none := hv.running (by simp [hplacing])
    refine ⟨?_, ?_, fun _ => hgoing, nofun⟩
    · intro j hj report hreport
      rcases List.mem_append.mp hj with hmem | hmem
      · exact hv.reports j hmem report hreport
      · -- The job that was just handed out has no report yet.
        rw [List.mem_singleton.mp hmem] at hreport
        cases hreport
    · rw [List.length_append, List.length_singleton]
      exact hroom
  | settle hmust hjobs hdone => exact valid_settle hv _ hjobs
  | sourceEnded hreading hread =>
    have hgoing : c.base.failure = none := hv.running (by simp [hreading])
    exact ⟨hv.reports, hv.room, fun _ => hgoing, fun _ => Source.frames_ended hread⟩
  | sourceFailed hreading hread =>
    exact ⟨hv.reports, hv.room, fun hgoing => absurd rfl hgoing, nofun⟩
  | flush hdraining hjobs =>
    exact ⟨hv.reports, hv.room, fun hgoing => absurd rfl hgoing, nofun⟩

theorem reachable_valid {p : Processor} {workers max : Nat} {source : Source} {sink : Sink}
    {c : Crew} (h : Reachable p workers max source sink c) : c.Valid p workers max := by
  induction h with
  | start => exact valid_start p workers max source sink
  | step _ hstep ih => exact valid_step ih hstep

/-! ## Section 4: The ending -/

/-- The tasks that are still to be settled: those of the jobs, that of a line
    that is being placed, and those of what is left to read. -/
def due (p : Processor) (max : Nat) (c : Crew) : List Task :=
  c.jobs.map (Job.task p)
    ++ ((match c.activity with
      | .placing line => [⟨c.base.lines, Report.ofLine p line⟩]
      | _ => [])
    ++ Run.tasksFrom p c.base.lines (c.source.frames max).1)

/-- The ending that a state comes to if from now on what is due is settled in
    order. -/
def ending (p : Processor) (workers max : Nat) (c : Crew) : Run :=
  match c.activity with
  | .closed => c.base
  | _ => Run.windUp workers c.source.failure (c.due p max)
      (c.base.aside 0 [] ((c.source.frames max).1.countP Run.isOversized))

theorem ending_going {p : Processor} {workers max : Nat} {c : Crew}
    (h : c.activity ≠ .closed) :
    c.ending p workers max = Run.windUp workers c.source.failure (c.due p max)
      (c.base.aside 0 [] ((c.source.frames max).1.countP Run.isOversized)) := by
  unfold ending
  split
  · contradiction
  · rfl

/-- A run on workers begins with the ending that all its tasks come to, if it
    has a window for them. -/
theorem ending_start (p : Processor) (workers max : Nat) (source : Source) (sink : Sink) :
    Run.Alike ((start workers source sink).ending p workers max)
      (Run.perform p workers max source sink) := by
  rcases Nat.lt_or_ge workers (2 ^ 59) with hfew | hmany
  · rw [start_eq hfew, Run.perform_eq hfew]
    exact (Run.complete_alike p workers max source sink).symm
  · rw [start_overflow hmany, Run.perform_overflow hmany]
    exact Run.Alike.refl _

/-- A result that ended the run is its ending. -/
theorem ending_afterSettling_some (p : Processor) (workers max : Nat) (c : Crew) {base : Run}
    {e : Error} (h : base.failure = some e) (jobs : List Job) :
    (c.afterSettling base jobs).ending p workers max = base := by
  simp only [ending, afterSettling, h, Option.isSome_some, if_true]

/-- After any other result the rest is still to be settled. -/
theorem ending_afterSettling_none (p : Processor) (workers max : Nat) {c : Crew} {base : Run}
    (h : base.failure = none) (hlines : base.lines = c.base.lines) (jobs : List Job)
    (hgoing : c.activity ≠ .closed) :
    (c.afterSettling base jobs).ending p workers max
      = Run.windUp workers c.source.failure (due p max { c with jobs := jobs })
        (base.aside 0 [] ((c.source.frames max).1.countP Run.isOversized)) := by
  have hsame : (c.afterSettling base jobs).activity = c.activity := by
    simp [afterSettling, h]
  have hdue : (c.afterSettling base jobs).due p max = due p max { c with jobs := jobs } := by
    simp only [due, hsame]
    simp only [afterSettling, hlines]
  rw [ending_going (hsame ▸ hgoing), hdue]
  rfl

/-- Once the oldest result was written the ending is the same. -/
theorem ending_settle {p : Processor} {workers max : Nat} {c : Crew}
    (hv : c.Valid p workers max) (hmust : c.MustSettle workers) {j : Job} {rest : List Job}
    (hjobs : c.jobs = j :: rest) :
    Run.Alike (c.ending p workers max)
      ((c.afterSettling (c.base.settle (j.task p)) rest).ending p workers max) := by
  have hlen := congrArg List.length hjobs
  rw [List.length_cons] at hlen
  have hgoing : c.activity ≠ .closed := by
    rcases hmust with h | ⟨⟨line, h⟩, _⟩ <;> simp [h]
  -- A result is only written when the source has ended or the window is full:
  -- so a source that fails later finds it settled either way.
  have hwait : c.source.failure = none ∨
      Run.windowSize workers ≤ (due p max { c with jobs := rest }).length := by
    rcases hmust with h | ⟨⟨line, h⟩, hfull⟩
    · exact Or.inl (hv.ended h).2
    · apply Or.inr
      simp only [due, h, List.length_append, List.length_map, List.length_singleton]
      omega
  have hdue : c.due p max = j.task p :: due p max { c with jobs := rest } := by
    rw [due, hjobs]
    rfl
  rw [ending_going hgoing, hdue, Run.windUp_cons hwait, Run.settle_aside]
  cases hf : (c.base.settle (j.task p)).failure with
  | some e =>
    rw [Run.windUp_some (r := (c.base.settle (j.task p)).aside _ _ _) hf,
      ending_afterSettling_some p workers max c hf]
    exact Run.alike_aside_some hf _ _ _
  | none =>
    have hlines : (c.base.settle (j.task p)).lines = c.base.lines := Run.settle_lines _ _
    rw [ending_afterSettling_none p workers max hf hlines rest hgoing]
    exact Run.Alike.refl _

theorem ending_reading {p : Processor} {workers max : Nat} {c : Crew}
    (h : c.activity = .reading) :
    c.ending p workers max = Run.windUp workers c.source.failure
      (c.jobs.map (Job.task p) ++ Run.tasksFrom p c.base.lines (c.source.frames max).1)
      (c.base.aside 0 [] ((c.source.frames max).1.countP Run.isOversized)) := by
  rw [ending_going (by simp [h]), due, h]
  rfl

/-- What a job's worker gives back was in its task all along. -/
theorem ending_finish (p : Processor) (workers max : Nat) {c : Crew} {before after : List Job}
    {j : Job} (hjobs : c.jobs = before ++ j :: after) (report : Option Report) :
    ending p workers max { c with jobs := before ++ { j with report := report } :: after }
      = c.ending p workers max := by
  have hdue : due p max { c with jobs := before ++ { j with report := report } :: after }
      = c.due p max := by
    simp only [due, hjobs, List.map_append, List.map_cons, Job.task]
  unfold ending
  rw [hdue]

/-- A frame that is not handed out has no task. -/
theorem ending_skip {p : Processor} {workers max : Nat} {c : Crew} {f : Frame} {rest : Source}
    (hreading : c.activity = .reading) (hread : c.source.read max = .frame f rest)
    (hskip : Run.tasksFrom p c.base.lines [f] = []) :
    c.ending p workers max
      = ending p workers max { c.advance rest with
          base := { (c.advance rest).base with
            summary := { c.base.summary with
              errors := c.base.summary.errors + [f].countP Run.isOversized } } } := by
  obtain ⟨hframes, hfailure⟩ := Source.frames_frame hread
  rw [ending_reading hreading, ending_reading (c := { c.advance rest with base := _ }) hreading]
  rw [hframes, Run.tasksFrom_cons, hskip, List.nil_append,
    Run.countP_oversized_cons f]
  simp only [advance, hfailure, Run.aside, Nat.add_assoc]

/-- A line that is placed is the next task. -/
theorem ending_place {p : Processor} {workers max : Nat} {c : Crew} {data : Bytes}
    {rest : Source} (hreading : c.activity = .reading)
    (hread : c.source.read max = .frame (.line data) rest) (hblank : isBlankLine data = false) :
    c.ending p workers max
      = ending p workers max { c.advance rest with activity := .placing data } := by
  obtain ⟨hframes, hfailure⟩ := Source.frames_frame hread
  have hgoing : Activity.placing data ≠ .closed := by simp
  rw [ending_reading hreading,
    ending_going (c := { c.advance rest with activity := .placing data }) hgoing,
    hframes, Run.tasksFrom, hblank]
  simp only [due, advance, hfailure, Run.aside, Run.isOversized, Bool.false_eq_true, if_false,
    not_false_eq_true, List.countP_cons_of_neg, List.singleton_append]

/-- Once it is handed out it is the last task of the jobs. -/
theorem ending_handOut {p : Processor} {workers max : Nat} {c : Crew} {data : Bytes}
    (hplacing : c.activity = .placing data) :
    c.ending p workers max
      = ending p workers max
          { c with jobs := c.jobs ++ [⟨c.base.lines, data, none⟩], activity := .reading } := by
  rw [ending_going (by simp [hplacing]),
    ending_reading (c := { c with jobs := _, activity := .reading }) rfl]
  simp only [due, hplacing, List.map_append, List.map_cons, List.map_nil, Job.task,
    List.append_assoc, List.singleton_append]

/-- A source that fails ends the run; the jobs that are out are not waited
    for. -/
theorem ending_fail {p : Processor} {workers max : Nat} {c : Crew} {reason : String}
    (hv : c.Valid p workers max) (hreading : c.activity = .reading)
    (hread : c.source.read max = .failed reason) :
    Run.Alike (c.ending p workers max) (c.base.fail (.io (.readInput reason))) := by
  obtain ⟨hframes, hfailure⟩ := Source.frames_failed hread
  -- All jobs that are out have a place in the window, so none is overdue.
  have hroom : (c.jobs.map (Job.task p)).length ≤ Run.windowSize workers := by
    rw [List.length_map]
    exact hv.room
  rw [ending_reading hreading, hframes, hfailure, Run.tasksFrom, List.append_nil]
  show Run.Alike ((Run.settleOverdue workers (c.jobs.map (Job.task p)) _).fail _) _
  rw [Run.settleOverdue_none _ hroom, Run.fail_aside]
  refine Run.alike_aside_some (e := .io (.readInput reason)) ?_ _ _ _
  rw [Run.fail, hv.running (by simp [hreading])]

/-- When nothing is left the run is flushed and over. -/
theorem ending_flush {p : Processor} {workers max : Nat} {c : Crew}
    (hv : c.Valid p workers max) (hdraining : c.activity = .draining) (hjobs : c.jobs = []) :
    Run.Alike (c.ending p workers max) c.base.flush := by
  obtain ⟨hframes, hfailure⟩ := hv.ended hdraining
  rw [ending_going (by simp [hdraining]), due, hdraining, hjobs, hframes, hfailure]
  have hsame : Run.Alike (c.base.aside 0 [] 0) c.base :=
    Run.alike_aside c.base 0 c.base.lines [] c.base.window fun _ => rfl
  exact hsame.flush

/-- **No step changes the ending.** -/
theorem ending_step {p : Processor} {workers max : Nat} {c c' : Crew}
    (hv : c.Valid p workers max) (h : Step p workers max c c') :
    Run.Alike (c.ending p workers max) (c'.ending p workers max) := by
  cases h with
  | finish hjobs hbusy =>
    rw [ending_finish p workers max hjobs]
    exact Run.Alike.refl _
  | skipLong hreading hread =>
    rw [ending_skip hreading hread rfl]
    exact Run.Alike.refl _
  | skipBlank hreading hread hblank =>
    rw [ending_skip hreading hread (by rw [Run.tasksFrom, if_pos hblank, Run.tasksFrom])]
    exact Run.Alike.refl _
  | readLine hreading hread hblank =>
    rw [ending_place hreading hread hblank]
    exact Run.Alike.refl _
  | handOut hplacing hroom =>
    rw [ending_handOut hplacing]
    exact Run.Alike.refl _
  | @settle j rest report hmust hjobs hdone =>
    have hreport : report = Report.ofLine p j.line :=
      hv.reports j (hjobs ▸ List.mem_cons_self) report hdone
    rw [hreport]
    exact ending_settle hv hmust hjobs
  | sourceEnded hreading hread =>
    have hgoing : Activity.draining ≠ .closed := by simp
    rw [ending_reading hreading, ending_going (c := { c with activity := .draining }) hgoing]
    exact Run.Alike.refl _
  | sourceFailed hreading hread => exact ending_fail hv hreading hread
  | flush hdraining hjobs => exact ending_flush hv hdraining hjobs

/-- **Whatever the order of steps**, every state of a run on workers comes to
    the ending of the run that settles one line after another. -/
theorem reachable_ending {p : Processor} {workers max : Nat} {source : Source} {sink : Sink}
    {c : Crew} (h : Reachable p workers max source sink c) :
    Run.Alike (c.ending p workers max) (Run.perform p workers max source sink) := by
  induction h with
  | start => exact ending_start p workers max source sink
  | step hreach hstep ih => exact (ending_step (reachable_valid hreach) hstep).symm.trans ih

/-- A run on workers that is over ended like `Run.perform`. -/
theorem reachable_closed {p : Processor} {workers max : Nat} {source : Source} {sink : Sink}
    {c : Crew} (h : Reachable p workers max source sink c) (hover : c.activity = .closed) :
    Run.Alike c.base (Run.perform p workers max source sink) := by
  have hend := reachable_ending h
  rwa [ending, hover] at hend

/-- One that ended well had its window. -/
theorem reachable_closed_going {p : Processor} {workers max : Nat} {source : Source}
    {sink : Sink} {c : Crew} (h : Reachable p workers max source sink c)
    (hover : c.activity = .closed) (hgoing : c.base.failure = none) :
    Run.Alike c.base (Run.complete p workers max source sink) := by
  have halike := reachable_closed h hover
  rwa [Run.perform_going (halike.failure.symm.trans hgoing)] at halike

/-- What the run that goes line by line comes to, every order of steps comes to:
    it goes on until it is over, it has ended the same way then, and there is
    no order that goes on for ever. -/
theorem every_order_ends {p : Processor} {workers max : Nat} {source : Source} {sink : Sink}
    {result : Except Error Summary} {bytes : Bytes}
    (hresult : (Run.perform p workers max source sink).result = result)
    (hbytes : (Run.perform p workers max source sink).sink.bytes = bytes) :
    (∀ c, Reachable p workers max source sink c →
      (c.activity ≠ .closed → ∃ c', Step p workers max c c') ∧
      (c.activity = .closed → c.base.result = result ∧ c.base.sink.bytes = bytes)) ∧
    ¬∃ e : Nat → Crew, ∀ n, Step p workers max (e n) (e (n + 1)) := by
  constructor
  · intro c hreach
    refine ⟨progress p workers max, ?_⟩
    intro hover
    have halike := reachable_closed hreach hover
    exact ⟨halike.result.trans hresult, (congrArg Sink.bytes halike.sink).trans hbytes⟩
  · intro hendless
    obtain ⟨e, he⟩ := hendless
    exact no_endless_run e he

end Crew

end BatchFilter
