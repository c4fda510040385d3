import BatchFilter.Proofs.Totals
import Mathlib.Data.List.Infix

/-! # What a Failing Source Loses

    A source may fail where another one ends.  A last line that lacks its end
    is then not known to be one, however long it is, and the lines that are
    still in the window are not waited for.  What is written is what came out
    of the lines before these: the more workers there are, the more may be
    lost, but never more lines than there are workers.

    * `outputsOf`: what is written for lines, line by line.
    * `Run.gains_tasks`: settling tasks writes what their reports hold.
    * `Run.complete_interrupted`: what a run has written when its source fails.
    * `Crew.failing_source_loses_window`: the same for every run on workers. -/

namespace BatchFilter

/-! ## Section 1: What comes out of a line -/

/-- What is written for a line that is handed out, which is nothing if the
    line is no batch.  A line that is too long or blank is not handed out. -/
def Intake.output? (f : Batch → Outcome) : Intake → Option Bytes
  | .tooLong | .blank => none
  | .unreadable => some []
  | .batch b => some (encodedLines (f b).batches)

/-- What is written for lines: an entry for every line that is handed out. -/
def outputsOf (f : Batch → Outcome) (max : Nat) (ls : List Line) : List Bytes :=
  ls.filterMap fun l => (l.intake max).output? f

/-- What is written when a result is settled. -/
def Report.output : Report → Bytes
  | .handled _ outcome => encodedLines outcome.batches
  | .unreadable | .brokeDown => []

/-- Was the line handled without a breakdown? -/
def Report.Sound : Report → Prop
  | .brokeDown => False
  | .unreadable | .handled _ _ => True

namespace Run

/-! ## Section 2: Settling some tasks -/

/-- **Settling tasks writes what their reports hold**, one after another. -/
theorem gains_tasks {r : Run} (h : r.failure = none) {ts : List Task}
    (hsound : ∀ t ∈ ts, t.report.Sound) :
    ∃ s, Gains r (ts.foldl settle r) s (ts.flatMap fun t => t.report.output) := by
  induction ts generalizing r with
  | nil => exact ⟨{}, Gains.refl h⟩
  | cons t ts ih =>
    obtain ⟨number, report⟩ := t
    have hrest : ∀ t ∈ ts, t.report.Sound := fun t ht => hsound t (List.mem_cons_of_mem _ ht)
    -- What the first task gains, whatever its report is.
    have hfirst : ∃ s, Gains r (r.settle ⟨number, report⟩) s report.output := by
      cases report with
      | unreadable => exact ⟨_, gains_unreadable h number⟩
      | handled b outcome => exact ⟨_, gains_handled h number b outcome⟩
      | brokeDown => exact (hsound ⟨number, .brokeDown⟩ List.mem_cons_self).elim
    obtain ⟨s, hs⟩ := hfirst
    rw [List.foldl_cons, List.flatMap_cons]
    cases hgoing : (r.settle ⟨number, report⟩).failure with
    | none =>
      obtain ⟨s', hs'⟩ := ih hgoing hrest
      refine ⟨s.add s', hs.trans (fun _ => hs') ?_⟩
      intro e he
      rw [hgoing] at he
      cases he
    | some e =>
      refine ⟨s.add {}, hs.trans (fun hnone => ?_) ?_⟩
      · rw [hgoing] at hnone
        cases hnone
      · intro e he
        exact ended_same he (foldl_settle_some he ts)

section
variable (f : Batch → Outcome) (max : Nat)

/-- The reports of lines hold what is written for the lines. -/
theorem tasksOf_outputs (lines : Nat) (ls : List Line) :
    (tasksOf f max lines ls).map (fun t => t.report.output) = outputsOf f max ls ∧
      ∀ t ∈ tasksOf f max lines ls, t.report.Sound := by
  induction ls generalizing lines with
  | nil => exact ⟨rfl, nofun⟩
  | cons l ls ih =>
    obtain ⟨hmap, hsound⟩ := ih (lines + 1)
    unfold outputsOf at hmap ⊢
    rcases tasksOf_cons f max lines l ls with ⟨hl, _, htasks⟩ | ⟨_, hcases⟩
    · rw [htasks, List.filterMap_cons_none (by rw [hl]; rfl)]
      exact ⟨hmap, hsound⟩
    rcases hcases with ⟨hl, htasks⟩ | ⟨hl, htasks⟩ | ⟨b, hl, htasks⟩
    · rw [htasks, List.filterMap_cons_none (by rw [hl]; rfl)]
      exact ⟨hmap, hsound⟩
    · rw [htasks, List.filterMap_cons_some (by rw [hl]; rfl), List.map_cons, hmap]
      exact ⟨rfl, List.forall_mem_cons.mpr ⟨trivial, hsound⟩⟩
    · rw [htasks, List.filterMap_cons_some (by rw [hl]; rfl), List.map_cons, hmap]
      exact ⟨rfl, List.forall_mem_cons.mpr ⟨trivial, hsound⟩⟩

/-! ## Section 3: A source that fails -/

theorem fail_none {r : Run} (h : r.failure = none) (e : Error) :
    r.fail e = { r with failure := some e } := by
  unfold fail
  rw [h]

/-- The outputs that are written before a source fails: all but so many of the
    last as there are workers. -/
def settledOutputs (workers : Nat) (outputs : List Bytes) : List Bytes :=
  outputs.take (outputs.length - windowSize workers)

/-- With more workers less is sure to be written. -/
theorem settledOutputs_prefix {workers workers' : Nat} (h : workers ≤ workers')
    (outputs : List Bytes) :
    (settledOutputs workers' outputs).flatten <+: (settledOutputs workers outputs).flatten := by
  have hsize : windowSize workers ≤ windowSize workers' := by
    unfold windowSize
    omega
  have hfewer : outputs.length - windowSize workers' ≤ outputs.length - windowSize workers :=
    Nat.sub_le_sub_left hsize _
  exact List.IsPrefix.flatten (List.take_prefix_take_left hfewer)

theorem settledOutputs_length (workers : Nat) (outputs : List Bytes) :
    (settledOutputs workers outputs).length = outputs.length - windowSize workers := by
  rw [settledOutputs, List.length_take]
  omega

/-- **A run whose source fails** ends with that failure, after the results that
    were in the way of later lines were written. -/
theorem complete_interrupted (workers : Nat) (pieces : List Bytes) (reason : String) (sink : Sink)
    (hroom : sink.room = none) :
    let r := complete (fun b => some (f b)) workers max ⟨pieces, some reason⟩ sink
    let ended := (linesOf pieces.flatten).filter Line.ended
    r.result = .error (.io (.readInput reason)) ∧
      r.sink.bytes = sink.bytes ++ (settledOutputs workers (outputsOf f max ended)).flatten := by
  intro r ended
  obtain ⟨houtputs, hsound⟩ := tasksOf_outputs f max 0 ended
  let ts := tasksOf f max 0 ended
  let due := ts.take (overdue workers ts)
  -- Nothing but what is overdue is settled before the run ends.
  have halike : ∃ errors, Alike r (((due.foldl settle { sink := sink }).aside 0 [] errors).fail
      (.io (.readInput reason))) := by
    have hall := complete_alike (fun b => some (f b)) workers max ⟨pieces, some reason⟩ sink
    rw [Source.frames_eq, windUp, settleOverdue_aside] at hall
    exact ⟨_, hall⟩
  obtain ⟨errors, halike⟩ := halike
  have hdue : ∀ t ∈ due, t.report.Sound := fun t ht => hsound t (List.mem_of_mem_take ht)
  obtain ⟨s, hgains⟩ := gains_tasks (r := { sink := sink }) rfl hdue
  have hfits : sink.Fits (due.flatMap fun t => t.report.output) := by
    intro n hn
    rw [hroom] at hn
    cases hn
  obtain ⟨hgoing, _, htook⟩ := hgains.fits hfits
  rw [fail_none (r := (due.foldl settle _).aside _ _ _) hgoing] at halike
  have hwritten : (due.flatMap fun t => t.report.output)
      = (settledOutputs workers (outputsOf f max ended)).flatten := by
    rw [settledOutputs, ← houtputs, ← List.map_take, List.length_map, List.flatMap_def]
    rfl
  constructor
  · rw [halike.result]
    rfl
  · rw [halike.sink, ← hwritten]
    exact htook.bytes

end

end Run

/-! ## Section 4: Every order -/

/-- **What a failing source loses.**  For every processor that never breaks
    down, over every source that fails behind its bytes and into a sink that
    does not fail.

    Reading gives the frames of the lines that have their end, and then the
    failure: bytes without a line feed, however many, are no line.  A run on
    any number of workers (none count as one) that a window can be asked for
    ends with that failure, and of the lines that are handed out it has then
    written the outputs of all but so many of the last as there are workers.
    So more workers leave less written, of the same outputs in the same order,
    and no more lines are lost than there are workers.  This is so in every
    order of steps, none of which can go on for ever. -/
theorem Crew.failing_source_loses_window (f : Batch → Outcome) (max : Nat) (pieces : List Bytes)
    (reason : String) (writes : List Bytes) (refusal : String) (flushFailure : Option String) :
    let p : Processor := fun b => some (f b)
    let source : Source := ⟨pieces, some reason⟩
    let sink : Sink := ⟨writes, none, refusal, flushFailure⟩
    let ended := (linesOf pieces.flatten).filter Line.ended
    let outputs := outputsOf f max ended
    let kept : Nat → List Bytes := fun workers =>
      outputs.take (outputs.length - Nat.max workers 1)
    let failed : Run → Nat → Prop := fun r workers =>
      r.result = .error (.io (.readInput reason)) ∧
        r.sink.bytes = sink.bytes ++ (kept workers).flatten
    (source.frames max = (ended.map (Line.frame max), some reason) ∧
      ∀ s : Source, s.failure = some reason → lineFeed ∉ s.bytes → s.read max = .failed reason) ∧
    (∀ workers, workers < 2 ^ 59 →
      failed (Run.perform p workers max source sink) workers ∧
      (∀ c, Reachable p workers max source sink c →
        (c.activity ≠ .closed → ∃ c', Step p workers max c c') ∧
        (c.activity = .closed → failed c.base workers)) ∧
      ¬∃ e : Nat → Crew, ∀ n, Step p workers max (e n) (e (n + 1))) ∧
    (∀ workers workers', workers ≤ workers' →
      (kept workers').flatten <+: (kept workers).flatten) ∧
    ∀ workers, outputs.length ≤ (kept workers).length + Nat.max workers 1 := by
  intro p source sink ended outputs kept failed
  refine ⟨⟨Source.frames_eq max source, ?_⟩, ?_, ?_, ?_⟩
  · intro s hfailure hfree
    have hatEnd : ∀ reading, s.atEnd reading = .failed reason := by
      intro reading
      rw [Source.atEnd, hfailure]
    by_cases hne : s.bytes = []
    · rw [Source.read_nothing max hne, hatEnd]
    · rw [Source.read_tail max hne hfree, hatEnd]
  · intro workers hworkers
    have hrun : failed (Run.perform p workers max source sink) workers := by
      rw [Run.perform_eq hworkers]
      exact Run.complete_interrupted f max workers pieces reason sink rfl
    obtain ⟨hresult, hbytes⟩ := hrun
    exact ⟨⟨hresult, hbytes⟩, every_order_ends hresult hbytes⟩
  · intro workers workers' hle
    exact Run.settledOutputs_prefix hle outputs
  · intro workers
    have hlength : (kept workers).length = outputs.length - Nat.max workers 1 :=
      Run.settledOutputs_length workers outputs
    omega

/-- Three lines that are handed out, a blank one between them, and one that has
    no end: two workers lose two of the lines, and four lose all of them. -/
theorem Crew.failing_source_loses_window_three :
    let f : Batch → Outcome := fun b => ⟨[b], none⟩
    let source : Source :=
      ⟨[Utf8.ofString "[]\n\n[", Utf8.ofString "\n[]\n[]"], some "read failed"⟩
    let run : Nat → Run := fun workers => Run.perform (fun b => some (f b)) workers 100 source {}
    (2 < 2 ^ 59 ∧ 4 < 2 ^ 59) ∧
    (run 2).result = .error (.io (.readInput "read failed")) ∧
    (run 2).sink.bytes = Utf8.ofString "[]\n" ∧
    (run 4).result = .error (.io (.readInput "read failed")) ∧
    (run 4).sink.bytes = [] := by
  intro f source run
  have htwo : 2 < 2 ^ 59 := by decide
  have hfour : 4 < 2 ^ 59 := by decide
  obtain ⟨_, hruns, _, _⟩ :=
    failing_source_loses_window f 100 source.pieces "read failed" [] "" none
  obtain ⟨⟨hresult, hbytes⟩, _⟩ := hruns 2 htwo
  obtain ⟨⟨hresult', hbytes'⟩, _⟩ := hruns 4 hfour
  exact ⟨⟨htwo, hfour⟩, hresult, hbytes.trans rfl, hresult', hbytes'.trans rfl⟩

/-- With `2 ^ 59` workers there is no window, and the failure of a source is not
    even met. -/
theorem Crew.failure_unread :
    let run := Run.perform (fun b => some ⟨[b], none⟩) 576460752303423488 100
      ⟨[], some "read failed"⟩ {}
    run.result = .error .windowTooLarge ∧
    run.result ≠ .error (.io (.readInput "read failed")) := by
  intro run
  have hrun : run = { sink := {}, failure := some .windowTooLarge } :=
    Run.perform_overflow (by decide)
  rw [hrun]
  exact ⟨rfl, nofun⟩

end BatchFilter
