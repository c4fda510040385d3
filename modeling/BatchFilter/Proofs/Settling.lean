import BatchFilter.Proofs.Framing
import BatchFilter.Run
import Mathlib.Algebra.Group.Nat.Defs

/-! # Settling in Order

    A run hands lines out and settles their results later, oldest first.
    However large its window is, the results are settled one after another
    in the order of the lines, and what is read in between only moves the
    run on (`Run.aside`).  So a run is what is left when the window is
    forgotten: a fold of `Run.settle` over the tasks of its lines.

    * `Run.tasksFrom`: the tasks of frames.
    * `Run.windUp`: settle what is due and end.
    * `Run.complete_alike`: a run that has its window is the winding up of its
      tasks.
    * `Run.perform_eq`, `Run.perform_overflow`: whether it has one. -/

namespace BatchFilter

namespace Run

/-! ## Section 1: What settling does not look at -/

/-- The run at another place of its source, with so many more errors. -/
def aside (r : Run) (lines : Nat) (window : List Task) (errors : Nat) : Run :=
  { r with
    lines := lines
    window := window
    summary := { r.summary with errors := r.summary.errors + errors } }

@[simp] theorem aside_failure (r : Run) (lines : Nat) (window : List Task) (errors : Nat) :
    (r.aside lines window errors).failure = r.failure := rfl

@[simp] theorem aside_sink (r : Run) (lines : Nat) (window : List Task) (errors : Nat) :
    (r.aside lines window errors).sink = r.sink := rfl

@[simp] theorem aside_handled (r : Run) (lines : Nat) (window : List Task) (errors : Nat) :
    (r.aside lines window errors).handled = r.handled := rfl

/-- Only the last place counts, and all errors do. -/
@[simp] theorem aside_aside (r : Run) (lines lines' : Nat) (window window' : List Task)
    (errors errors' : Nat) :
    (r.aside lines window errors).aside lines' window' errors'
      = r.aside lines' window' (errors + errors') := by
  simp [aside, Nat.add_assoc]

theorem andThen_none {r : Run} (h : r.failure = none) (step : Run → Run) :
    r.andThen step = step r := by
  unfold andThen
  rw [h]

theorem andThen_some {r : Run} {e : Error} (h : r.failure = some e) (step : Run → Run) :
    r.andThen step = r := by
  unfold andThen
  rw [h]

/-- What commutes with going aside may be done under `andThen`. -/
theorem andThen_aside (r : Run) (lines : Nat) (window : List Task) (errors : Nat)
    {step : Run → Run}
    (h : ∀ r, step (r.aside lines window errors) = (step r).aside lines window errors) :
    (r.aside lines window errors).andThen step
      = (r.andThen step).aside lines window errors := by
  cases hf : r.failure with
  | none => rw [andThen_none hf, andThen_none (r := r.aside _ _ _) hf, h]
  | some e => rw [andThen_some hf, andThen_some (r := r.aside _ _ _) hf]

theorem fail_aside (r : Run) (lines : Nat) (window : List Task) (errors : Nat) (e : Error) :
    (r.aside lines window errors).fail e = (r.fail e).aside lines window errors := by
  unfold fail
  cases hf : r.failure <;> simp [aside, hf]

theorem countError_aside (r : Run) (lines : Nat) (window : List Task) (errors : Nat) :
    (r.aside lines window errors).countError
      = r.countError.aside lines window errors := by
  simp [aside, countError, count, Nat.add_right_comm]

theorem put_aside (r : Run) (lines : Nat) (window : List Task) (errors : Nat) (b : Batch) :
    (r.aside lines window errors).put b = (r.put b).aside lines window errors := by
  apply andThen_aside r lines window errors
  intro r
  rw [aside_sink]
  rcases r.sink.write b.toLine with ⟨sink, written⟩
  cases written with
  | true => rfl
  | false => exact fail_aside { r with sink := sink } lines window errors _

theorem foldl_put_aside (bs : List Batch) (r : Run) (lines : Nat) (window : List Task)
    (errors : Nat) :
    bs.foldl put (r.aside lines window errors)
      = (bs.foldl put r).aside lines window errors := by
  induction bs generalizing r with
  | nil => rfl
  | cons b bs ih => rw [List.foldl_cons, List.foldl_cons, put_aside, ih]

theorem answer_aside (r : Run) (lines : Nat) (window : List Task) (errors : Nat)
    (reply : Option Reply) :
    (r.aside lines window errors).answer reply
      = (r.answer reply).aside lines window errors := by
  apply andThen_aside r lines window errors
  intro r
  match reply with
  | none => rfl
  | some .ack => rfl
  | some (.error _) => exact countError_aside r lines window errors

/-- Settling neither looks at the place of a run nor changes it, and adds to
    the errors whatever they are. -/
theorem settle_aside (r : Run) (lines : Nat) (window : List Task) (errors : Nat) (t : Task) :
    (r.aside lines window errors).settle t
      = (r.settle t).aside lines window errors := by
  apply andThen_aside r lines window errors
  intro r
  cases t.report with
  | unreadable => exact countError_aside r lines window errors
  | brokeDown => exact fail_aside r lines window errors _
  | handled b outcome =>
    show (outcome.batches.foldl put ((r.receive b).aside lines window errors)).answer
        outcome.reply = _
    rw [foldl_put_aside, answer_aside]

/-- So a run that settles stays where it is. -/
theorem settle_stays (r : Run) (t : Task) :
    r.settle t = (r.settle t).aside r.lines r.window 0 :=
  settle_aside r r.lines r.window 0 t

theorem settle_lines (r : Run) (t : Task) : (r.settle t).lines = r.lines := by
  rw [settle_stays]
  rfl

theorem settle_window (r : Run) (t : Task) : (r.settle t).window = r.window := by
  rw [settle_stays]
  rfl

theorem foldl_settle_window (ts : List Task) (r : Run) :
    (ts.foldl settle r).window = r.window := by
  induction ts generalizing r with
  | nil => rfl
  | cons t ts ih => rw [List.foldl_cons, ih, settle_window]

theorem foldl_settle_aside (ts : List Task) (r : Run) (lines : Nat) (window : List Task)
    (errors : Nat) :
    ts.foldl settle (r.aside lines window errors)
      = (ts.foldl settle r).aside lines window errors := by
  induction ts generalizing r with
  | nil => rfl
  | cons t ts ih => rw [List.foldl_cons, List.foldl_cons, settle_aside, ih]

/-- A run that has ended settles nothing. -/
theorem foldl_settle_some {r : Run} {e : Error} (h : r.failure = some e) (ts : List Task) :
    ts.foldl settle r = r := by
  induction ts with
  | nil => rfl
  | cons t ts ih => rw [List.foldl_cons, settle, andThen_some h, ih]

/-! ## Section 2: Runs that end alike -/

/-- Two runs that ended alike: nobody can tell them apart by their result or
    by what they wrote. -/
structure Alike (r r' : Run) : Prop where
  failure : r.failure = r'.failure
  sink : r.sink = r'.sink
  handled : r.handled = r'.handled
  /-- The totals of a run that failed are not told. -/
  summary : r.failure = none → r.summary = r'.summary

theorem Alike.refl (r : Run) : Alike r r := ⟨rfl, rfl, rfl, fun _ => rfl⟩

theorem Alike.symm {r r' : Run} (h : Alike r r') : Alike r' r :=
  ⟨h.failure.symm, h.sink.symm, h.handled.symm, fun hf => (h.summary (h.failure.trans hf)).symm⟩

theorem Alike.trans {r r' r'' : Run} (h : Alike r r') (h' : Alike r' r'') : Alike r r'' :=
  ⟨h.failure.trans h'.failure, h.sink.trans h'.sink, h.handled.trans h'.handled,
    fun hf => (h.summary hf).trans (h'.summary (h.failure ▸ hf))⟩

theorem Alike.result {r r' : Run} (h : Alike r r') : r.result = r'.result := by
  unfold Run.result
  rw [← h.failure]
  cases hf : r.failure with
  | some e => rfl
  | none => rw [h.summary hf]

/-- The place of a run is not told, nor are the errors of one that failed. -/
theorem alike_aside (r : Run) (lines lines' : Nat) (window window' : List Task)
    {errors errors' : Nat} (h : r.failure = none → errors = errors') :
    Alike (r.aside lines window errors) (r.aside lines' window' errors') := by
  refine ⟨rfl, rfl, rfl, ?_⟩
  intro hf
  rw [h hf]
  rfl

/-- Nothing of what moves a run on is told of one that failed. -/
theorem alike_aside_some {r : Run} {e : Error} (h : r.failure = some e) (lines : Nat)
    (window : List Task) (errors : Nat) : Alike (r.aside lines window errors) r := by
  refine ⟨rfl, rfl, rfl, ?_⟩
  intro hf
  rw [aside_failure, h] at hf
  cases hf

theorem Alike.fail {r r' : Run} (h : Alike r r') (e : Error) : Alike (r.fail e) (r'.fail e) := by
  unfold Run.fail
  rw [← h.failure]
  cases hf : r.failure with
  | some _ => exact h
  | none => exact ⟨rfl, h.sink, h.handled, fun hf' => by cases hf'⟩

theorem Alike.flush {r r' : Run} (h : Alike r r') : Alike r.flush r'.flush := by
  unfold Run.flush
  cases hf : r.failure with
  | some e => rwa [andThen_some hf, andThen_some (h.failure ▸ hf)]
  | none =>
    rw [andThen_none hf, andThen_none (h.failure ▸ hf), ← h.sink]
    cases r.sink.flushFailure with
    | none => exact h
    | some reason => exact h.fail _

theorem fail_some {r : Run} {e : Error} (h : r.failure = some e) (e' : Error) :
    r.fail e' = r := by
  unfold fail
  rw [h]

theorem flush_some {r : Run} {e : Error} (h : r.failure = some e) : r.flush = r :=
  andThen_some h _

/-! ## Section 3: Taking frames -/

/-- The tasks of the frames that follow so many lines: one for every line
    that is not too long and not blank. -/
def tasksFrom (p : Processor) (lines : Nat) : List Frame → List Task
  | [] => []
  | .oversized _ :: fs => tasksFrom p (lines + 1) fs
  | .line data :: fs =>
      if isBlankLine data then tasksFrom p (lines + 1) fs
      else ⟨lines + 1, Report.ofLine p data⟩ :: tasksFrom p (lines + 1) fs

/-- Is the frame of a line past the limit? -/
def isOversized : Frame → Bool
  | .oversized _ => true
  | .line _ => false

theorem countP_oversized_cons (f : Frame) (fs : List Frame) :
    (f :: fs).countP isOversized = [f].countP isOversized + fs.countP isOversized := by
  rw [← List.countP_append, List.singleton_append]

theorem windowSize_pos (workers : Nat) : 0 < windowSize workers :=
  Nat.lt_of_lt_of_le Nat.one_pos (Nat.le_max_right workers 1)

theorem settleDownTo_aside (r : Run) (lines : Nat) (window : List Task) (errors keep : Nat) :
    (r.aside lines window errors).settleDownTo keep
      = ((window.take (window.length - keep)).foldl settle r).aside lines
          (window.drop (window.length - keep)) errors :=
  foldl_settle_aside (window.take (window.length - keep)) r lines _ errors

theorem take_some {p : Processor} {workers : Nat} {r : Run} {e : Error}
    (h : r.failure = some e) (f : Frame) : take p workers r f = r :=
  andThen_some h _

theorem foldl_take_some {p : Processor} {workers : Nat} {r : Run} {e : Error}
    (h : r.failure = some e) (fs : List Frame) : fs.foldl (take p workers) r = r := by
  induction fs with
  | nil => rfl
  | cons f fs ih => rw [List.foldl_cons, take_some h, ih]

theorem take_oversized (p : Processor) (workers : Nat) {r : Run} (h : r.failure = none)
    (lines : Nat) (window : List Task) (errors length : Nat) :
    take p workers (r.aside lines window errors) (.oversized length)
      = r.aside (lines + 1) window (errors + 1) :=
  andThen_none (r := r.aside _ _ _) h _

theorem take_blank (p : Processor) (workers : Nat) {r : Run} (h : r.failure = none)
    (lines : Nat) (window : List Task) (errors : Nat) {data : Bytes}
    (hb : isBlankLine data = true) :
    take p workers (r.aside lines window errors) (.line data)
      = r.aside (lines + 1) window errors := by
  unfold take
  rw [andThen_none (r := r.aside _ _ _) h]
  exact if_pos hb

/-- A line that is handed out waits behind the window, from which as many
    results were settled before as were in its way. -/
theorem take_line (p : Processor) (workers : Nat) {r : Run} (h : r.failure = none)
    (lines : Nat) (window : List Task) (errors : Nat) {data : Bytes}
    (hb : isBlankLine data = false) :
    take p workers (r.aside lines window errors) (.line data)
      = (((window.take (window.length - (windowSize workers - 1))).foldl settle r).aside
          (lines + 1) (window.drop (window.length - (windowSize workers - 1))) errors).andThen
        fun r => { r with window := r.window ++ [⟨lines + 1, Report.ofLine p data⟩] } := by
  unfold take
  rw [andThen_none (r := r.aside _ _ _) h]
  simp only [hb, Bool.false_eq_true, if_false]
  rw [← settleDownTo_aside]
  rfl

/-- With room in the window a line is handed out at once. -/
theorem take_line_room (p : Processor) (workers : Nat) {r : Run} (h : r.failure = none)
    (lines : Nat) {window : List Task} (errors : Nat) {data : Bytes}
    (hb : isBlankLine data = false) (hw : window.length < windowSize workers) :
    take p workers (r.aside lines window errors) (.line data)
      = r.aside (lines + 1) (window ++ [⟨lines + 1, Report.ofLine p data⟩]) errors := by
  have hdue : window.length - (windowSize workers - 1) = 0 := by omega
  rw [take_line p workers h lines window errors hb, hdue, List.take_zero, List.drop_zero,
    List.foldl_nil, andThen_none (r := r.aside _ _ _) h]
  rfl

/-- With a full window the oldest result is settled first, and the line is
    handed out unless that ended the run. -/
theorem take_line_full (p : Processor) (workers : Nat) {r : Run} (h : r.failure = none)
    (lines : Nat) (oldest : Task) {window : List Task} (errors : Nat) {data : Bytes}
    (hb : isBlankLine data = false) (hw : window.length + 1 = windowSize workers) :
    take p workers (r.aside lines (oldest :: window) errors) (.line data)
      = ((r.settle oldest).aside (lines + 1) window errors).andThen
        fun r => { r with window := r.window ++ [⟨lines + 1, Report.ofLine p data⟩] } := by
  have hdue : (oldest :: window).length - (windowSize workers - 1) = 1 := by
    rw [List.length_cons]
    omega
  rw [take_line p workers h lines _ errors hb, hdue]
  rfl

theorem tasksFrom_cons (p : Processor) (lines : Nat) (f : Frame) (fs : List Frame) :
    tasksFrom p lines (f :: fs) = tasksFrom p lines [f] ++ tasksFrom p (lines + 1) fs := by
  cases f with
  | oversized length => rfl
  | line data => cases hb : isBlankLine data <;> simp [tasksFrom, hb]

/-- Settling down to `keep` leaves no more than that in the window. -/
theorem settleDownTo_window_le (r : Run) (keep : Nat) :
    (r.settleDownTo keep).window.length ≤ keep := by
  unfold settleDownTo
  rw [foldl_settle_window, List.length_drop]
  omega

/-- No frame makes the window larger than it may be. -/
theorem take_window_le (p : Processor) (workers : Nat) {r : Run} (f : Frame)
    (hw : r.window.length ≤ windowSize workers) :
    (take p workers r f).window.length ≤ windowSize workers := by
  cases hr : r.failure with
  | some e => rwa [take_some hr]
  | none =>
    unfold take
    rw [andThen_none hr]
    cases f with
    | oversized length => exact hw
    | line data =>
      dsimp only
      split
      · exact hw
      · have hkept := settleDownTo_window_le { r with lines := r.lines + 1 }
          (windowSize workers - 1)
        have hpos := windowSize_pos workers
        generalize settleDownTo _ _ = r' at hkept ⊢
        cases hr' : r'.failure with
        | some e =>
          rw [andThen_some hr']
          omega
        | none =>
          rw [andThen_none hr', List.length_append, List.length_singleton]
          omega

/-- At no point of a run are more lines handed out than the window may hold. -/
theorem foldl_take_window_le (p : Processor) (workers : Nat) (fs : List Frame) {r : Run}
    (hw : r.window.length ≤ windowSize workers) :
    (fs.foldl (take p workers) r).window.length ≤ windowSize workers := by
  induction fs generalizing r with
  | nil => exact hw
  | cons f fs ih => exact ih (take_window_le p workers f hw)

/-- How many of these tasks must be settled for the others to fit the
    window. -/
def overdue (workers : Nat) (ts : List Task) : Nat :=
  ts.length - windowSize workers

theorem overdue_of_le {workers : Nat} {ts : List Task} (h : ts.length ≤ windowSize workers) :
    overdue workers ts = 0 :=
  Nat.sub_eq_zero_of_le h

theorem drop_overdue_length_le (workers : Nat) (ts : List Task) :
    (ts.drop (overdue workers ts)).length ≤ windowSize workers := by
  unfold overdue
  rw [List.length_drop]
  omega

/-- Settling what is overdue and then going on settles nothing else than
    settling what is overdue in the end. -/
theorem overdue_append (workers : Nat) (ts rest : List Task) :
    (ts ++ rest).take (overdue workers (ts ++ rest))
      = ts.take (overdue workers ts) ++
        (ts.drop (overdue workers ts) ++ rest).take
          (overdue workers (ts.drop (overdue workers ts) ++ rest)) ∧
    (ts ++ rest).drop (overdue workers (ts ++ rest))
      = (ts.drop (overdue workers ts) ++ rest).drop
          (overdue workers (ts.drop (overdue workers ts) ++ rest)) := by
  have hlen : (ts.take (overdue workers ts)).length = overdue workers ts := by
    unfold overdue
    rw [List.length_take]
    omega
  have hsum : overdue workers (ts ++ rest) = (ts.take (overdue workers ts)).length
      + overdue workers (ts.drop (overdue workers ts) ++ rest) := by
    rw [hlen]
    unfold overdue
    simp only [List.length_append, List.length_drop]
    omega
  have hsplit : ts ++ rest
      = ts.take (overdue workers ts) ++ (ts.drop (overdue workers ts) ++ rest) := by
    rw [← List.append_assoc, List.take_append_drop]
  constructor
  · rw [hsum]
    conv => lhs; rw [hsplit]
    rw [List.take_length_add_append]
  · rw [hsum]
    conv => lhs; rw [hsplit]
    rw [List.drop_length_add_append]

/-- Settle what is overdue. -/
def settleOverdue (workers : Nat) (ts : List Task) (r : Run) : Run :=
  (ts.take (overdue workers ts)).foldl settle r

theorem settleOverdue_none {workers : Nat} {ts : List Task} (r : Run)
    (h : ts.length ≤ windowSize workers) : settleOverdue workers ts r = r := by
  rw [settleOverdue, overdue_of_le h]
  rfl

theorem settleOverdue_some {workers : Nat} {r : Run} {e : Error} (h : r.failure = some e)
    (ts : List Task) : settleOverdue workers ts r = r :=
  foldl_settle_some h _

theorem settleOverdue_aside (workers : Nat) (ts : List Task) (r : Run) (lines : Nat)
    (window : List Task) (errors : Nat) :
    settleOverdue workers ts (r.aside lines window errors)
      = (settleOverdue workers ts r).aside lines window errors :=
  foldl_settle_aside _ r lines window errors

theorem settleOverdue_append (workers : Nat) (ts rest : List Task) (r : Run) :
    settleOverdue workers (ts ++ rest) r
      = settleOverdue workers (ts.drop (overdue workers ts) ++ rest)
          (settleOverdue workers ts r) := by
  unfold settleOverdue
  rw [(overdue_append workers ts rest).1, List.foldl_append]

/-- What a run has come to with frames that make `ts` of the tasks in its
    window: what is overdue is settled, and what else happened only moved the
    run on. -/
def TakenTo (workers : Nat) (ts : List Task) (fs : List Frame) (r : Run)
    (lines errors : Nat) (r' : Run) : Prop :=
  ∃ lines' window' errors',
    r' = (settleOverdue workers ts r).aside lines' window' errors' ∧
    ((settleOverdue workers ts r).failure = none → lines' = lines + fs.length ∧
      window' = ts.drop (overdue workers ts) ∧ errors' = errors + fs.countP isOversized)

/-- A run that has ended takes nothing. -/
theorem takenTo_some {workers : Nat} {r : Run} {e : Error} (h : r.failure = some e)
    (ts : List Task) (fs : List Frame) (lines lines' errors errors' : Nat)
    (window' : List Task) :
    TakenTo workers ts fs r lines errors (r.aside lines' window' errors') := by
  refine ⟨lines', window', errors', ?_, ?_⟩
  · rw [settleOverdue_some h]
  · intro hf
    rw [settleOverdue_some h, h] at hf
    cases hf

/-- A frame that is not handed out. -/
theorem takenTo_same {workers : Nat} {window : List Task} (f : Frame) (r : Run)
    (lines errors : Nat) (hw : window.length ≤ windowSize workers) :
    TakenTo workers window [f] r lines errors
      (r.aside (lines + 1) window (errors + [f].countP isOversized)) := by
  refine ⟨lines + 1, window, _, ?_, fun _ => ⟨rfl, ?_, rfl⟩⟩
  · rw [settleOverdue_none r hw]
  · rw [overdue_of_le hw, List.drop_zero]

/-- A line that is handed out. -/
theorem take_line_takenTo (p : Processor) (workers : Nat) {r : Run} (h : r.failure = none)
    (lines : Nat) (window : List Task) (errors : Nat) {data : Bytes}
    (hb : isBlankLine data = false) (hw : window.length ≤ windowSize workers) :
    TakenTo workers (window ++ [⟨lines + 1, Report.ofLine p data⟩]) [.line data] r lines errors
      (take p workers (r.aside lines window errors) (.line data)) := by
  by_cases hroom : window.length < windowSize workers
  · have hlen : (window ++ [Task.mk (lines + 1) (Report.ofLine p data)]).length
        ≤ windowSize workers := by
      rw [List.length_append, List.length_singleton]
      exact hroom
    refine ⟨lines + 1, _, errors, ?_, fun _ => ⟨rfl, rfl, rfl⟩⟩
    rw [take_line_room p workers h lines errors hb hroom, settleOverdue_none r hlen,
      overdue_of_le hlen]
    rfl
  · cases window with
    | nil => exact absurd (windowSize_pos workers) hroom
    | cons oldest window =>
      rw [List.length_cons] at hw hroom
      have hdue : overdue workers
          (oldest :: window ++ [⟨lines + 1, Report.ofLine p data⟩]) = 1 := by
        simp only [overdue, List.length_append, List.length_cons, List.length_nil]
        omega
      have hsettled : settleOverdue workers
          (oldest :: window ++ [⟨lines + 1, Report.ofLine p data⟩]) r = r.settle oldest := by
        rw [settleOverdue, hdue]
        rfl
      rw [take_line_full p workers h lines oldest errors hb (by omega)]
      -- The oldest result may be what ends the run.
      cases hs : (r.settle oldest).failure with
      | none =>
        refine ⟨lines + 1, _, errors, ?_, fun _ => ⟨rfl, rfl, rfl⟩⟩
        rw [andThen_none (r := (r.settle oldest).aside _ _ _) hs, hsettled, hdue]
        rfl
      | some e =>
        refine ⟨lines + 1, window, errors, ?_, ?_⟩
        · rw [andThen_some (r := (r.settle oldest).aside _ _ _) hs, hsettled]
        · intro hf
          rw [hsettled, hs] at hf
          cases hf

/-- One frame. -/
theorem take_takenTo (p : Processor) (workers : Nat) (f : Frame) (r : Run) (lines : Nat)
    (window : List Task) (errors : Nat) (hw : window.length ≤ windowSize workers) :
    TakenTo workers (window ++ tasksFrom p lines [f]) [f] r lines errors
      (take p workers (r.aside lines window errors) f) := by
  cases hr : r.failure with
  | some e =>
    rw [take_some (r := r.aside _ _ _) hr]
    exact takenTo_some hr _ _ _ _ _ _ _
  | none =>
    cases f with
    | oversized length =>
      rw [take_oversized p workers hr, tasksFrom, tasksFrom, List.append_nil]
      exact takenTo_same (.oversized length) r lines errors hw
    | line data =>
      cases hb : isBlankLine data with
      | true =>
        rw [take_blank p workers hr _ _ _ hb, tasksFrom, if_pos hb, tasksFrom, List.append_nil]
        exact takenTo_same (.line data) r lines errors hw
      | false =>
        rw [tasksFrom, if_neg (by simp [hb]), tasksFrom]
        exact take_line_takenTo p workers hr lines window errors hb hw

/-- **Taking frames settles tasks in order.**  Of the tasks in the window and
    those of the frames all are settled but for as many of the last as fit
    the window. -/
theorem foldl_takenTo (p : Processor) (workers : Nat) (fs : List Frame) (r : Run)
    (lines : Nat) (window : List Task) (errors : Nat)
    (hw : window.length ≤ windowSize workers) :
    TakenTo workers (window ++ tasksFrom p lines fs) fs r lines errors
      (fs.foldl (take p workers) (r.aside lines window errors)) := by
  -- After every frame what is overdue has been settled, so that the window of
  -- the next one is the rest of all tasks up to it.
  induction fs generalizing r lines window errors with
  | nil =>
    rw [tasksFrom, List.append_nil]
    refine ⟨lines, window, errors, ?_, fun _ => ⟨rfl, ?_, rfl⟩⟩
    · rw [settleOverdue_none r hw]
      rfl
    · rw [overdue_of_le hw, List.drop_zero]
  | cons f fs ih =>
    obtain ⟨lines₁, window₁, errors₁, htake, hplace⟩ :=
      take_takenTo p workers f r lines window errors hw
    rw [List.foldl_cons, htake, tasksFrom_cons, ← List.append_assoc]
    generalize window ++ tasksFrom p lines [f] = ts at *
    cases hr₁ : (settleOverdue workers ts r).failure with
    | some e =>
      -- The run has ended, and neither taking nor settling goes on.
      rw [foldl_take_some (r := (settleOverdue workers ts r).aside _ _ _) hr₁]
      have hsame := settleOverdue_append workers ts (tasksFrom p (lines + 1) fs) r
      rw [settleOverdue_some hr₁] at hsame
      refine ⟨lines₁, window₁, errors₁, by rw [hsame], ?_⟩
      intro hf
      rw [hsame, hr₁] at hf
      cases hf
    | none =>
      obtain ⟨rfl, rfl, rfl⟩ := hplace hr₁
      obtain ⟨lines', window', errors', hfold, hrest⟩ := ih (settleOverdue workers ts r)
        (lines + 1) _ (errors + [f].countP isOversized) (drop_overdue_length_le workers ts)
      rw [← settleOverdue_append] at hfold hrest
      refine ⟨lines', window', errors', hfold, ?_⟩
      intro hf
      obtain ⟨hlines', hwindow', herrors'⟩ := hrest hf
      refine ⟨?_, ?_, ?_⟩
      · rw [hlines', List.length_cons]
        omega
      · rw [hwindow', ← (overdue_append workers ts _).2]
      · rw [herrors', countP_oversized_cons f fs, Nat.add_assoc]

/-! ## Section 4: Runs that have their window -/

/-- Settle the tasks that are due and end.  If the source fails, as many of
    the last as fit the window are not waited for. -/
def windUp (workers : Nat) (failure : Option String) (due : List Task) (r : Run) : Run :=
  match failure with
  | none => (due.foldl settle r).flush
  | some reason => (settleOverdue workers due r).fail (.io (.readInput reason))

/-- Winding up changes nothing of a run that has ended. -/
theorem windUp_some {workers : Nat} {r : Run} {e : Error} (h : r.failure = some e)
    (failure : Option String) (due : List Task) : windUp workers failure due r = r := by
  unfold windUp
  cases failure with
  | none => rw [foldl_settle_some h, flush_some h]
  | some reason =>
    show (settleOverdue workers due r).fail _ = r
    rw [settleOverdue_some h, fail_some h]

/-- The first task that is due may be settled at once, unless the source fails
    and the window has a place for it until then. -/
theorem windUp_cons {workers : Nat} {failure : Option String} {t : Task} {ts : List Task}
    (h : failure = none ∨ windowSize workers ≤ ts.length) (r : Run) :
    windUp workers failure (t :: ts) r = windUp workers failure ts (r.settle t) := by
  cases failure with
  | none => rfl
  | some reason =>
    have hdue : overdue workers (t :: ts) = overdue workers ts + 1 := by
      rcases h with h | h
      · cases h
      · simp only [overdue, List.length_cons]
        omega
    unfold windUp settleOverdue
    rw [hdue]
    rfl

/-- What is overdue and then what the window holds is all there is to settle. -/
theorem foldl_settleOverdue (workers : Nat) (ts : List Task) (r : Run) :
    (ts.drop (overdue workers ts)).foldl settle (settleOverdue workers ts r)
      = ts.foldl settle r := by
  rw [settleOverdue, ← List.foldl_append, List.take_append_drop]

/-- A run that took frames and then finishes ends like one that settles all
    tasks in order, errors counted beforehand. -/
theorem finish_alike {workers : Nat} {ts : List Task} {fs : List Frame} {r r' : Run}
    {lines errors : Nat} (h : TakenTo workers ts fs r lines errors r')
    (failure : Option String) :
    Alike (r'.finish failure)
      (windUp workers failure ts (r.aside 0 [] (errors + fs.countP isOversized))) := by
  obtain ⟨lines', window', errors', rfl, hplace⟩ := h
  cases failure with
  | some reason =>
    -- What is in the window is not waited for.
    refine Alike.fail ?_ _
    rw [settleOverdue_aside]
    apply alike_aside
    intro hf
    exact (hplace hf).2.2
  | none =>
    apply Alike.flush
    rw [settleDownTo_aside, foldl_settle_aside, ← foldl_settleOverdue workers ts r]
    rw [Nat.sub_zero, List.take_length]
    cases hf : (settleOverdue workers ts r).failure with
    | some e =>
      rw [foldl_settle_some hf, foldl_settle_some hf]
      apply alike_aside
      intro hf'
      rw [hf] at hf'
      cases hf'
    | none =>
      obtain ⟨_, rfl, rfl⟩ := hplace hf
      exact alike_aside _ _ _ _ _ fun _ => rfl

/-- **A run is the winding up of its tasks.**  The size of the window
    only matters to a source that fails. -/
theorem complete_alike (p : Processor) (workers max : Nat) (source : Source) (sink : Sink) :
    Alike (complete p workers max source sink)
      (windUp workers source.failure (tasksFrom p 0 (source.frames max).1)
        (Run.aside { sink := sink } 0 [] ((source.frames max).1.countP isOversized))) := by
  have htaken := foldl_takenTo p workers (source.frames max).1 { sink := sink } 0 [] 0
    (Nat.zero_le _)
  have hfinish := finish_alike htaken (source.frames max).2
  rw [List.nil_append, Nat.zero_add] at hfinish
  rw [show source.failure = (source.frames max).2 by rw [Source.frames_eq]]
  exact hfinish

/-! ## Section 5: The places of the window -/

section
variable {p : Processor} {workers max : Nat} {source : Source} {sink : Sink}

/-- For how many workers a window can be asked for. -/
theorem reservable_iff : reservable workers = true ↔ workers < 2 ^ 59 := by
  unfold reservable windowSize placeBytes Limits.reservedBytes
  rw [decide_eq_true_eq]
  -- The one place that is there for no workers is no bound.
  omega

theorem reservable_eq_false (h : 2 ^ 59 ≤ workers) : reservable workers = false := by
  rw [← Bool.not_eq_true, reservable_iff]
  exact Nat.not_lt_of_le h

/-- A run that gets its window goes on as if it had always been there. -/
theorem perform_eq (h : workers < 2 ^ 59) :
    perform p workers max source sink = complete p workers max source sink :=
  if_pos (reservable_iff.mpr h)

/-- **Without a window a run breaks down** before it has read or written
    anything. -/
theorem perform_overflow (h : 2 ^ 59 ≤ workers) :
    perform p workers max source sink = { sink := sink, failure := some .windowTooLarge } := by
  unfold perform
  rw [reservable_eq_false h]
  rfl

/-- So a run that has not failed had one. -/
theorem perform_going (h : (perform p workers max source sink).failure = none) :
    perform p workers max source sink = complete p workers max source sink := by
  rcases Nat.lt_or_ge workers (2 ^ 59) with hfew | hmany
  · exact perform_eq hfew
  · rw [perform_overflow hmany] at h
    cases h

end

end Run

end BatchFilter
