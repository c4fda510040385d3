import BatchFilter.Proofs.Totals
import Mathlib.Data.List.TakeWhile

/-! # What Ends a Run Early

    A processor may break down over a batch, a sink may have no room or may
    not be flushed.  Results are written in the order of the lines, so the
    first of these that a run comes to in that order is its end, however many
    lines were handed out by then, and whatever their workers made of them.

    * `Processor.unbroken`: the lines before the first one that a processor
      breaks down over.
    * `Run.verdict`: how a run ends, told from its lines and its sink.
    * `Run.windUp_verdict`: settling all tasks in order ends that way.
    * `Crew.first_trouble_decides`: so does every run on workers. -/

namespace BatchFilter

/-! ## Section 1: Lines that break a processor -/

/-- What a processor gives, which is nothing where it breaks down. -/
def Processor.outcome (p : Processor) (b : Batch) : Outcome :=
  (p b).getD ⟨[], none⟩

/-- Does a processor break down over the batch on a line? -/
def Line.breaks (p : Processor) (max : Nat) (l : Line) : Bool :=
  (l.intake max).batch?.any fun b => (p b).isNone

/-- The lines before the first one that a processor breaks down over. -/
def Processor.unbroken (p : Processor) (max : Nat) (ls : List Line) : List Line :=
  ls.takeWhile fun l => !l.breaks p max

/-- A line over which a processor does not break down is handled as if it
    never did. -/
theorem Report.ofLine_unbroken {p : Processor} {data : Bytes}
    (h : ∀ b, Batch.ofLine data = .ok b → (p b).isNone = false) :
    ofLine p data = ofLine (fun b => some (Processor.outcome p b)) data := by
  unfold ofLine
  cases hb : Batch.ofLine data with
  | error e => rfl
  | ok b =>
    have hsome := h b hb
    simp only [Processor.outcome]
    cases hp : p b with
    | none =>
      rw [hp] at hsome
      cases hsome
    | some outcome => rfl

theorem Processor.breaks_unbroken {p : Processor} {max : Nat} {ls : List Line} {l : Line}
    (h : l ∈ p.unbroken max ls) : l.breaks p max = false := by
  simpa using List.mem_takeWhile_imp h

/-- Either no line breaks a processor, or one that does comes next. -/
theorem Processor.unbroken_cases (p : Processor) (max : Nat) (ls : List Line) :
    p.unbroken max ls = ls ∨
    ∃ l rest, ls = p.unbroken max ls ++ l :: rest ∧ l.breaks p max = true := by
  have hsplit : p.unbroken max ls ++ ls.dropWhile (fun l => !l.breaks p max) = ls :=
    List.takeWhile_append_dropWhile
  cases hrest : ls.dropWhile (fun l => !l.breaks p max) with
  | nil =>
    rw [hrest, List.append_nil] at hsplit
    exact Or.inl hsplit
  | cons l rest =>
    have hfirst := List.head?_dropWhile_not (fun l => !l.breaks p max) ls
    rw [hrest, List.head?_cons] at hfirst
    rw [hrest] at hsplit
    exact Or.inr ⟨l, rest, hsplit.symm, by simpa using hfirst⟩

/-! ## Section 2: What a sink takes -/

namespace Sink

/-- The bytes that a sink takes of those that are written. -/
def share (s : Sink) (data : Bytes) : Bytes :=
  match s.room with
  | none => data
  | some n => data.take n

/-- Are there more bytes than room? -/
def overflows (s : Sink) (data : Bytes) : Bool :=
  s.room.any fun n => n < data.length

theorem overflows_iff {s : Sink} {data : Bytes} :
    s.overflows data = true ↔ ∃ n, s.room = some n ∧ n < data.length := by
  simp [overflows, Option.any_eq_true]

theorem fits_of_overflows {s : Sink} {data : Bytes} (h : s.overflows data = false) :
    s.Fits data := by
  intro n hroom
  simpa [overflows, hroom] using h

theorem share_fits {s : Sink} {data : Bytes} (h : s.Fits data) : s.share data = data := by
  unfold share
  cases hroom : s.room with
  | none => rfl
  | some n => exact List.take_of_length_le (h n hroom)

end Sink

namespace Run

/-! ## Section 3: The tasks of lines -/

theorem tasksFrom_append (p : Processor) (lines : Nat) (fs fs' : List Frame) :
    tasksFrom p lines (fs ++ fs') = tasksFrom p lines fs ++ tasksFrom p (lines + fs.length) fs' := by
  induction fs generalizing lines with
  | nil => rfl
  | cons f fs ih =>
    rw [List.cons_append, tasksFrom_cons, tasksFrom_cons p lines f fs, ih, List.append_assoc,
      List.length_cons, Nat.add_right_comm lines 1, Nat.add_assoc]

theorem tasksFrom_unbroken {p : Processor} {max : Nat} (lines : Nat) {ls : List Line}
    (h : ∀ l ∈ ls, l.breaks p max = false) :
    tasksFrom p lines (ls.map (Line.frame max))
      = tasksOf (Processor.outcome p) max lines ls := by
  unfold tasksOf
  induction ls generalizing lines with
  | nil => rfl
  | cons l ls ih =>
    have hrest := ih (lines + 1) fun l' hl' => h l' (List.mem_cons_of_mem l hl')
    have hl := h l List.mem_cons_self
    rw [List.map_cons, tasksFrom_cons, tasksFrom_cons _ lines (l.frame max), hrest]
    rw [Line.breaks, Line.intake_eq] at hl
    -- Only a line that holds a batch asks the processor.
    cases hf : l.frame max with
    | oversized length => rfl
    | line data =>
      simp only [hf] at hl
      cases hb : isBlankLine data with
      | true => simp [tasksFrom, hb]
      | false =>
        have hwhole : ∀ b, Batch.ofLine data = .ok b → (p b).isNone = false := by
          intro b hdata
          simpa [hb, hdata, Intake.batch?] using hl
        have hreport := Report.ofLine_unbroken hwhole
        simp [tasksFrom, hb, hreport]

theorem tasksFrom_broken {p : Processor} {max : Nat} (lines : Nat) {l : Line}
    (h : l.breaks p max = true) :
    tasksFrom p lines [l.frame max] = [⟨lines + 1, .brokeDown⟩] := by
  rw [Line.breaks, Line.intake_eq] at h
  cases hf : l.frame max with
  | oversized length =>
    rw [hf] at h
    cases h
  | line data =>
    simp only [hf] at h
    cases hb : isBlankLine data with
    | true => simp [hb, Intake.batch?] at h
    | false =>
      cases hd : Batch.ofLine data with
      | error e => simp [hb, hd, Intake.batch?] at h
      | ok b =>
        have hbreak : p b = none := by simpa [hb, hd, Intake.batch?] using h
        simp [tasksFrom, hb, hd, Report.ofLine, hbreak]

/-! ## Section 4: How a run ends -/

/-- How a run over lines ends.  A sink without room for what comes before the
    first line that breaks the processor is met before that line is; the
    flush comes after all lines. -/
def verdict (p : Processor) (max : Nat) (ls : List Line) (sink : Sink) : Except Error Summary :=
  let before := p.unbroken max ls
  if sink.overflows (writtenFor p.outcome max before) then
    .error (.io (.writeOutput sink.refusal))
  else if before.length < ls.length then
    .error (.io (.workerFailed (before.length + 1)))
  else
    match sink.flushFailure with
    | some reason => .error (.io (.flushOutput reason))
    | none => .ok (Summary.ofLines p.outcome max ls)

/-- What a sink holds after a run over lines. -/
def written (p : Processor) (max : Nat) (ls : List Line) (sink : Sink) : Bytes :=
  sink.bytes ++ sink.share (writtenFor p.outcome max (p.unbroken max ls))

section
variable (p : Processor) (max : Nat) (ls : List Line) (sink : Sink)

theorem verdict_overflows
    (h : sink.overflows (writtenFor p.outcome max (p.unbroken max ls)) = true) :
    verdict p max ls sink = .error (.io (.writeOutput sink.refusal)) :=
  if_pos h

theorem verdict_broken
    (h : sink.overflows (writtenFor p.outcome max (p.unbroken max ls)) = false)
    (hlt : (p.unbroken max ls).length < ls.length) :
    verdict p max ls sink = .error (.io (.workerFailed ((p.unbroken max ls).length + 1))) := by
  simp only [verdict, h, hlt, Bool.false_eq_true, if_false, if_true]

theorem verdict_whole
    (h : sink.overflows (writtenFor p.outcome max (p.unbroken max ls)) = false)
    (hall : p.unbroken max ls = ls) :
    verdict p max ls sink =
      match sink.flushFailure with
      | some reason => .error (.io (.flushOutput reason))
      | none => .ok (Summary.ofLines p.outcome max ls) := by
  rw [hall] at h
  simp only [verdict, hall, h, Nat.lt_irrefl, Bool.false_eq_true, if_false]

/-- The tasks of the lines before the first that breaks the processor come
    first. -/
theorem tasks_unbroken : ∃ rest,
    tasksFrom p 0 (ls.map (Line.frame max))
      = tasksOf p.outcome max 0 (p.unbroken max ls) ++ rest ∧
    (p.unbroken max ls = ls ∧ rest = [] ∨
      (p.unbroken max ls).length < ls.length ∧
        ∃ ts, rest = ⟨(p.unbroken max ls).length + 1, .brokeDown⟩ :: ts) := by
  have hfine : ∀ l ∈ p.unbroken max ls, l.breaks p max = false :=
    fun l hl => Processor.breaks_unbroken hl
  have hbefore := tasksFrom_unbroken 0 hfine
  rcases p.unbroken_cases max ls with hall | ⟨l, after, hsplit, hbreaks⟩
  · rw [hall] at hbefore ⊢
    exact ⟨[], by rw [hbefore, List.append_nil], Or.inl ⟨rfl, rfl⟩⟩
  · refine ⟨tasksFrom p (p.unbroken max ls).length ((l :: after).map (Line.frame max)), ?_,
      Or.inr ⟨?_, ?_⟩⟩
    · have hlines := congrArg (fun ls => tasksFrom p 0 (ls.map (Line.frame max))) hsplit
      refine hlines.trans ?_
      show tasksFrom p 0 ((p.unbroken max ls ++ l :: after).map (Line.frame max)) = _
      rw [List.map_append, tasksFrom_append, hbefore, List.length_map, Nat.zero_add]
    · have hlength := congrArg List.length hsplit
      rw [List.length_append, List.length_cons] at hlength
      omega
    · rw [List.map_cons, tasksFrom_cons, tasksFrom_broken _ hbreaks]
      exact ⟨_, rfl⟩

theorem tooLong_unbroken_le : tooLong max (p.unbroken max ls) ≤ tooLong max ls :=
  ((List.takeWhile_sublist _).map _).countP_le

/-- What settling the tasks of the lines before the first that breaks the
    processor gains, as it gains what a processor that never breaks down
    does. -/
theorem gains_unbroken (errors : Nat) :
    Gains { sink := sink }
      ((tasksOf p.outcome max 0 (p.unbroken max ls)).foldl settle
        (Run.aside { sink := sink } 0 [] (tooLong max (p.unbroken max ls) + errors)))
      ((Summary.ofLines p.outcome max (p.unbroken max ls)).add { errors := errors })
      (writtenFor p.outcome max (p.unbroken max ls)) := by
  have hlines := gains_lines p.outcome max (r := { sink := sink }) rfl 0 (p.unbroken max ls)
  have hall := hlines.aside 0 [] errors
  rwa [aside_aside, ← foldl_settle_aside] at hall

theorem settle_brokeDown {r : Run} (h : r.failure = none) (number : Nat) :
    r.settle ⟨number, .brokeDown⟩
      = { r with failure := some (.io (.workerFailed number)) } := by
  rw [settle, andThen_none h]
  simp only [fail, h]

theorem windUp_append (workers : Nat) (ts ts' : List Task) (r : Run) :
    windUp workers none (ts ++ ts') r = windUp workers none ts' (ts.foldl settle r) :=
  congrArg flush List.foldl_append

/-- Settling all tasks of lines in order ends with their verdict. -/
theorem windUp_verdict (workers : Nat) :
    let r := windUp workers none (tasksFrom p 0 (ls.map (Line.frame max)))
      (Run.aside { sink := sink } 0 [] (tooLong max ls))
    r.result = verdict p max ls sink ∧ r.sink.bytes = written p max ls sink := by
  obtain ⟨rest, htasks, hrest⟩ := tasks_unbroken p max ls
  -- Lines past the limit are counted beforehand, also those that come later.
  obtain ⟨errors, herrors⟩ := Nat.le.dest (tooLong_unbroken_le p max ls)
  have hgains := gains_unbroken p max ls sink errors
  rw [htasks, windUp_append, ← herrors]
  generalize (tasksOf p.outcome max 0 (p.unbroken max ls)).foldl settle
    (Run.aside { sink := sink } 0 [] (tooLong max (p.unbroken max ls) + errors)) = r at hgains ⊢
  unfold written
  cases hover : sink.overflows (writtenFor p.outcome max (p.unbroken max ls)) with
  | true =>
    -- The sink refuses before anything else is met, and that was the end.
    obtain ⟨n, hroom, hlt⟩ := Sink.overflows_iff.mp hover
    obtain ⟨hfailure, hbytes⟩ := hgains.refused n hroom hlt
    rw [windUp_some hfailure, verdict_overflows p max ls sink hover, Sink.share, hroom]
    exact ⟨by rw [result, hfailure], hbytes⟩
  | false =>
    have hfits := Sink.fits_of_overflows hover
    obtain ⟨hgoing, hsummary, htook⟩ := hgains.fits hfits
    rw [Sink.share_fits hfits]
    rcases hrest with ⟨hall, rfl⟩ | ⟨hlt, ts, rfl⟩
    · -- There is nothing left but to flush.
      have hnone : errors = 0 := by
        rw [hall] at herrors
        omega
      rw [hall, hnone] at hsummary
      have hend : windUp workers none [] r = r.flush := rfl
      rw [hend, flush, andThen_none hgoing, htook.flushFailure,
        verdict_whole p max ls sink hover hall]
      cases hflush : sink.flushFailure with
      | none => exact ⟨by rw [result, hgoing, hsummary, Summary.zero_add]; rfl, htook.bytes⟩
      | some reason =>
        simp only [fail, hgoing]
        exact ⟨rfl, htook.bytes⟩
    · -- The next task is the one of the line that breaks the processor.
      rw [windUp_cons (Or.inl rfl), settle_brokeDown hgoing, windUp_some rfl,
        verdict_broken p max ls sink hover hlt]
      exact ⟨rfl, htook.bytes⟩

/-- A run over a source that does not fail ends with the verdict of its lines,
    whatever the number of workers. -/
theorem complete_verdict (workers : Nat) (pieces : List Bytes) :
    (complete p workers max ⟨pieces, none⟩ sink).result
        = verdict p max (linesOf pieces.flatten) sink ∧
      (complete p workers max ⟨pieces, none⟩ sink).sink.bytes
        = written p max (linesOf pieces.flatten) sink := by
  have halike := complete_settled max p workers pieces sink
  obtain ⟨hresult, hbytes⟩ := windUp_verdict p max (linesOf pieces.flatten) sink workers
  exact ⟨halike.result.trans hresult, (congrArg Sink.bytes halike.sink).trans hbytes⟩

end

/-- A processor that breaks down over a batch without parts. -/
example : verdict (fun b => if b.isEmpty then none else some ⟨[b], none⟩) 8
      (linesOf (Utf8.ofString " \n[1,2,3,4,5]\n[]\n[]")) {}
    = .error (.io (.workerFailed 3)) := by
  rfl

end Run

/-! ## Section 5: Every order -/

/-- **The first trouble in the order of the lines is the end of a run.**  For
    every processor, which may break down, over every source that does not
    fail and into every sink, which may have no room or may not be flushed: a
    run ends with the verdict of its lines, and the sink then holds what is
    written for the lines before the first that breaks the processor, or as
    much of that as it had room for.

    This is so for every number of workers that a window can be asked for.
    And on workers it is so in every order of their steps, none of which can
    go on for ever. -/
theorem Crew.first_trouble_decides (p : Processor) (max : Nat) (pieces : List Bytes)
    (sink : Sink) :
    let source : Source := ⟨pieces, none⟩
    let lines := linesOf pieces.flatten
    ∀ workers, workers < 2 ^ 59 →
      ((Run.perform p workers max source sink).result = Run.verdict p max lines sink ∧
        (Run.perform p workers max source sink).sink.bytes = Run.written p max lines sink) ∧
      (∀ c, Reachable p workers max source sink c →
        (c.activity ≠ .closed → ∃ c', Step p workers max c c') ∧
        (c.activity = .closed → c.base.result = Run.verdict p max lines sink ∧
          c.base.sink.bytes = Run.written p max lines sink)) ∧
      ¬∃ e : Nat → Crew, ∀ n, Step p workers max (e n) (e (n + 1)) := by
  intro source lines workers hworkers
  have hrun := Run.complete_verdict p max sink workers pieces
  rw [← Run.perform_eq hworkers] at hrun
  obtain ⟨hresult, hbytes⟩ := hrun
  exact ⟨⟨hresult, hbytes⟩, every_order_ends hresult hbytes⟩

/-- Three workers, and a processor that breaks down over a batch without parts:
    the first of two on the third line is the end.  With less room the sink
    would have been. -/
theorem Crew.first_trouble_decides_third :
    let p : Processor := fun b => if b.isEmpty then none else some ⟨[b, b], none⟩
    let source : Source := ⟨[Utf8.ofString " \n[\x7b\"content\":\"\"\x7d]\n[]\n[]"], none⟩
    let run : Nat → Run := fun room =>
      Run.perform p 3 100 source { room := some room, refusal := "full" }
    3 < 2 ^ 59 ∧
    (run 40).result = .error (.io (.workerFailed 3)) ∧
    (run 40).sink.bytes
      = Utf8.ofString "[\x7b\"content\":\"\"\x7d]\n[\x7b\"content\":\"\"\x7d]\n" ∧
    (run 18).result = .error (.io (.writeOutput "full")) ∧
    (run 18).sink.bytes = Utf8.ofString "[\x7b\"content\":\"\"\x7d]\n[" := by
  intro p source run
  have hworkers : 3 < 2 ^ 59 := by decide
  obtain ⟨⟨hroom, hroomBytes⟩, _⟩ := first_trouble_decides p 100 source.pieces
    { room := some 40, refusal := "full" } 3 hworkers
  obtain ⟨⟨hfull, hfullBytes⟩, _⟩ := first_trouble_decides p 100 source.pieces
    { room := some 18, refusal := "full" } 3 hworkers
  exact ⟨hworkers, hroom.trans rfl, hroomBytes.trans rfl, hfull.trans rfl, hfullBytes.trans rfl⟩

/-- With `2 ^ 59` workers a line that breaks the processor is not even reached,
    as it is by one worker alone. -/
theorem Crew.trouble_unmet :
    let p : Processor := fun _ => none
    let run : Nat → Run := fun workers =>
      Run.perform p workers 100 ⟨[Utf8.ofString "[]\n"], none⟩ {}
    (run 576460752303423488).result = .error .windowTooLarge ∧
    Run.verdict p 100 (linesOf (Utf8.ofString "[]\n")) {} = .error (.io (.workerFailed 1)) ∧
    (run 576460752303423488).result ≠ (run 1).result := by
  intro p run
  have hmany : run 576460752303423488 = { sink := {}, failure := some .windowTooLarge } :=
    Run.perform_overflow (by decide)
  have hone : (run 1).result = .error (.io (.workerFailed 1)) := by
    obtain ⟨hresult, _⟩ := Run.complete_verdict p 100 {} 1 [Utf8.ofString "[]\n"]
    rw [← Run.perform_eq (by decide)] at hresult
    exact hresult.trans rfl
  rw [hmany, hone]
  exact ⟨rfl, rfl, nofun⟩

end BatchFilter
