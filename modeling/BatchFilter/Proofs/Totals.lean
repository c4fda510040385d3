import BatchFilter.Proofs.Workers

/-! # Totals of a Run

    What a run over a source and a sink that do not fail comes to, told from
    the lines of the source alone: what is written, and what is counted.  A
    line is one of four things (`Line.intake`), and what it adds does not
    depend on any other line.  Nor does it depend on how many workers there
    are, up to where no window can be asked for.

    * `Line.intake`, `batchesOf`: what the lines are.
    * `Summary.ofLines`, `writtenFor`: what they come to, line by line.
    * `Run.Gains`: what settling a task adds to a run.
    * `Crew.every_order_counts_lines`: every run on workers comes to that. -/

namespace BatchFilter

/-! ## Section 1: What lines come to -/

/-- What a line is to a run. -/
inductive Intake where
  /-- It is past the limit. -/
  | tooLong
  | blank
  /-- It is no batch. -/
  | unreadable
  | batch (b : Batch)
  deriving DecidableEq

namespace Intake

def batch? : Intake → Option Batch
  | .batch b => some b
  | _ => none

/-- Is it an error to be handed such a line? -/
def isError : Intake → Bool
  | .tooLong | .unreadable => true
  | .blank | .batch _ => false

end Intake

/-- What ASCII has for white space. -/
def asciiSpaces : Bytes :=
  [0x09, 0x0A, 0x0C, 0x0D, 0x20]

/-- What a line is to a run whose lines are limited to `max` bytes.  A batch is
    read from a line that is text. -/
def Line.intake (max : Nat) (l : Line) : Intake :=
  match l.frame max with
  | .oversized _ => .tooLong
  | .line data =>
      if data.all asciiSpaces.contains then .blank
      else
        match Utf8.decode? data with
        | none => .unreadable
        | some text =>
            match Batch.decode text with
            | .error _ => .unreadable
            | .ok b => .batch b

/-- A run takes a line for blank exactly if it is. -/
theorem isBlankLine_eq (line : Bytes) : isBlankLine line = line.all asciiSpaces.contains := by
  unfold isBlankLine
  congr 1
  funext c
  -- The same five bytes, in another order.
  simp only [asciiSpaces, List.contains_eq_mem, List.mem_cons, List.not_mem_nil, or_false]
  grind

/-- What a line is, in the terms of the run. -/
theorem Line.intake_eq (max : Nat) (l : Line) :
    l.intake max =
      match l.frame max with
      | .oversized _ => .tooLong
      | .line data =>
          if isBlankLine data then .blank
          else
            match Batch.ofLine data with
            | .error _ => .unreadable
            | .ok b => .batch b := by
  unfold intake
  cases l.frame max with
  | oversized length => rfl
  | line data =>
    simp only [isBlankLine_eq, Batch.ofLine]
    cases Utf8.decode? data <;> rfl

/-- The batches on lines, in order. -/
def batchesOf (max : Nat) (ls : List Line) : List Batch :=
  ls.filterMap fun l => (l.intake max).batch?

theorem batchesOf_none {max : Nat} {l : Line} {ls : List Line}
    (h : (l.intake max).batch? = none) : batchesOf max (l :: ls) = batchesOf max ls :=
  List.filterMap_cons_none h

theorem batchesOf_some {max : Nat} {l : Line} {ls : List Line} {b : Batch}
    (h : (l.intake max).batch? = some b) :
    batchesOf max (l :: ls) = b :: batchesOf max ls :=
  List.filterMap_cons_some h

/-- Is it an answer, and one with an error? -/
def Outcome.isError (o : Outcome) : Bool :=
  o.reply.any fun r => !r.isAck

/-- The totals of lines, counted one after another. -/
def Summary.ofLines (f : Batch → Outcome) (max : Nat) (ls : List Line) : Summary where
  batchesIn := (batchesOf max ls).length
  batchesOut := ((batchesOf max ls).flatMap fun b => (f b).batches).length
  acked := (batchesOf max ls).countP fun b => (f b).reply = some .ack
  errors := (ls.countP fun l => (l.intake max).isError)
    + (batchesOf max ls).countP fun b => (f b).isError

/-- Batches as they are written: each is encoded, and a line feed follows. -/
def encodedLines (bs : List Batch) : Bytes :=
  bs.flatMap fun b => Utf8.ofString b.encode ++ [lineFeed]

/-- So they are what a run puts into its sink, one after another. -/
theorem encodedLines_cons (b : Batch) (bs : List Batch) :
    encodedLines (b :: bs) = b.toLine ++ encodedLines bs := rfl

/-- What is written for lines: a line for every batch that is passed on. -/
def writtenFor (f : Batch → Outcome) (max : Nat) (ls : List Line) : Bytes :=
  (batchesOf max ls).flatMap fun b => encodedLines (f b).batches

/-! ## Section 2: Adding totals -/

namespace Summary

/-- The totals of both. -/
def add (s s' : Summary) : Summary :=
  ⟨s.batchesIn + s'.batchesIn, s.batchesOut + s'.batchesOut, s.acked + s'.acked,
    s.errors + s'.errors⟩

theorem add_assoc (s s' s'' : Summary) : (s.add s').add s'' = s.add (s'.add s'') := by
  simp only [add, Nat.add_assoc]

theorem zero_add (s : Summary) : Summary.add {} s = s := by
  simp only [add, Nat.zero_add]

theorem add_comm (s s' : Summary) : s.add s' = s'.add s := by
  simp only [add, Nat.add_comm]

theorem ofLines_error {f : Batch → Outcome} {max : Nat} {l : Line} {ls : List Line}
    (h : (l.intake max).isError = true) :
    ofLines f max (l :: ls) = Summary.add { errors := 1 } (ofLines f max ls) := by
  have hnone : (l.intake max).batch? = none := by
    -- A batch is no error, and nothing else holds one.
    cases hi : l.intake max with
    | batch b =>
      rw [hi] at h
      cases h
    | tooLong => rfl
    | blank => rfl
    | unreadable => rfl
  unfold ofLines
  rw [batchesOf_none hnone, List.countP_cons, if_pos h]
  simp only [add, Summary.mk.injEq]
  omega

theorem ofLines_blank {f : Batch → Outcome} {max : Nat} {l : Line} {ls : List Line}
    (h : l.intake max = .blank) : ofLines f max (l :: ls) = ofLines f max ls := by
  have hnone : (l.intake max).batch? = none := congrArg Intake.batch? h
  have hfine : ¬(l.intake max).isError = true := by rw [h]; nofun
  unfold ofLines
  rw [batchesOf_none hnone, List.countP_cons, if_neg hfine, Nat.add_zero]

/-- What a batch adds to the totals. -/
def ofBatch (o : Outcome) : Summary where
  batchesIn := 1
  batchesOut := o.batches.length
  acked := if o.reply = some .ack then 1 else 0
  errors := if o.isError then 1 else 0

theorem ofLines_batch {f : Batch → Outcome} {max : Nat} {l : Line} {ls : List Line} {b : Batch}
    (h : l.intake max = .batch b) :
    ofLines f max (l :: ls) = (ofBatch (f b)).add (ofLines f max ls) := by
  have hsome : (l.intake max).batch? = some b := congrArg Intake.batch? h
  have hfine : ¬(l.intake max).isError = true := by rw [h]; nofun
  unfold ofLines
  have hcount : (l :: ls).countP (fun l => (l.intake max).isError)
      = ls.countP fun l => (l.intake max).isError := List.countP_cons_of_neg hfine
  rw [batchesOf_some hsome, hcount]
  simp only [List.length_cons, List.flatMap_cons, List.length_append, List.countP_cons, ofBatch,
    add, decide_eq_true_eq, Summary.mk.injEq]
  refine ⟨Nat.add_comm _ 1, trivial, Nat.add_comm _ _, ?_⟩
  omega

end Summary

/-! ## Section 3: Room in a sink -/

namespace Sink

/-- Is there room for all these bytes? -/
def Fits (s : Sink) (data : Bytes) : Prop :=
  ∀ n, s.room = some n → data.length ≤ n

/-- A sink has taken bytes it had room for. -/
structure Took (s : Sink) (data : Bytes) (s' : Sink) : Prop where
  bytes : s'.bytes = s.bytes ++ data
  room : s'.room = s.room.map (· - data.length)
  refusal : s'.refusal = s.refusal
  flushFailure : s'.flushFailure = s.flushFailure

theorem took_nothing (s : Sink) : s.Took [] s := by
  refine ⟨(List.append_nil _).symm, ?_, rfl, rfl⟩
  cases s.room <;> rfl

theorem Took.trans {s s' s'' : Sink} {data data' : Bytes} (h : s.Took data s')
    (h' : s'.Took data' s'') : s.Took (data ++ data') s'' := by
  refine ⟨?_, ?_, h'.refusal.trans h.refusal, h'.flushFailure.trans h.flushFailure⟩
  · rw [h'.bytes, h.bytes, List.append_assoc]
  · rw [h'.room, h.room, List.length_append]
    cases s.room with
    | none => rfl
    | some n => exact congrArg some (Nat.sub_sub n _ _)

theorem write_fits {s : Sink} {data : Bytes} (h : s.Fits data) :
    ∃ s', s.write data = (s', true) ∧ s.Took data s' := by
  unfold write
  cases hroom : s.room with
  | none => exact ⟨_, rfl, by simp [bytes], by rw [hroom]; rfl, rfl, rfl⟩
  | some n => exact ⟨_, if_pos (h n hroom), by simp [bytes], by rw [hroom]; rfl, rfl, rfl⟩

theorem write_refused {s : Sink} {data : Bytes} {n : Nat} (hroom : s.room = some n)
    (h : n < data.length) :
    ∃ s', s.write data = (s', false) ∧ s'.bytes = s.bytes ++ data.take n ∧
      s'.refusal = s.refusal := by
  have hbytes := bytes_write_limited s data n hroom
  unfold write at hbytes ⊢
  simp only [hroom, if_neg (Nat.not_le_of_lt h)] at hbytes ⊢
  exact ⟨_, rfl, hbytes, rfl⟩

end Sink

/-! ## Section 4: What settling adds -/

namespace Run

/-- From one state to another a run has added these totals and written these
    bytes.  If there was no room for all of them, it has written as many as
    there was room for, and that was its end. -/
structure Gains (r r' : Run) (s : Summary) (written : Bytes) : Prop where
  fits : r.sink.Fits written →
    r'.failure = none ∧ r'.summary = r.summary.add s ∧ r.sink.Took written r'.sink
  refused : ∀ n, r.sink.room = some n → n < written.length →
    r'.failure = some (.io (.writeOutput r.sink.refusal)) ∧
      r'.sink.bytes = r.sink.bytes ++ written.take n

/-- Steps that write nothing. -/
theorem gains_nothing {r r' : Run} {s : Summary} (hfailure : r'.failure = none)
    (hsummary : r'.summary = r.summary.add s) (hsink : r'.sink = r.sink) :
    Gains r r' s [] := by
  refine ⟨fun _ => ⟨hfailure, hsummary, ?_⟩, ?_⟩
  · rw [hsink]
    exact r.sink.took_nothing
  · intro n _ hlt
    exact absurd hlt (Nat.not_lt_zero n)

theorem Gains.refl {r : Run} (h : r.failure = none) : Gains r r {} [] :=
  gains_nothing h rfl rfl

/-- One thing after another.  The second is not done if the first was the
    end. -/
theorem Gains.trans {r r' r'' : Run} {s s' : Summary} {bs bs' : Bytes} (h : Gains r r' s bs)
    (h' : r'.failure = none → Gains r' r'' s' bs')
    (hended : ∀ e, r'.failure = some e → r''.failure = some e ∧ r''.sink = r'.sink) :
    Gains r r'' (s.add s') (bs ++ bs') := by
  constructor
  · intro hfits
    have hfirst : r.sink.Fits bs := by
      intro n hroom
      have hall := hfits n hroom
      rw [List.length_append] at hall
      exact Nat.le_of_add_right_le hall
    obtain ⟨hgoing, hsummary, htook⟩ := h.fits hfirst
    have hsecond : r'.sink.Fits bs' := by
      intro n hroom
      rw [htook.room] at hroom
      obtain ⟨k, hk, rfl⟩ := Option.map_eq_some_iff.mp hroom
      have hall := hfits k hk
      rw [List.length_append] at hall
      omega
    obtain ⟨hgoing', hsummary', htook'⟩ := (h' hgoing).fits hsecond
    exact ⟨hgoing', by rw [hsummary', hsummary, Summary.add_assoc], htook.trans htook'⟩
  · intro n hroom hlt
    rw [List.length_append] at hlt
    by_cases hfirst : bs.length ≤ n
    · have hfits : r.sink.Fits bs := by
        intro k hk
        obtain rfl : k = n := Option.some.inj (hk.symm.trans hroom)
        exact hfirst
      obtain ⟨hgoing, _, htook⟩ := h.fits hfits
      have hroom' : r'.sink.room = some (n - bs.length) := by rw [htook.room, hroom]; rfl
      obtain ⟨hfailure, hbytes⟩ := (h' hgoing).refused _ hroom' (by omega)
      rw [htook.refusal] at hfailure
      refine ⟨hfailure, ?_⟩
      rw [hbytes, htook.bytes, List.append_assoc, List.take_append,
        List.take_of_length_le hfirst]
    · have hlt' : n < bs.length := Nat.lt_of_not_le hfirst
      obtain ⟨hfailure, hbytes⟩ := h.refused n hroom hlt'
      obtain ⟨hfailure', hsink⟩ := hended _ hfailure
      exact ⟨hfailure', by rw [hsink, hbytes, List.take_append_of_le_length (Nat.le_of_lt hlt')]⟩

theorem gains_put {r : Run} (h : r.failure = none) (b : Batch) :
    Gains r (r.put b) { batchesOut := 1 } b.toLine := by
  rw [put, andThen_none h]
  constructor
  · intro hfits
    obtain ⟨sink, hwrite, htook⟩ := Sink.write_fits hfits
    rw [hwrite]
    exact ⟨h, rfl, htook⟩
  · intro n hroom hlt
    obtain ⟨sink, hwrite, hbytes, hrefusal⟩ := Sink.write_refused hroom hlt
    simp only [hwrite, fail, h, hrefusal]
    exact ⟨trivial, hbytes⟩

/-- A run that has ended is what it comes to. -/
theorem ended_same {r r' : Run} {e : Error} (h : r.failure = some e) (hsame : r' = r) :
    r'.failure = some e ∧ r'.sink = r.sink := by
  rw [hsame]
  exact ⟨h, rfl⟩

theorem foldl_put_some {r : Run} {e : Error} (h : r.failure = some e) (bs : List Batch) :
    bs.foldl put r = r := by
  induction bs with
  | nil => rfl
  | cons b bs ih => rw [List.foldl_cons, put, andThen_some h, ih]

theorem gains_puts {r : Run} (h : r.failure = none) (bs : List Batch) :
    Gains r (bs.foldl put r) { batchesOut := bs.length } (encodedLines bs) := by
  induction bs generalizing r with
  | nil => exact Gains.refl h
  | cons b bs ih =>
    have hsum : Summary.add { batchesOut := 1 } { batchesOut := bs.length }
        = { batchesOut := (b :: bs).length } := by
      rw [List.length_cons, Nat.add_comm]
      rfl
    rw [List.foldl_cons, encodedLines_cons, ← hsum]
    exact (gains_put h b).trans ih fun _ he => ended_same he (foldl_put_some he bs)

theorem gains_answer {r : Run} (h : r.failure = none) (o : Outcome) :
    Gains r (r.answer o.reply)
      { acked := if o.reply = some .ack then 1 else 0, errors := if o.isError then 1 else 0 }
      [] := by
  rw [answer, andThen_none h, Outcome.isError]
  match o.reply with
  | none => exact Gains.refl h
  | some .ack => exact gains_nothing h rfl rfl
  | some (.error _) => exact gains_nothing h rfl rfl

/-- What settling a batch that was handled adds. -/
theorem gains_handled {r : Run} (h : r.failure = none) (number : Nat) (b : Batch)
    (o : Outcome) :
    Gains r (r.settle ⟨number, .handled b o⟩) (Summary.ofBatch o)
      (encodedLines o.batches) := by
  rw [settle, andThen_none h]
  -- First it is counted, then it is passed on, and last it is answered.
  have hreceive : Gains r (r.receive b) { batchesIn := 1 } [] := gains_nothing h rfl rfl
  have hputs := hreceive.trans (fun hgoing => gains_puts hgoing o.batches)
    fun _ he => ended_same he (foldl_put_some he o.batches)
  have hall := hputs.trans (fun hgoing => gains_answer hgoing o)
    fun _ he => ended_same he (andThen_some he _)
  rw [List.nil_append, List.append_nil] at hall
  simpa only [Summary.add, Summary.ofBatch, Nat.add_zero, Nat.zero_add] using hall

theorem gains_unreadable {r : Run} (h : r.failure = none) (number : Nat) :
    Gains r (r.settle ⟨number, .unreadable⟩) { errors := 1 } [] := by
  rw [settle, andThen_none h]
  exact gains_nothing h rfl rfl

/-- Errors that were counted on the side are gained too. -/
theorem Gains.aside {r r' : Run} {s : Summary} {bs : Bytes} (h : Gains r r' s bs)
    (lines : Nat) (window : List Task) (errors : Nat) :
    Gains r (r'.aside lines window errors) (s.add { errors := errors }) bs := by
  have hboth : Gains r (r'.aside lines window errors) (s.add { errors := errors }) (bs ++ []) :=
    h.trans (fun hgoing => gains_nothing hgoing rfl rfl) fun _ he => ⟨he, rfl⟩
  rwa [List.append_nil] at hboth

/-! ## Section 5: What lines add -/

section
variable (f : Batch → Outcome) (max : Nat)

/-- The tasks of lines that follow so many others. -/
def tasksOf (lines : Nat) (ls : List Line) : List Task :=
  tasksFrom (fun b => some (f b)) lines (ls.map (Line.frame max))

/-- How many lines are past the limit. -/
def tooLong (ls : List Line) : Nat :=
  (ls.map (Line.frame max)).countP isOversized

/-- What a line adds is one of four things. -/
theorem tasksOf_cons (lines : Nat) (l : Line) (ls : List Line) :
    (l.intake max = .tooLong ∧ tooLong max (l :: ls) = tooLong max ls + 1 ∧
      tasksOf f max lines (l :: ls) = tasksOf f max (lines + 1) ls) ∨
    (tooLong max (l :: ls) = tooLong max ls ∧
      ((l.intake max = .blank ∧ tasksOf f max lines (l :: ls) = tasksOf f max (lines + 1) ls) ∨
      (l.intake max = .unreadable ∧ tasksOf f max lines (l :: ls)
        = ⟨lines + 1, .unreadable⟩ :: tasksOf f max (lines + 1) ls) ∨
      (∃ b, l.intake max = .batch b ∧ tasksOf f max lines (l :: ls)
        = ⟨lines + 1, .handled b (f b)⟩ :: tasksOf f max (lines + 1) ls))) := by
  rw [Line.intake_eq]
  unfold tooLong tasksOf
  rw [List.map_cons]
  cases l.frame max with
  | oversized length => exact Or.inl ⟨rfl, List.countP_cons_of_pos rfl, rfl⟩
  | line data =>
    refine Or.inr ⟨List.countP_cons_of_neg nofun, ?_⟩
    cases hb : isBlankLine data with
    | true => exact Or.inl (by simp [tasksFrom, hb])
    | false =>
      refine Or.inr ?_
      cases hd : Batch.ofLine data with
      | error e => exact Or.inl (by simp [tasksFrom, hb, hd, Report.ofLine])
      | ok b => exact Or.inr ⟨b, by simp [tasksFrom, hb, hd, Report.ofLine]⟩

/-- Settling goes on after a task unless that was the end. -/
theorem gains_settle_cons {r : Run} {t : Task} {ts : List Task} {errors : Nat}
    {s s' : Summary} {bs bs' : Bytes} (h : Gains r (r.settle t) s bs)
    (h' : (r.settle t).failure = none →
      Gains (r.settle t) ((ts.foldl settle (r.settle t)).aside 0 [] errors) s' bs') :
    Gains r (((t :: ts).foldl settle r).aside 0 [] errors) (s.add s') (bs ++ bs') := by
  apply h.trans h'
  intro e he
  rw [foldl_settle_some he]
  exact ⟨he, rfl⟩

/-- Settling the tasks of lines adds what the lines come to. -/
theorem gains_lines {r : Run} (h : r.failure = none) (lines : Nat) (ls : List Line) :
    Gains r (((tasksOf f max lines ls).foldl settle r).aside 0 [] (tooLong max ls))
      (Summary.ofLines f max ls) (writtenFor f max ls) := by
  induction ls generalizing r lines with
  | nil => exact (Gains.refl h).aside 0 [] 0
  | cons l ls ih =>
    rcases tasksOf_cons f max lines l ls with ⟨hl, hlong, htasks⟩ | ⟨hlong, hcases⟩
    · -- Its error was counted on the side.
      have hrest := (ih h (lines + 1)).aside 0 [] 1
      rw [aside_aside, Summary.add_comm] at hrest
      rw [hlong, htasks, Summary.ofLines_error (congrArg Intake.isError hl), writtenFor,
        batchesOf_none (congrArg Intake.batch? hl)]
      exact hrest
    rcases hcases with ⟨hl, htasks⟩ | ⟨hl, htasks⟩ | ⟨b, hl, htasks⟩
    · rw [hlong, htasks, Summary.ofLines_blank hl, writtenFor,
        batchesOf_none (congrArg Intake.batch? hl)]
      exact ih h (lines + 1)
    · have hboth := gains_settle_cons (gains_unreadable h (lines + 1)) fun hgoing =>
        ih hgoing (lines + 1)
      rw [hlong, htasks, Summary.ofLines_error (congrArg Intake.isError hl), writtenFor,
        batchesOf_none (congrArg Intake.batch? hl)]
      exact hboth
    · have hboth := gains_settle_cons (gains_handled h (lines + 1) b (f b)) fun hgoing =>
        ih hgoing (lines + 1)
      rw [hlong, htasks, Summary.ofLines_batch hl, writtenFor,
        batchesOf_some (congrArg Intake.batch? hl), List.flatMap_cons]
      exact hboth

/-- A run over a source that does not fail settles the tasks of all lines, and
    counts those that are past the limit on the side. -/
theorem complete_settled (p : Processor) (workers : Nat) (pieces : List Bytes) (sink : Sink) :
    Alike (complete p workers max ⟨pieces, none⟩ sink)
      (windUp workers none (tasksFrom p 0 ((linesOf pieces.flatten).map (Line.frame max)))
        (Run.aside { sink := sink } 0 [] (tooLong max (linesOf pieces.flatten)))) := by
  have halike := complete_alike p workers max ⟨pieces, none⟩ sink
  have hframes : (Source.frames max ⟨pieces, none⟩).1
      = (linesOf pieces.flatten).map (Line.frame max) := by
    rw [Source.frames_eq]
    rfl
  rw [hframes] at halike
  exact halike

/-- What a run over a source and into a sink that do not fail comes to. -/
theorem complete_gains (workers : Nat) (pieces : List Bytes) (sink : Sink)
    (hroom : sink.room = none) (hflush : sink.flushFailure = none) :
    (complete (fun b => some (f b)) workers max ⟨pieces, none⟩ sink).result
        = .ok (Summary.ofLines f max (linesOf pieces.flatten)) ∧
      (complete (fun b => some (f b)) workers max ⟨pieces, none⟩ sink).sink.bytes
        = sink.bytes ++ writtenFor f max (linesOf pieces.flatten) := by
  have hgains := gains_lines f max (r := { sink := sink }) rfl 0 (linesOf pieces.flatten)
  have hfits : sink.Fits (writtenFor f max (linesOf pieces.flatten)) := by
    intro n hn
    rw [hroom] at hn
    cases hn
  obtain ⟨hgoing, hsummary, htook⟩ := hgains.fits hfits
  have halike := complete_settled max (fun b => some (f b)) workers pieces sink
  rw [windUp, foldl_settle_aside] at halike
  change Alike _ (Run.flush (Run.aside ((tasksOf f max 0 _).foldl settle _) 0 []
    (tooLong max _))) at halike
  rw [flush, andThen_none hgoing, htook.flushFailure.trans hflush] at halike
  refine ⟨?_, halike.sink ▸ htook.bytes⟩
  rw [halike.result, result, hgoing, hsummary, Summary.zero_add]

end

end Run

/-! ## Section 6: Every order -/

/-- **No order of steps matters.**  For a processor that never breaks down,
    over a source and into a sink that do not fail, with a window that can be
    asked for: the run that goes line by line never has more lines in its
    window than there are workers (none count as one), and ends well with the
    totals and the output of the lines.  A run on workers never has more lines
    out either, goes on until it is over, cannot go on for ever, and then has
    ended with the same totals and the same output. -/
theorem Crew.every_order_counts_lines (f : Batch → Outcome) (workers max : Nat)
    (hworkers : workers < 2 ^ 59) (pieces : List Bytes) (writes : List Bytes)
    (refusal : String) :
    let p : Processor := fun b => some (f b)
    let source : Source := ⟨pieces, none⟩
    let sink : Sink := ⟨writes, none, refusal, none⟩
    let totals := Summary.ofLines f max (linesOf pieces.flatten)
    let output := sink.bytes ++ writtenFor f max (linesOf pieces.flatten)
    ((Run.perform p workers max source sink).result = .ok totals ∧
      (Run.perform p workers max source sink).sink.bytes = output) ∧
    (∀ n, (((source.frames max).1.take n).foldl (Run.take p workers)
      { sink := sink }).window.length ≤ Nat.max workers 1) ∧
    (∀ c, Reachable p workers max source sink c →
      c.jobs.length ≤ Nat.max workers 1 ∧
      (c.activity ≠ .closed → ∃ c', Step p workers max c c') ∧
      (c.activity = .closed → c.base.result = .ok totals ∧ c.base.sink.bytes = output)) ∧
    ¬∃ e : Nat → Crew, ∀ n, Step p workers max (e n) (e (n + 1)) := by
  intro p source sink totals output
  have hrun := Run.complete_gains f max workers pieces sink rfl rfl
  rw [← Run.perform_eq hworkers] at hrun
  obtain ⟨hresult, hbytes⟩ := hrun
  obtain ⟨horders, hends⟩ := every_order_ends hresult hbytes
  refine ⟨⟨hresult, hbytes⟩, ?_, ?_, hends⟩
  · intro n
    exact Run.foldl_take_window_le p workers _ (Nat.zero_le _)
  · intro c hreach
    exact ⟨(reachable_valid hreach).room, horders c hreach⟩

/-- Two workers and three lines: a batch that is passed on twice and
    acknowledged, a blank line, and one that is no batch. -/
theorem Crew.every_order_counts_lines_two :
    let f : Batch → Outcome := fun b => ⟨[b, b], some .ack⟩
    let source : Source := ⟨[Utf8.ofString "[]\n \r", Utf8.ofString "\n["], none⟩
    let run := Run.perform (fun b => some (f b)) 2 100 source {}
    2 < 2 ^ 59 ∧
    run.result = .ok { batchesIn := 1, batchesOut := 2, acked := 1, errors := 1 } ∧
    run.sink.bytes = Utf8.ofString "[]\n[]\n" := by
  intro f source run
  have hworkers : 2 < 2 ^ 59 := by decide
  obtain ⟨⟨hresult, hbytes⟩, _⟩ :=
    every_order_counts_lines f 2 100 hworkers source.pieces [] ""
  exact ⟨hworkers, hresult.trans rfl, hbytes.trans rfl⟩

/-- With `2 ^ 59` workers there is no window, and so no totals of a line that
    holds a batch, and no output. -/
theorem Crew.line_uncounted :
    let f : Batch → Outcome := fun b => ⟨[b], none⟩
    let source : Source := ⟨[Utf8.ofString "[]\n"], none⟩
    let run := Run.perform (fun b => some (f b)) 576460752303423488 100 source {}
    run.result = .error .windowTooLarge ∧ run.sink.bytes = [] ∧
    Summary.ofLines f 100 (linesOf source.bytes) = { batchesIn := 1, batchesOut := 1 } ∧
    writtenFor f 100 (linesOf source.bytes) = Utf8.ofString "[]\n" ∧
    run.result ≠ .ok (Summary.ofLines f 100 (linesOf source.bytes)) ∧
    run.sink.bytes ≠ writtenFor f 100 (linesOf source.bytes) := by
  intro f source run
  have hrun : run = { sink := {}, failure := some .windowTooLarge } :=
    Run.perform_overflow (by decide)
  have hwritten : writtenFor f 100 (linesOf source.bytes) = Utf8.ofString "[]\n" := rfl
  rw [hrun, hwritten]
  exact ⟨rfl, rfl, rfl, rfl, nofun, nofun⟩

end BatchFilter
