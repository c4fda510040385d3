import BatchFilter.Proofs.Meaning
import BatchFilter.Proofs.Totals
import BatchFilter.Proofs.Wire
import BatchFilter.Settings

/-! # One Filter after Another

    What a run of a stage writes can be read by another run.  The lines come
    back as the batches they were written from, so the second stage filters
    what the first has left, and both together filter like one stage whose
    condition demands both.

    * `Batch.ofLine_text`: contents that were read are text.
    * `batchesOf_encodedLines`: lines that carry such batches are read as these.
    * `Batch.sift_sift`: a batch that is filtered twice.
    * `Stage.runs_compose`: a run over what another run has written. -/

namespace BatchFilter

/-! ## Section 1: What is read is text -/

/-- Contents that can be read back as they are. -/
def Batch.IsText (b : Batch) : Prop :=
  ∀ p ∈ b.parts, (Utf8.decode? p.content).isSome

theorem Part.ofNode?_text {room : Nat} {node : Node} {p : Part} (h : ofNode? room node = some p) :
    (Utf8.decode? p.content).isSome := by
  unfold ofNode? at h
  split at h
  · cases h
  split at h
  · obtain ⟨content, _, h⟩ := Option.bind_eq_some_iff.mp h
    obtain ⟨metadata, _, h⟩ := Option.bind_eq_some_iff.mp h
    cases h
    simp only [Utf8.ofString, Utf8.decode?_encode, Option.isSome_some]
  · cases h

theorem Batch.ofNode?_text {room : Nat} {node : Node} {b : Batch}
    (h : ofNode? room node = some b) : b.IsText := by
  unfold ofNode? at h
  split at h
  · cases h
  obtain ⟨items, _, h⟩ := Option.bind_eq_some_iff.mp h
  obtain ⟨parts, hparts, rfl⟩ := Option.map_eq_some_iff.mp h
  intro p hp
  obtain ⟨item, _, hitem⟩ := mem_of_mapM hparts hp
  exact Part.ofNode?_text hitem

/-- **Whatever bytes a batch was read from, its contents are text.** -/
theorem Batch.ofLine_text {line : Bytes} {b : Batch} (h : ofLine line = .ok b) : b.IsText := by
  unfold ofLine at h
  split at h
  · unfold decode at h
    split at h
    · cases h
    split at h
    · rename_i hnode
      cases h
      obtain ⟨node, _, hnode⟩ := Option.bind_eq_some_iff.mp hnode
      exact ofNode?_text hnode
    · cases h
  · cases h

theorem batchesOf_text {max : Nat} {ls : List Line} {b : Batch} (h : b ∈ batchesOf max ls) :
    b.IsText := by
  obtain ⟨l, _, hl⟩ := List.mem_filterMap.mp h
  -- Of the four things that a line may be only the last one holds a batch.
  rw [Line.intake_eq] at hl
  split at hl
  · cases hl
  split at hl
  · cases hl
  split at hl
  · cases hl
  · rename_i hline
    cases hl
    exact Batch.ofLine_text hline

/-! ## Section 2: What is written is read -/

/-- The line of a batch begins with the bracket of its list. -/
theorem Batch.encode_notBlank (b : Batch) : isBlankLine (Utf8.ofString b.encode) = false := by
  rw [ofString_encode, toJson]
  cases b.parts <;> rfl

/-- A line that carries a batch is taken for that batch, if it is not too
    long. -/
theorem Line.intake_encode {max : Nat} {b : Batch} (htext : b.IsText)
    (hmax : (Utf8.ofString b.encode).length ≤ max)
    (hline : (Utf8.ofString b.encode).length ≤ Limits.lineBytes) :
    (Line.mk (Utf8.ofString b.encode) true).intake max = .batch b := by
  rw [intake_eq, Batch.frame_encode hmax]
  simp only [Batch.encode_notBlank, Batch.ofLine_encode b hline, Batch.lossy_text htext,
    Bool.false_eq_true, if_false]

/-- Batches that are written have a line each. -/
theorem linesOf_encodedLines (bs : List Batch) :
    linesOf (encodedLines bs) = bs.map fun b => ⟨Utf8.ofString b.encode, true⟩ :=
  Batch.linesOf_toLine bs

section
variable {max : Nat} {bs : List Batch} (htext : ∀ b ∈ bs, b.IsText)
  (hfit : ∀ l ∈ linesOf (encodedLines bs),
    l.content.length ≤ max ∧ l.content.length ≤ Limits.lineBytes)

include htext hfit

theorem intake_encodedLines : (linesOf (encodedLines bs)).map (Line.intake max)
    = bs.map .batch := by
  rw [linesOf_encodedLines] at hfit ⊢
  rw [List.map_map]
  apply List.map_congr_left
  intro b hb
  obtain ⟨hmax, hline⟩ := hfit _ (List.mem_map_of_mem hb)
  exact Line.intake_encode (htext b hb) hmax hline

/-- **Lines that carry batches of texts are read as these batches.** -/
theorem batchesOf_encodedLines : batchesOf max (linesOf (encodedLines bs)) = bs := by
  have hintakes := congrArg (List.filterMap Intake.batch?) (intake_encodedLines htext hfit)
  rw [List.filterMap_map, List.filterMap_map] at hintakes
  exact hintakes.trans List.filterMap_some

/-- None of these lines is an error. -/
theorem countP_encodedLines :
    (linesOf (encodedLines bs)).countP (fun l => (l.intake max).isError) = 0 := by
  have hintakes := congrArg (List.countP Intake.isError) (intake_encodedLines htext hfit)
  rw [List.countP_map, List.countP_map] at hintakes
  refine hintakes.trans ?_
  rw [List.countP_eq_zero]
  intro b _
  exact Bool.false_ne_true

end

/-! ## Section 3: Filtering twice -/

/-- What is left of a batch if only parts that satisfy a test are kept: a
    batch, or nothing if there are none. -/
def Batch.sift (keep : Part → Bool) (b : Batch) : List Batch :=
  if (b.parts.filter keep).isEmpty then [] else [⟨b.parts.filter keep⟩]

namespace Batch

theorem sift_text {keep : Part → Bool} {b b' : Batch} (hb : b.IsText) (h : b' ∈ b.sift keep) :
    b'.IsText := by
  unfold sift at h
  split at h
  · cases h
  · cases List.mem_singleton.mp h
    intro p hp
    exact hb p (List.mem_of_mem_filter hp)

/-- **To filter twice is to filter by both tests.** -/
theorem sift_sift (keep keep' : Part → Bool) (b : Batch) :
    (b.sift keep).flatMap (sift keep') = b.sift fun p => keep p && keep' p := by
  have hboth : (b.parts.filter keep).filter keep'
      = b.parts.filter fun p => keep p && keep' p := by
    rw [List.filter_filter]
    exact List.filter_congr fun p _ => Bool.and_comm _ _
  unfold sift
  rw [← hboth]
  cases hkept : b.parts.filter keep with
  | nil => rfl
  | cons p rest => simp only [List.isEmpty_cons, Bool.false_eq_true, if_false,
      List.flatMap_singleton]

end Batch

/-! ## Section 4: Stages -/

/-- The settings of a stage that filters by a condition. -/
def Declarations.filter (d : Declarations) (c : Config) : Settings where
  processor := { condition := c }
  resources := d

/-- What was built answers what its config says, wherever it counts. -/
theorem Declarations.filter_eval {d : Declarations} {c : Config} {r : Registry} {s : Stage}
    (h : ((d.filter c).build r).result = .ok s) {p : Part} {named : String → Bool}
    (hnamed : d.Solution p named) : s.condition.holds ⟨p⟩ = c.eval named p := by
  obtain ⟨pool, hpool, h⟩ := Attempt.bind_ok h
  obtain ⟨built, hbuilt, h⟩ := Attempt.bind_ok h
  cases h
  exact Config.build_eval (solution_agrees hpool hnamed) c
    (Config.built (Attempt.mapError_ok hbuilt))

theorem Declarations.filter_solution {d : Declarations} {c : Config} {r : Registry} {s : Stage}
    (h : ((d.filter c).build r).result = .ok s) (p : Part) : ∃ named, d.Solution p named := by
  obtain ⟨pool, hpool, _⟩ := Attempt.bind_ok h
  exact ⟨_, verdict_solution hpool⟩

/-- A combination of two configs demands both. -/
theorem Config.eval_both {c c₁ c₂ : Config} (hkind : c.kind = Kind.all.name)
    (hall : c.all = [c₁, c₂]) (named : String → Bool) (p : Part) :
    c.eval named p = (c₁.eval named p && c₂.eval named p) := by
  obtain ⟨kind, static, text, metadata, all, any, not, resource⟩ := c
  cases hkind
  cases hall
  show evalAll named p [c₁, c₂] = _
  rw [evalAll, evalAll, evalAll, Bool.and_true]

namespace Stage

/-- Does a part satisfy a stage's condition? -/
def keeps (s : Stage) (p : Part) : Bool :=
  s.condition.holds ⟨p⟩

/-- Stages with the same config keep the same parts. -/
theorem keeps_congr {d : Declarations} {c : Config} {r₁ r₂ : Registry} {s₁ s₂ : Stage}
    (h₁ : ((d.filter c).build r₁).result = .ok s₁)
    (h₂ : ((d.filter c).build r₂).result = .ok s₂) (p : Part) : s₁.keeps p = s₂.keeps p := by
  obtain ⟨named, hnamed⟩ := Declarations.filter_solution h₁ p
  exact (Declarations.filter_eval h₁ hnamed).trans (Declarations.filter_eval h₂ hnamed).symm

/-- A stage for a combination of two configs keeps what stages for both
    keep. -/
theorem keeps_both {d : Declarations} {c c₁ c₂ : Config} {r r₁ r₂ : Registry} {s s₁ s₂ : Stage}
    (h₁ : ((d.filter c₁).build r₁).result = .ok s₁)
    (h₂ : ((d.filter c₂).build r₂).result = .ok s₂) (hkind : c.kind = Kind.all.name)
    (hall : c.all = [c₁, c₂]) (h : ((d.filter c).build r).result = .ok s) (p : Part) :
    s.keeps p = (s₁.keeps p && s₂.keeps p) := by
  obtain ⟨named, hnamed⟩ := Declarations.filter_solution h p
  have heval := Declarations.filter_eval h hnamed
  rw [Config.eval_both hkind hall, ← Declarations.filter_eval h₁ hnamed,
    ← Declarations.filter_eval h₂ hnamed] at heval
  exact heval

theorem batches_process (s : Stage) (b : Batch) : (s.process b).batches = b.sift s.keeps := by
  show (outcome (b.parts.filter s.keeps)).batches = b.sift s.keeps
  unfold outcome Batch.sift
  cases (b.parts.filter s.keeps).isEmpty <;> rfl

/-- A stage answers no batch with an error. -/
theorem isError_process (s : Stage) (b : Batch) : (s.process b).isError = false := by
  unfold process outcome Outcome.isError
  cases (s.kept b).isEmpty <;> rfl

/-- A run of a stage over pieces, into a sink that does not fail. -/
def perform (s : Stage) (workers max : Nat) (pieces : List Bytes) : Run :=
  Run.perform s.processor workers max ⟨pieces, none⟩ {}

/-- Such a run, with a window that is there. -/
def run (s : Stage) (workers max : Nat) (pieces : List Bytes) : Run :=
  Run.complete s.processor workers max ⟨pieces, none⟩ {}

theorem perform_eq (s : Stage) {workers : Nat} (h : workers < 2 ^ 59) (max : Nat)
    (pieces : List Bytes) : s.perform workers max pieces = s.run workers max pieces :=
  Run.perform_eq h

/-- The batches that a stage has left of those on lines. -/
def sifted (s : Stage) (max : Nat) (ls : List Line) : List Batch :=
  (batchesOf max ls).flatMap (Batch.sift s.keeps)

/-- What is written for lines are the batches that a stage has left of those on
    them. -/
theorem writtenFor_process (s : Stage) (max : Nat) (ls : List Line) :
    writtenFor s.process max ls = encodedLines (s.sifted max ls) := by
  rw [encodedLines, sifted, List.flatMap_assoc]
  simp only [writtenFor, encodedLines, batches_process]

theorem run_result (s : Stage) (workers max : Nat) (pieces : List Bytes) :
    (s.run workers max pieces).result
      = .ok (Summary.ofLines s.process max (linesOf pieces.flatten)) :=
  (Run.complete_gains s.process max workers pieces {} rfl rfl).1

theorem run_bytes (s : Stage) (workers max : Nat) (pieces : List Bytes) :
    (s.run workers max pieces).sink.bytes
      = encodedLines (s.sifted max (linesOf pieces.flatten)) := by
  have hbytes := (Run.complete_gains s.process max workers pieces {} rfl rfl).2
  rw [writtenFor_process] at hbytes
  exact hbytes

theorem sifted_text {s : Stage} {max : Nat} {ls : List Line} {b : Batch}
    (h : b ∈ s.sifted max ls) : b.IsText := by
  obtain ⟨b', hb', h⟩ := List.mem_flatMap.mp h
  exact Batch.sift_text (batchesOf_text hb') h

/-- What a stage has left it would keep: it acknowledges none of it. -/
theorem process_sifted {s s' : Stage} (hsame : ∀ p, s.keeps p = s'.keeps p) {max : Nat}
    {ls : List Line} {b : Batch} (h : b ∈ s.sifted max ls) : s'.process b = ⟨[b], none⟩ := by
  obtain ⟨b', _, h⟩ := List.mem_flatMap.mp h
  unfold Batch.sift at h
  split at h
  · cases h
  rename_i hne
  cases List.mem_singleton.mp h
  -- Parts that were kept once are kept again, and there are some.
  have hkept : s'.kept ⟨b'.parts.filter s.keeps⟩ = b'.parts.filter s.keeps := by
    apply List.filter_eq_self.mpr
    intro p hp
    exact (hsame p).symm.trans (List.mem_filter.mp hp).2
  rw [process, hkept, outcome, if_neg hne]

/-- A run over the lines of batches counts no errors and writes what the stage
    leaves of these batches. -/
theorem run_lines (s : Stage) (workers : Nat) {max : Nat} {bs : List Batch}
    (htext : ∀ b ∈ bs, b.IsText)
    (hfit : ∀ l ∈ linesOf (encodedLines bs),
      l.content.length ≤ max ∧ l.content.length ≤ Limits.lineBytes)
    {pieces : List Bytes} (hpieces : pieces.flatten = encodedLines bs) :
    ∃ totals, (s.run workers max pieces).result = .ok totals ∧ totals.errors = 0 ∧
      totals.acked = bs.countP (fun b => (s.process b).reply = some .ack) ∧
      (s.run workers max pieces).sink.bytes
        = encodedLines (bs.flatMap (Batch.sift s.keeps)) := by
  have hbatches := batchesOf_encodedLines htext hfit
  have hlines := countP_encodedLines htext hfit
  have hanswers : bs.countP (fun b => (s.process b).isError) = 0 := by
    rw [List.countP_eq_zero]
    intro b _
    rw [isError_process]
    exact Bool.false_ne_true
  refine ⟨_, s.run_result workers max pieces, ?_, ?_, ?_⟩
  · rw [hpieces]
    simp only [Summary.ofLines, hbatches, hlines, hanswers]
  · rw [hpieces]
    simp only [Summary.ofLines, hbatches]
  · rw [run_bytes, hpieces, sifted, hbatches]

/-- **Running one stage over what another has written** filters by the
    conditions of both.  If every line that the first run writes is short
    enough to be read, the second run ends well and without an error, and
    writes for every batch the parts that satisfy both conditions, where there
    are any.  One run whose condition is the combination of both writes the
    same.  A condition that is applied to what it has left itself changes
    nothing and drops nothing.  All of these runs may have as many workers as
    a window can be asked for. -/
theorem runs_compose {d : Declarations} {c₁ c₂ : Config} {r₁ r₂ : Registry} {s₁ s₂ : Stage}
    (h₁ : ((d.filter c₁).build r₁).result = .ok s₁)
    (h₂ : ((d.filter c₂).build r₂).result = .ok s₂)
    (max max' workers workers' : Nat) (hworkers : workers < 2 ^ 59)
    (hworkers' : workers' < 2 ^ 59) (pieces pieces' : List Bytes)
    (hpieces : pieces'.flatten = (s₁.perform workers max pieces).sink.bytes)
    (hfit : ∀ l ∈ linesOf (s₁.perform workers max pieces).sink.bytes,
      l.content.length ≤ max' ∧ l.content.length ≤ Limits.lineBytes) :
    let first := s₁.perform workers max pieces
    let second := s₂.perform workers' max' pieces'
    let both : Part → Bool := fun p => s₁.keeps p && s₂.keeps p
    (∃ totals, second.result = .ok totals ∧ totals.errors = 0 ∧
      (c₂ = c₁ → totals.acked = 0)) ∧
    second.sink.bytes
      = encodedLines ((batchesOf max (linesOf pieces.flatten)).flatMap (Batch.sift both)) ∧
    (∀ (c : Config) (r : Registry) (s : Stage), c.kind = Kind.all.name → c.all = [c₁, c₂] →
      ((d.filter c).build r).result = .ok s → ∀ workers'' pieces'', workers'' < 2 ^ 59 →
        pieces''.flatten = pieces.flatten →
        (s.perform workers'' max pieces'').sink.bytes = second.sink.bytes) ∧
    (c₂ = c₁ → second.sink.bytes = first.sink.bytes) := by
  intro first second both
  -- All runs have their windows.
  have hperform : first = s₁.run workers max pieces := s₁.perform_eq hworkers max pieces
  have hperform' : second = s₂.run workers' max' pieces' := s₂.perform_eq hworkers' max' pieces'
  -- What the second run reads is what the first has left.
  have hfirst : first.sink.bytes = encodedLines (s₁.sifted max (linesOf pieces.flatten)) := by
    rw [hperform, run_bytes]
  rw [show (s₁.perform workers max pieces).sink.bytes = _ from hfirst] at hpieces hfit
  obtain ⟨totals, hresult, herrors, hacked, hbytes⟩ :=
    s₂.run_lines workers' (fun b hb => sifted_text hb) hfit hpieces
  rw [← hperform'] at hresult hbytes
  have hsecond : second.sink.bytes
      = encodedLines ((batchesOf max (linesOf pieces.flatten)).flatMap (Batch.sift both)) := by
    refine hbytes.trans (congrArg encodedLines ?_)
    rw [sifted, List.flatMap_assoc]
    simp only [Batch.sift_sift, both]
  refine ⟨⟨totals, hresult, herrors, ?_⟩, hsecond, ?_, ?_⟩
  · rintro rfl
    have hsame : ∀ p, s₁.keeps p = s₂.keeps p := keeps_congr h₁ h₂
    rw [hacked, List.countP_eq_zero]
    intro b hb
    rw [process_sifted hsame hb]
    simp
  · intro c r s hkind hall hbuilt workers'' pieces'' hworkers'' hinput
    have hboth : s.keeps = both := funext (keeps_both h₁ h₂ hkind hall hbuilt)
    rw [hsecond, s.perform_eq hworkers'', run_bytes, hinput, sifted, hboth]
  · rintro rfl
    -- The same condition twice is that condition.
    have hboth : both = s₁.keeps := by
      funext p
      show (s₁.keeps p && s₂.keeps p) = s₁.keeps p
      rw [← keeps_congr h₁ h₂ p, Bool.and_self]
    rw [hsecond, hboth]
    exact hfirst.symm

/-- A name for texts that begin with an `a` at the end of its line, in any
    case. -/
def prefixed : Declarations where
  conditions := .ofList [("a", { text := { operator := "prefix", arg := "a\n" } })]

/-- A batch of three parts, a blank line, a line that is no batch, and a batch
    without an end. -/
def fourLines : Bytes := Utf8.ofString
  ("[\x7b\"content\":\"A\\n\\\"b\",\"metadata\":\x7b\"k\":\"v\"\x7d\x7d,\x7b\"content\":\"a\\n\"\x7d,"
    ++ "\x7b\"content\":\"c\",\"metadata\":\x7b\"k\":\"\"\x7d\x7d]\n \r\n[\x7b]\n[\x7b\"content\":\"a\"\x7d]")

/-- First the parts that have a value under `k`, then those of them that the
    name stands for. -/
theorem runs_compose_prefixed :
    let c₁ : Config := { kind := "metadata", metadata := { operator := "exists", key := "k" } }
    let c₂ : Config := { kind := "resource", resource := "a" }
    ∃ s₁ s₂, ((prefixed.filter c₁).build .discard).result = .ok s₁ ∧
      ((prefixed.filter c₂).build (.table 0)).result = .ok s₂ ∧
      (s₂.perform 1 79
          [(s₁.perform 3 200 [fourLines.take 9, fourLines.drop 9]).sink.bytes]).sink.bytes
        = Utf8.ofString
          "[\x7b\"content\":\"A\\n\\\"b\",\"metadata\":\x7b\"k\":\"v\"\x7d\x7d]\n" := by
  intro c₁ c₂
  have horder : prefixed.order = .ok ["a"] := by
    have hkeys : prefixed.conditions.keys = ["a"] := rfl
    have ha : prefixed.clauses.find? "a"
        = some (.text { operator := "prefix", arg := "a\n" }) := rfl
    show (Declarations.visitAll prefixed.clauses [] [] prefixed.conditions.keys).map
      List.reverse = _
    simp [hkeys, Declarations.visitAll_cons, Declarations.visitAll_nil, Declarations.visit_eq,
      ha, Clause.references, Except.map, Except.bind]
  -- The order is known, so building is only evaluated from there.
  let s₁ : Stage :=
    ⟨.leaf (.metadata .present 0 "k") (.ofKind (.within ns .discard) "metadata"),
      .ofRegistry .discard⟩
  let s₂ : Stage :=
    ⟨.shared (.leaf (.text ⟨.startsWith, false⟩ 0 (Utf8.ofString "a\n"))
      (.ofKind (Registry.named (.table 0) "a") "text")), .ofRegistry (.table 0)⟩
  have h₁ : ((prefixed.filter c₁).build .discard).result = .ok s₁ := by
    unfold Settings.build Declarations.filter Declarations.build
    rw [horder]
    rfl
  have h₂ : ((prefixed.filter c₂).build (.table 0)).result = .ok s₂ := by
    unfold Settings.build Declarations.filter Declarations.build
    rw [horder]
    rfl
  refine ⟨s₁, s₂, h₁, h₂, ?_⟩
  have hinput : [fourLines.take 9, fourLines.drop 9].flatten = fourLines := by
    rw [List.flatten_cons, List.flatten_singleton, List.take_append_drop]
  have hbatches : batchesOf 200 (linesOf fourLines)
      = [⟨[⟨Utf8.ofString "A\n\"b", .ofList [("k", "v")]⟩, ⟨Utf8.ofString "a\n", ∅⟩,
          ⟨Utf8.ofString "c", .ofList [("k", "")]⟩]⟩, ⟨[⟨Utf8.ofString "a", ∅⟩]⟩] := by
    decide +kernel
  have hfirst : (s₁.perform 3 200 [fourLines.take 9, fourLines.drop 9]).sink.bytes
      = encodedLines (s₁.sifted 200 (linesOf fourLines)) := by
    rw [s₁.perform_eq (by decide), run_bytes, hinput]
  have hcompose := runs_compose h₁ h₂ 200 79 3 1 (by decide) (by decide)
    [fourLines.take 9, fourLines.drop 9]
    [(s₁.perform 3 200 [fourLines.take 9, fourLines.drop 9]).sink.bytes]
    List.flatten_singleton (by rw [hfirst, sifted, hbatches]; decide +kernel)
  rw [hcompose.2.1, hinput, hbatches]
  decide +kernel

/-- The same filter a second time, with `2 ^ 59` workers: there is no window, and
    nothing is read of what the first run has written. -/
theorem second_run_unread :
    let c : Config := { kind := "static" }
    let pieces : List Bytes := [Utf8.ofString "[\x7b\"content\":\"\"\x7d]"]
    ∃ s, ((Declarations.filter {} c).build .discard).result = .ok s ∧
      let first := s.perform 1 100 pieces
      let second := s.perform 576460752303423488 100 [first.sink.bytes]
      first.sink.bytes = Utf8.ofString "[\x7b\"content\":\"\"\x7d]\n" ∧
      (∀ l ∈ linesOf first.sink.bytes,
        l.content.length ≤ 100 ∧ l.content.length ≤ Limits.lineBytes) ∧
      second.result = .error .windowTooLarge ∧ second.sink.bytes = [] ∧
      (¬∃ totals, second.result = .ok totals ∧ totals.errors = 0) ∧
      second.sink.bytes ≠ first.sink.bytes := by
  intro c pieces
  let s : Stage :=
    ⟨.leaf (.static true) (.ofKind (.within ns .discard) "static"), .ofRegistry .discard⟩
  have hbuild : ((Declarations.filter {} c).build .discard).result = .ok s := rfl
  have hfirst : (s.perform 1 100 pieces).sink.bytes
      = Utf8.ofString "[\x7b\"content\":\"\"\x7d]\n" := by
    rw [s.perform_eq (by decide), run_bytes]
    decide +kernel
  have hsecond : ∀ pieces, s.perform 576460752303423488 100 pieces
      = { sink := {}, failure := some .windowTooLarge } :=
    fun _ => Run.perform_overflow (by decide)
  refine ⟨s, hbuild, ?_⟩
  intro first second
  rw [show second = _ from hsecond _, show first.sink.bytes = _ from hfirst]
  refine ⟨rfl, by decide +kernel, rfl, rfl, ?_, nofun⟩
  intro htotals
  obtain ⟨_, hresult, _⟩ := htotals
  cases hresult

end Stage

end BatchFilter
