import BatchFilter.Proofs.Indifference
import BatchFilter.Proofs.Tallies
import Mathlib.Data.List.Nodup

/-! # Handling a Batch

    A stage tests the parts of a batch one by one, each once and in order, and
    counts while its condition counts as well.  The condition cannot disturb the
    counters of the stage, and no verdict depends on what was counted or tested
    before.

    * `Stage.handle_noting`: who is asked.
    * `Ledger.Grows`, `Stage.handle_grows`: what a counter grows by.
    * `Stage.countsApart`: stages that were built count apart from all leaves.
    * `Stage.handle_keeps_and_counts`: what comes of a batch, and what it adds. -/

namespace BatchFilter

/-! ## Section 1: Who is asked -/

namespace Stage

variable (s : Stage)

/-- Asking the condition, and noting who was asked about. -/
def askNoting (state : Ledger × List SinglePart) (p : SinglePart) :
    (Ledger × List SinglePart) × Bool :=
  let (l, verdict) := state.1.check s.condition p
  ((l, state.2 ++ [p]), verdict)

/-- Adding to the ledger, beside the notes. -/
def addNoting (state : Ledger × List SinglePart) (i : Increment) : Ledger × List SinglePart :=
  (state.1.add i, state.2)

theorem siftWith_noting (l : Ledger) (noted : List SinglePart) (ps : List Part) :
    s.siftWith s.askNoting addNoting (l, noted) ps
      = (((s.sift l ps).1, noted ++ ps.map .mk), (s.sift l ps).2) := by
  induction ps generalizing l noted with
  | nil => simp [siftWith, sift]
  | cons p ps ih =>
    rw [siftWith, sift_cons]
    cases hverdict : (l.check s.condition ⟨p⟩).2 with
    | true => simp [askNoting, hverdict, ih]
    | false => simp [askNoting, addNoting, hverdict, ih]

/-- **The condition is asked about every part once, in order.** -/
theorem handle_noting (l : Ledger) (noted : List SinglePart) (b : Batch) :
    s.handleWith s.askNoting addNoting (l, noted) b
      = (((s.handle l b).1, noted ++ b.parts.map .mk), (s.handle l b).2) := by
  rw [handleWith, handle_eq]
  rw [show addNoting (l, noted) ⟨s.tally.count, 1⟩ = (l.add ⟨s.tally.count, 1⟩, noted) from rfl,
    siftWith_noting]
  dsimp only
  split <;> rfl

/-! ## Section 2: What is counted -/

theorem sift_ledger (l : Ledger) (ps : List Part) :
    (s.sift l ps).1 = l.addAll (ps.flatMap s.partIncrements) := by
  induction ps generalizing l with
  | nil => rfl
  | cons p ps ih =>
    rw [sift_cons, List.flatMap_cons, Ledger.addAll_append, partIncrements, Ledger.addAll_append]
    show (if (s.condition.check ⟨p⟩).verdict = true then _ else _ : Ledger × List Part).1 = _
    split
    · exact ih _
    · exact ih _

/-- Handling a batch adds what processing it is said to add. -/
theorem handle_ledger (l : Ledger) (b : Batch) : (s.handle l b).1 = l.addAll (s.increments b) := by
  have hkept : (s.sift (l.add ⟨s.tally.count, 1⟩) b.parts).2 = s.kept b := s.sift_kept _ _
  have hcounted := s.sift_ledger (l.add ⟨s.tally.count, 1⟩) b.parts
  rw [handle_eq, increments, Ledger.addAll_append, Ledger.addAll_append]
  dsimp only
  rw [hkept, hcounted]
  cases s.kept b <;> rfl

end Stage

/-- The sum of a counter, if it is kept and exists. -/
def Ledger.read (l : Ledger) : Counter → Option Int64
  | .discarded => none
  | .kept id path => l.value? id path

/-- Has a counter grown by so much? -/
def Ledger.Grows (l l' : Ledger) (k : Counter) (n : Nat) : Prop :=
  l'.read k = (l.read k).map (· + Int64.ofNat n)

/-- What handling a batch adds to a counter. -/
theorem Stage.handle_grows (s : Stage) {l : Ledger} {k : Counter} (h : l.Has k) (b : Batch) :
    l.Grows (s.handle l b).1 k (s.hits k b) := by
  cases k with
  | discarded => rfl
  | kept id path =>
    show (s.handle l b).1.value? id path = (l.value? id path).map _
    rw [handle_ledger, Ledger.value?_addAll_of_has h, total_increments]

/-- A counter that exists is not lost. -/
theorem Ledger.has_addAll {l : Ledger} {k : Counter} (h : l.Has k) (is : List Increment) :
    (l.addAll is).Has k := by
  cases k with
  | discarded => trivial
  | kept id path =>
    obtain ⟨v, hv⟩ := h
    exact ⟨_, by rw [value?_addAll_of_has ⟨v, hv⟩, hv, Option.map_some]⟩

/-- The parts that are passed on. -/
def Outcome.parts (o : Outcome) : List Part :=
  o.batches.flatMap Batch.parts

/-! ## Section 3: Stages that were built -/

namespace Stage

section
variable {pool : Pool} {ts : List Tally} {r : Registry} {c : Config} {s : Stage}

/-- The counters of a stage differ, wherever they are kept. -/
theorem nodup_counters {id : Nat} {front : String} (hr : r.place = some (id, front)) :
    (StageTally.ofRegistry r).counters.Nodup := by
  have hcounters : (StageTally.ofRegistry r).counters
      = StageTally.paths.map fun path => .kept id (front ++ path) := by
    rw [StageTally.counters_ofRegistry]
    exact List.map_congr_left fun path _ => Registry.counter_place hr path
  rw [hcounters]
  refine List.Nodup.map ?_ (by decide)
  intro path path' heq
  exact (String.append_right_inj front).mp (Counter.kept.inj heq).2

/-- **A stage that was built counts apart from all leaves**, those of named
    conditions included. -/
theorem countsApart (hpool : pool.Made ts) (h : (build pool r c).result = .ok s) {id : Nat}
    {front : String} (hr : r.place = some (id, front)) : s.CountsApart := by
  obtain ⟨hcond, htally⟩ := built h
  refine ⟨htally ▸ nodup_counters hr, ?_⟩
  intro p v hv k hk hstage
  have hleaf : v.tally.IsLeaf := by
    rcases hpool.asked_built hcond hv with ht | ht
    · exact Config.isLeaf_tallies ht
    · exact hpool.isLeaf v.tally ht
  rw [htally] at hstage
  have hnone := hleaf.apart hk hstage
  -- Only a counter that is not kept is shared, and a stage in a table has none of these.
  rw [StageTally.counters_ofRegistry, List.mem_map] at hstage
  obtain ⟨path, _, rfl⟩ := hstage
  rw [Registry.counter_place hr] at hnone
  cases hnone

/-- What is registered for a stage is there, if there is a table for it. -/
theorem has_counters (h : (build pool r c).result = .ok s) {l : Ledger}
    (htable : ∀ id front, r.place = some (id, front) → (l.table? id).isSome) :
    (l.registerAll (build pool r c).registered).HasAll s.tally.counters := by
  intro k hk
  rw [(built h).2] at hk
  apply Ledger.has_registerAll
  · rw [registered_build h]
    exact List.mem_append_right _ hk
  · rintro id path rfl
    rw [StageTally.counters_ofRegistry, List.mem_map] at hk
    obtain ⟨name, _, hcounter⟩ := hk
    rcases r.counter_cases with hnowhere | ⟨id', front, hplace, hplaced⟩
    · rw [hnowhere] at hcounter
      cases hcounter
    · rw [hplaced] at hcounter
      cases hcounter
      exact htable id front hplace

/-- Whether any part satisfies the condition tells what comes of a batch. -/
theorem process_eq (s : Stage) (b : Batch) :
    s.process b = if 0 < b.parts.countP s.keeps then ⟨[⟨b.parts.filter s.keeps⟩], none⟩
      else ⟨[], some .ack⟩ := by
  unfold process outcome
  rw [kept_eq, List.countP_eq_length_filter]
  cases b.parts.filter s.keeps <;> simp

/-- What handling a batch adds to the counters of a stage that was built. -/
theorem handle_counts (hpool : pool.Made ts) (h : (build pool r c).result = .ok s) {l : Ledger}
    (hl : l.HasAll s.tally.counters) (b : Batch) :
    let grows := l.Grows (s.handle l b).1
    let satisfying := b.parts.countP s.keeps
    grows s.tally.count 1 ∧
    grows s.tally.partDropped (b.parts.countP fun p => !s.keeps p) ∧
    grows s.tally.partsSent satisfying ∧
    grows s.tally.sent (if 0 < satisfying then 1 else 0) ∧
    grows s.tally.dropped (if 0 < satisfying then 0 else 1) := by
  intro grows satisfying
  rcases r.counter_cases with hnowhere | ⟨id, front, hplace, _⟩
  · -- Nothing is kept, so there is nothing to grow.
    have hdiscarded : s.tally = ⟨.discarded, .discarded, .discarded, .discarded, .discarded⟩ := by
      rw [(built h).2, StageTally.ofRegistry]
      simp only [hnowhere]
    rw [hdiscarded]
    exact ⟨rfl, rfl, rfl, rfl, rfl⟩
  have hapart := countsApart hpool h hplace
  have hsent : s.hits s.tally.sent b = if 0 < satisfying then 1 else 0 := by
    rw [hapart.hits_sent, Batch.sift]
    simp only [satisfying, List.countP_eq_length_filter]
    cases b.parts.filter s.keeps <;> simp
  have hdropped : s.hits s.tally.dropped b = if 0 < satisfying then 0 else 1 := by
    rw [hapart.hits_dropped, process_eq]
    by_cases hsome : 0 < b.parts.countP s.keeps
    · simp [satisfying, hsome]
    · simp [satisfying, hsome]
  have hgrows : ∀ k ∈ [s.tally.count, s.tally.partDropped, s.tally.dropped, s.tally.sent,
      s.tally.partsSent], grows k (s.hits k b) :=
    fun k hk => s.handle_grows (hl k hk) b
  simp only [List.forall_mem_cons, List.not_mem_nil, false_imp_iff, implies_true, and_true,
    hapart.hits_count, hapart.hits_partDropped, hapart.hits_partsSent, hsent, hdropped] at hgrows
  obtain ⟨hcount, hpart, hdrops, hsends, hparts⟩ := hgrows
  exact ⟨hcount, hpart, hparts, hsends, hdrops⟩

theorem handle_parts (s : Stage) (l : Ledger) (ps : List Part) :
    (s.handle l ⟨ps⟩).2.parts = ps.filter s.keeps := by
  rw [handle_outcome, process_eq, List.countP_eq_length_filter]
  unfold Outcome.parts
  cases ps.filter s.keeps <;> simp

/-- **What comes of a batch, and what it adds.**  A stage that was built does the
    following with every batch, whatever was counted before.

    It asks the condition about every part once, in order.  If any part
    satisfies the condition, one batch comes of it, which has just these parts
    in their order, and no reply; otherwise no batch comes of it, and it is
    acknowledged.

    The counters of the stage are there once the stage is built, and stay.  A
    batch adds one to `count`, the number of rejected parts to `partDropped`,
    and either one to `sent` and the number of parts kept to `partsSent`, or one
    to `dropped`: nothing that the condition counts gets in between.

    What is kept of a part does not depend on what is around it or was counted
    before. -/
theorem handle_keeps_and_counts (hpool : pool.Made ts) (h : (build pool r c).result = .ok s) :
    (∀ l b, s.handleWith (fun l p => l.check s.condition p) Ledger.add l b = s.handle l b ∧
      ∀ noted, s.handleWith s.askNoting addNoting (l, noted) b
        = (((s.handle l b).1, noted ++ b.parts.map .mk), (s.handle l b).2)) ∧
    (∀ l b,
      ((∃ p ∈ b.parts, s.condition.holds ⟨p⟩ = true) → (s.handle l b).2
        = ⟨[⟨b.parts.filter fun p => s.condition.holds ⟨p⟩⟩], none⟩) ∧
      ((∀ p ∈ b.parts, s.condition.holds ⟨p⟩ = false) → (s.handle l b).2 = ⟨[], some .ack⟩)) ∧
    (s.tally = .ofRegistry r ∧
      (∀ l : Ledger, (∀ id front, r.place = some (id, front) → (l.table? id).isSome) →
        (l.registerAll (build pool r c).registered).HasAll s.tally.counters) ∧
      ∀ l b, l.HasAll s.tally.counters →
        let satisfying := b.parts.countP fun p => s.condition.holds ⟨p⟩
        let after := (s.handle l b).1
        after.HasAll s.tally.counters ∧
        l.Grows after s.tally.count 1 ∧
        l.Grows after s.tally.partDropped (b.parts.countP fun p => !s.condition.holds ⟨p⟩) ∧
        l.Grows after s.tally.partsSent satisfying ∧
        l.Grows after s.tally.sent (if 0 < satisfying then 1 else 0) ∧
        l.Grows after s.tally.dropped (if 0 < satisfying then 0 else 1)) ∧
    ∀ l l₁ l₂ ps₁ ps₂, (s.handle l ⟨ps₁ ++ ps₂⟩).2.parts
      = (s.handle l₁ ⟨ps₁⟩).2.parts ++ (s.handle l₂ ⟨ps₂⟩).2.parts := by
  refine ⟨?_, ?_, ⟨(built h).2, ?_, ?_⟩, ?_⟩
  · intro l b
    exact ⟨rfl, fun noted => s.handle_noting l noted b⟩
  · intro l b
    rw [handle_outcome, process_eq]
    constructor
    · intro hsome
      have hpos : 0 < b.parts.countP s.keeps := List.countP_pos_iff.mpr hsome
      rw [if_pos hpos]
      rfl
    · intro hnone
      have hzero : ¬0 < b.parts.countP s.keeps := by
        rw [List.countP_pos_iff]
        rintro ⟨p, hp, hholds⟩
        rw [keeps, hnone p hp] at hholds
        cases hholds
      rw [if_neg hzero]
  · intro l htable
    exact has_counters h htable
  · intro l b hl satisfying after
    refine ⟨?_, handle_counts hpool h hl b⟩
    intro k hk
    show (s.handle l b).1.Has k
    rw [handle_ledger]
    exact Ledger.has_addAll (hl k hk) _
  · intro l l₁ l₂ ps₁ ps₂
    rw [handle_parts, handle_parts, handle_parts, List.filter_append]

end

/-- The condition of a tag, and a stage that keeps what has no tag. -/
def tagged : Config where
  kind := "metadata"
  metadata := { operator := "exists", key := "tag" }

def untagged : Config where
  kind := "not"
  not := some { kind := "resource", resource := "tagged" }

/-- A part with a tag, and one without. -/
def mixed : Batch where
  parts := [(Part.mk [1] ∅).withMetadata "tag" "", ⟨[2], ∅⟩]

/-- Of a part with a tag and one without, the latter is kept and the former
    counted. -/
theorem handle_keeps_and_counts_mixed :
    ∃ pool s, (Pool.empty.add (.table 0) "tagged" tagged).result = .ok pool ∧
      (build pool (.table 0) untagged).result = .ok s ∧
      let l := Ledger.empty.addTable.registerAll (build pool (.table 0) untagged).registered
      (s.handle l mixed).2 = ⟨[⟨[⟨[2], ∅⟩]⟩], none⟩ ∧
      (s.handle l mixed).1.value? 0 "processor.filter_parts.part.dropped" = some 1 := by
  have hadded : ∃ pool, (Pool.empty.add (.table 0) "tagged" tagged).result = .ok pool ∧
      ∃ s, (build pool (.table 0) untagged).result = .ok s ∧
        s.condition.holds ⟨(Part.mk [1] ∅).withMetadata "tag" ""⟩ = false ∧
        s.condition.holds ⟨⟨[2], ∅⟩⟩ = true := ⟨_, rfl, _, rfl, rfl, rfl⟩
  obtain ⟨pool, hpool, s, hs, hrejected, hkept⟩ := hadded
  obtain ⟨_, houtcome, ⟨htally, hthere, hcounts⟩, _⟩ := handle_keeps_and_counts (.add .empty hpool) hs
  refine ⟨pool, s, hpool, hs, ?_, ?_⟩
  · have hsome : ∃ p ∈ mixed.parts, s.condition.holds ⟨p⟩ = true :=
      ⟨⟨[2], ∅⟩, by simp [mixed], hkept⟩
    rw [(houtcome _ mixed).1 hsome]
    simp [mixed, hrejected, hkept]
  · have hall := hthere Ledger.empty.addTable (by rintro id front heq; cases heq; rfl)
    obtain ⟨_, _, hdropped, _⟩ := hcounts _ mixed hall
    have hrejects : mixed.parts.countP (fun p => !s.condition.holds ⟨p⟩) = 1 := by
      simp [mixed, hrejected, hkept]
    rw [hrejects, htally] at hdropped
    refine hdropped.trans ?_
    rw [registered_build hs]
    rfl

end Stage

end BatchFilter
