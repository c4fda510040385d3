import BatchFilter.Proofs.Filtering
import BatchFilter.Proofs.Visits
import Mathlib.Algebra.BigOperators.Group.List.Basic

/-! # What Stages Count

    A stage counts batches and parts while its condition counts who was asked.
    The paths of both differ, so what a batch adds to a counter of the stage is
    told by which of its parts are kept, and what it adds to a counter of a
    leaf by the checks of its parts.

    * `Tally.Behind.apart`: no leaf shares a counter with a stage.
    * `Stage.hits`, `Stage.total_increments`: what a batch adds to a counter.
    * `Stage.CountsApart`: stages whose counters are apart from those of leaves.
    * `Stage.Separate`: stages like this whose counters are those of a table.
    * `Stage.Separate.batch_balance`, `part_balance`, `leaf_balance`: what is sent
      and what is dropped is all there was, and so is what is answered. -/

namespace BatchFilter

/-! ## Section 1: Paths that differ -/

/-- Texts that begin somehow and end differently are not the same. -/
theorem append_ne {s s' : String} (h : ¬(s.toList <:+ s'.toList ∨ s'.toList <:+ s.toList))
    (a b : String) : a ++ s ≠ b ++ s' := by
  intro heq
  have htext := congrArg String.toList heq
  rw [String.toList_append, String.toList_append] at htext
  have hs : s.toList <:+ b.toList ++ s'.toList := htext ▸ List.suffix_append _ _
  exact h (List.suffix_or_suffix_of_suffix hs (List.suffix_append _ _))

namespace Tally

theorem count_inj (id : Nat) (stem stem' : String) :
    (onPath id stem).count = (onPath id stem').count ↔ stem = stem' := by
  simp only [onPath, Counter.kept.injEq, String.append_left_inj, true_and]

theorem hit_inj (id : Nat) (stem stem' : String) :
    (onPath id stem).hit = (onPath id stem').hit ↔ stem = stem' := by
  simp only [onPath, Counter.kept.injEq, String.append_left_inj, true_and]

theorem miss_inj (id : Nat) (stem stem' : String) :
    (onPath id stem).miss = (onPath id stem').miss ↔ stem = stem' := by
  simp only [onPath, Counter.kept.injEq, String.append_left_inj, true_and]

theorem count_ne_hit (id : Nat) (stem stem' : String) :
    (onPath id stem).count ≠ (onPath id stem').hit := by
  intro heq
  exact append_ne (by decide) stem stem' (Counter.kept.inj heq).2

theorem count_ne_miss (id : Nat) (stem stem' : String) :
    (onPath id stem).count ≠ (onPath id stem').miss := by
  intro heq
  exact append_ne (by decide) stem stem' (Counter.kept.inj heq).2

theorem hit_ne_miss (id : Nat) (stem stem' : String) :
    (onPath id stem).hit ≠ (onPath id stem').miss := by
  intro heq
  exact append_ne (by decide) stem stem' (Counter.kept.inj heq).2

end Tally

/-! ## Section 2: Leaves apart from stages -/

namespace Tally

/-- The names of a leaf's counters. -/
def answers : List String := ["count", "true", "false"]

theorem counters_ofKind (r : Registry) (kind : String) :
    (ofKind r kind).counters
      = answers.map fun answer => r.counter ("condition." ++ kind ++ "." ++ answer) := by
  have hshape : ∀ answer, "condition." ++ kind ++ ("." ++ answer)
      = "condition." ++ kind ++ "." ++ answer := by
    intro answer
    simp only [String.append_assoc]
  unfold answers
  simp only [List.map_cons, List.map_nil, ← hshape]
  rfl

end Tally

theorem StageTally.counters_ofRegistry (r : Registry) :
    (ofRegistry r).counters = paths.map r.counter := rfl

namespace Tally

/-- **A leaf shares no counter with a stage**, wherever that is counted. -/
theorem Behind.apart {t : Tally} {id : Nat} {front : String} (h : t.Behind id front)
    {k : Counter} (hk : k ∈ t.counters) (r : Registry) :
    k ∉ (StageTally.ofRegistry r).counters := by
  -- A path of a leaf ends with its type and the answer, and no path of the stage does.
  have hends : ∀ kind ∈ Kind.leaves, ∀ answer ∈ [".count", ".true", ".false"],
      ∀ path ∈ StageTally.paths,
        ¬(("condition." ++ kind.name ++ answer).toList <:+ path.toList
          ∨ path.toList <:+ ("condition." ++ kind.name ++ answer).toList) := by
    decide
  obtain ⟨route, kind, hkind, rfl⟩ := h
  have hanswer : ∃ answer ∈ [".count", ".true", ".false"],
      k = .kept id ((front ++ route) ++ ("condition." ++ kind.name ++ answer)) := by
    have hshape : ∀ answer, front ++ (route ++ ("condition." ++ kind.name)) ++ answer
        = (front ++ route) ++ ("condition." ++ kind.name ++ answer) := by
      intro answer
      simp only [String.append_assoc]
    rcases List.mem_cons.mp hk with rfl | hk
    · exact ⟨".count", by decide, congrArg _ (hshape _)⟩
    · rcases List.mem_pair.mp hk with rfl | rfl
      · exact ⟨".true", by decide, congrArg _ (hshape _)⟩
      · exact ⟨".false", by decide, congrArg _ (hshape _)⟩
  obtain ⟨answer, hanswer, rfl⟩ := hanswer
  rw [StageTally.counters_ofRegistry, List.mem_map]
  rintro ⟨path, hpath, heq⟩
  rcases r.counter_cases with hnowhere | ⟨id', front', _, hcounter⟩
  · rw [hnowhere] at heq
    cases heq
  · rw [hcounter] at heq
    exact append_ne (hends kind hkind answer hanswer path hpath) _ _ (Counter.kept.inj heq).2.symm

/-- Are the counters those of a leaf, in any registry? -/
def IsLeaf (t : Tally) : Prop :=
  ∃ r, ∃ kind ∈ Kind.leaves, t = .ofKind r kind.name

/-- A leaf and a stage share no counter but the one that is not kept. -/
theorem IsLeaf.apart {t : Tally} (h : t.IsLeaf) {k : Counter} (hk : k ∈ t.counters)
    {r : Registry} (hstage : k ∈ (StageTally.ofRegistry r).counters) : k = .discarded := by
  obtain ⟨r', kind, hkind, rfl⟩ := h
  rcases r'.counter_cases with hnowhere | ⟨id, front, hplace, _⟩
  · rw [counters_ofKind, List.mem_map] at hk
    obtain ⟨answer, _, rfl⟩ := hk
    exact hnowhere _
  · exact absurd hstage ((behind_ofKind hplace hkind).apart hk r)

end Tally

theorem Site.isLeaf_tally? {r : Registry} {s : Site} {t : Tally} (h : s.tally? r = some t) :
    t.IsLeaf := by
  obtain ⟨hleaf, rfl⟩ := tally?_eq_some.mp h
  obtain ⟨kind, hkind, hname⟩ := Kind.mem_leafNames.mp hleaf
  exact ⟨_, kind, hkind, by rw [hname]⟩

theorem Config.isLeaf_tallies {c : Config} {r : Registry} {t : Tally} (h : t ∈ c.tallies r) :
    t.IsLeaf := by
  rw [tallies_sites, List.mem_filterMap] at h
  obtain ⟨s, _, hs⟩ := h
  exact Site.isLeaf_tally? hs

theorem Pool.Made.isLeaf {pool : Pool} {ts : List Tally} (h : pool.Made ts) :
    ∀ t ∈ ts, t.IsLeaf := by
  induction h with
  | empty => exact nofun
  | add _ _ ih =>
    intro t ht
    rcases List.mem_append.mp ht with ht | ht
    · exact ih t ht
    · exact Config.isLeaf_tallies ht

/-- A stage registers the counters of the leaves of its condition, and its
    own. -/
theorem Stage.registered_build {pool : Pool} {r : Registry} {c : Config} {s : Stage}
    (h : (build pool r c).result = .ok s) :
    (build pool r c).registered
      = countersOf (c.tallies (.within ns r)) ++ (StageTally.ofRegistry r).counters := by
  have hcond := (built h).1
  unfold build at h ⊢
  obtain ⟨cond, hmapped, _⟩ := Attempt.bind_ok h
  rw [Attempt.registered_bind hmapped, Attempt.registered_mapError,
    Config.registered_build hcond]
  exact congrArg (_ ++ ·) (List.append_nil _)

/-! ## Section 3: What a batch adds -/

/-- A leaf is counted as often as it answers. -/
theorem Visit.hits_onPath {v : Visit} {id : Nat} {stem stem' : String}
    (h : v.tally = .onPath id stem') :
    v.hits (Tally.onPath id stem).count
      = v.hits (Tally.onPath id stem).hit + v.hits (Tally.onPath id stem).miss := by
  obtain ⟨tally, verdict⟩ := v
  obtain rfl := h
  unfold hits
  simp only [Tally.count_inj, Tally.count_ne_hit, Tally.count_ne_miss, if_false, Nat.zero_add]
  cases verdict with
  | true =>
    simp only [if_true, Tally.hit_inj, Tally.hit_ne_miss, (Tally.count_ne_hit id _ _).symm,
      if_false, Nat.add_zero]
  | false =>
    simp only [Bool.false_eq_true, if_false, Tally.miss_inj, (Tally.count_ne_miss id _ _).symm,
      (Tally.hit_ne_miss id _ _).symm, Nat.add_zero, Nat.zero_add]

/-- A positive answer of a leaf is counted once as such. -/
theorem Visit.hits_hit (id : Nat) (stem : String) (verdict : Bool) :
    hits (Tally.onPath id stem).hit ⟨.onPath id stem, verdict⟩ = if verdict then 1 else 0 := by
  unfold hits
  rw [if_neg (Tally.count_ne_hit id stem stem), Nat.zero_add]
  cases verdict with
  | true => exact if_pos rfl
  | false => exact if_neg (Tally.hit_ne_miss id stem stem).symm

/-- A negative answer of a leaf is counted once as such. -/
theorem Visit.hits_miss (id : Nat) (stem : String) (verdict : Bool) :
    hits (Tally.onPath id stem).miss ⟨.onPath id stem, verdict⟩ = if !verdict then 1 else 0 := by
  unfold hits
  rw [if_neg (Tally.count_ne_miss id stem stem), Nat.zero_add]
  cases verdict with
  | true => exact if_neg (Tally.hit_ne_miss id stem stem)
  | false => exact if_pos rfl

theorem countP_eq_sum {α : Type} (test : α → Bool) (as : List α) :
    as.countP test = (as.map fun a => if test a then 1 else 0).sum := by
  induction as with
  | nil => rfl
  | cons a as ih => rw [List.countP_cons, List.map_cons, List.sum_cons, ih, Nat.add_comm]

namespace Stage

variable (s : Stage) (k : Counter)

/-- What testing a part adds to a counter. -/
def partHits (p : Part) : Nat :=
  (s.condition.check ⟨p⟩).hits k
    + if s.keeps p then 0 else if s.tally.partDropped = k then 1 else 0

/-- What processing a batch adds to a counter. -/
def hits (b : Batch) : Nat :=
  let n := (s.kept b).length
  (if s.tally.count = k then 1 else 0) + (b.parts.map (s.partHits k)).sum
    + if n = 0 then if s.tally.dropped = k then 1 else 0
      else (if s.tally.sent = k then 1 else 0) + if s.tally.partsSent = k then n else 0

theorem total_part (p : Part) :
    Increment.total k (s.partIncrements p) = Int64.ofNat (s.partHits k p) := by
  unfold partIncrements partHits
  rw [Increment.total_append, Checked.total_increments, Int64.ofNat_add]
  congr 1
  show Increment.total k (if s.keeps p = true then [] else _) = _
  cases s.keeps p with
  | true => rfl
  | false => exact Increment.total_single k s.tally.partDropped 1

/-- **What processing a batch adds** is what the batch adds to each counter. -/
theorem total_increments (b : Batch) :
    Increment.total k (s.increments b) = Int64.ofNat (s.hits k b) := by
  have hparts : Increment.total k (b.parts.flatMap s.partIncrements)
      = Int64.ofNat (b.parts.map (s.partHits k)).sum :=
    Increment.total_flatMap fun p _ => s.total_part k p
  have hlast : Increment.total k (if (s.kept b).length = 0 then [⟨s.tally.dropped, 1⟩]
        else [⟨s.tally.sent, 1⟩, ⟨s.tally.partsSent, Int64.ofNat (s.kept b).length⟩])
      = Int64.ofNat (if (s.kept b).length = 0 then if s.tally.dropped = k then 1 else 0
        else (if s.tally.sent = k then 1 else 0)
          + if s.tally.partsSent = k then (s.kept b).length else 0) := by
    split
    · exact Increment.total_single k s.tally.dropped 1
    · show Increment.total k ([⟨s.tally.sent, Int64.ofNat 1⟩] ++ [⟨s.tally.partsSent, _⟩]) = _
      rw [Increment.total_append, Increment.total_single, Increment.total_single, Int64.ofNat_add]
  have hfirst := Increment.total_single k s.tally.count 1
  unfold increments hits
  rw [Increment.total_append, Increment.total_append, hparts, hlast, Int64.ofNat_add,
    Int64.ofNat_add, ← hfirst]
  rfl

theorem kept_eq (b : Batch) : s.kept b = b.parts.filter s.keeps := rfl

/-- Stages whose counters differ from each other and from those of the leaves that
    they ask. -/
structure CountsApart (s : Stage) : Prop where
  differ : s.tally.counters.Nodup
  leaves : ∀ p, ∀ v ∈ (s.condition.check ⟨p⟩).visits, ∀ k ∈ v.tally.counters,
    k ∉ s.tally.counters

end Stage

namespace Stage.CountsApart

variable {s : Stage}

/-- The leaves do not hit the counters of the stage. -/
theorem check_hits (h : s.CountsApart) {k : Counter} (hk : k ∈ s.tally.counters) (p : Part) :
    (s.condition.check ⟨p⟩).hits k = 0 := by
  have hzero : ∀ v ∈ (s.condition.check ⟨p⟩).visits, v.hits k = 0 := by
    intro v hv
    have hapart : ∀ k' ∈ v.tally.counters, k' ≠ k := by
      rintro k' hk' rfl
      exact h.leaves p v hv k' hk' hk
    obtain ⟨hcount, hhit, hmiss⟩ : v.tally.count ≠ k ∧ v.tally.hit ≠ k ∧ v.tally.miss ≠ k := by
      simpa [Tally.counters] using hapart
    unfold Visit.hits
    cases v.verdict <;> simp [hcount, hhit, hmiss]
  unfold Checked.hits
  rw [List.map_congr_left hzero, List.map_const', List.sum_replicate_nat, Nat.mul_zero]

/-- Parts only hit the counter of those that are dropped. -/
theorem parts_hits (h : s.CountsApart) {k : Counter} (hk : k ∈ s.tally.counters)
    (ps : List Part) :
    (ps.map (s.partHits k)).sum
      = if s.tally.partDropped = k then ps.countP fun p => !s.keeps p else 0 := by
  induction ps with
  | nil => split <;> rfl
  | cons p ps ih =>
    rw [List.map_cons, List.sum_cons, ih, Stage.partHits, h.check_hits hk, List.countP_cons]
    cases s.keeps p with
    | true => simp
    | false =>
      simp only [Bool.false_eq_true, if_false, Bool.not_false, if_true]
      split
      · omega
      · rfl

section
variable (h : s.CountsApart) (b : Batch)
include h

/-- Which counters of a stage are not the same. -/
theorem ne :
    (s.tally.count ≠ s.tally.partDropped ∧ s.tally.count ≠ s.tally.dropped ∧
      s.tally.count ≠ s.tally.sent ∧ s.tally.count ≠ s.tally.partsSent) ∧
    (s.tally.partDropped ≠ s.tally.dropped ∧ s.tally.partDropped ≠ s.tally.sent ∧
      s.tally.partDropped ≠ s.tally.partsSent) ∧
    (s.tally.dropped ≠ s.tally.sent ∧ s.tally.dropped ≠ s.tally.partsSent) ∧
    s.tally.sent ≠ s.tally.partsSent := by
  simpa [StageTally.counters, and_assoc] using h.differ

/-- Every batch is counted. -/
theorem hits_count : s.hits s.tally.count b = 1 := by
  obtain ⟨⟨h₁, h₂, h₃, h₄⟩, _⟩ := h.ne
  rw [Stage.hits, h.parts_hits (by simp [StageTally.counters])]
  simp [h₁.symm, h₂.symm, h₃.symm, h₄.symm]

/-- Every part that is not kept is counted as dropped. -/
theorem hits_partDropped :
    s.hits s.tally.partDropped b = b.parts.countP fun p => !s.keeps p := by
  obtain ⟨⟨h₁, _⟩, ⟨h₂, h₃, h₄⟩, _⟩ := h.ne
  rw [Stage.hits, h.parts_hits (by simp [StageTally.counters])]
  simp [h₁, h₂.symm, h₃.symm, h₄.symm]

/-- A batch that has nothing left is counted as dropped, and acknowledged. -/
theorem hits_dropped :
    s.hits s.tally.dropped b = if (s.process b).reply = some .ack then 1 else 0 := by
  obtain ⟨⟨_, h₁, _⟩, ⟨h₂, _⟩, ⟨h₃, h₄⟩, _⟩ := h.ne
  rw [Stage.hits, h.parts_hits (by simp [StageTally.counters])]
  unfold Stage.process Stage.outcome
  cases s.kept b <;> simp [h₁, h₂, h₃.symm, h₄.symm]

/-- A batch that has something left is counted as sent, and passed on. -/
theorem hits_sent : s.hits s.tally.sent b = (b.sift s.keeps).length := by
  obtain ⟨⟨_, _, h₁, _⟩, ⟨_, h₂, _⟩, ⟨h₃, _⟩, h₄⟩ := h.ne
  rw [Stage.hits, h.parts_hits (by simp [StageTally.counters]), s.kept_eq b]
  unfold Batch.sift
  cases b.parts.filter s.keeps <;> simp [h₁, h₂, h₃, h₄.symm]

/-- Every part that is kept is counted as sent. -/
theorem hits_partsSent : s.hits s.tally.partsSent b = b.parts.countP s.keeps := by
  obtain ⟨⟨_, _, _, h₁⟩, ⟨_, _, h₂⟩, ⟨_, h₃⟩, h₄⟩ := h.ne
  rw [Stage.hits, h.parts_hits (by simp [StageTally.counters]), s.kept_eq b,
    ← List.countP_eq_length_filter]
  cases b.parts.countP s.keeps <;> simp [h₁, h₂, h₃, h₄]

end

end Stage.CountsApart

/-- A stage whose counters are those of a table, and that asks leaves of the
    same table. -/
structure Stage.Separate (s : Stage) : Prop where
  tally : s.tally = .ofRegistry (.table 0)
  leaves : ∀ p, ∀ v ∈ (s.condition.check ⟨p⟩).visits, v.tally.Behind 0 ""

namespace Stage.Separate

variable {s : Stage}

theorem countsApart (h : s.Separate) : s.CountsApart where
  differ := by
    rw [h.tally]
    decide
  leaves p v hv k hk := by
    rw [h.tally]
    exact (h.leaves p v hv).apart hk _

section
variable (h : s.Separate) (b : Batch)
include h

theorem hits_count : s.hits (.kept 0 "processor.filter_parts.count") b = 1 := by
  have hhits := h.countsApart.hits_count b
  rwa [h.tally] at hhits

theorem hits_partDropped : s.hits (.kept 0 "processor.filter_parts.part.dropped") b
    = b.parts.countP fun p => !s.keeps p := by
  have hhits := h.countsApart.hits_partDropped b
  rwa [h.tally] at hhits

theorem hits_dropped : s.hits (.kept 0 "processor.filter_parts.dropped") b
    = if (s.process b).reply = some .ack then 1 else 0 := by
  have hhits := h.countsApart.hits_dropped b
  rwa [h.tally] at hhits

theorem hits_sent : s.hits (.kept 0 "processor.filter_parts.sent") b
    = (b.sift s.keeps).length := by
  have hhits := h.countsApart.hits_sent b
  rwa [h.tally] at hhits

theorem hits_partsSent : s.hits (.kept 0 "processor.filter_parts.parts.sent") b
    = b.parts.countP s.keeps := by
  have hhits := h.countsApart.hits_partsSent b
  rwa [h.tally] at hhits

/-- **A batch is either sent or dropped.** -/
theorem batch_balance : s.hits (.kept 0 "processor.filter_parts.count") b
    = s.hits (.kept 0 "processor.filter_parts.sent") b
      + s.hits (.kept 0 "processor.filter_parts.dropped") b := by
  rw [h.hits_count, h.hits_sent, h.hits_dropped, Stage.process, s.kept_eq b]
  unfold Batch.sift Stage.outcome
  cases b.parts.filter s.keeps <;> rfl

/-- **A part is either sent or dropped.** -/
theorem part_balance : b.size
    = s.hits (.kept 0 "processor.filter_parts.parts.sent") b
      + s.hits (.kept 0 "processor.filter_parts.part.dropped") b := by
  have hparts := List.length_eq_countP_add_countP s.keeps (l := b.parts)
  rw [h.hits_partsSent, h.hits_partDropped]
  simpa [Batch.size] using hparts

end

/-- The stage does not hit the counters of leaves. -/
theorem hits_leaf (h : s.Separate) {t : Tally} {front : String} (ht : t.Behind 0 front)
    {k : Counter} (hk : k ∈ t.counters) (b : Batch) :
    s.hits k b = (b.parts.map fun p => (s.condition.check ⟨p⟩).hits k).sum := by
  have hapart : ∀ k' ∈ s.tally.counters, k' ≠ k := by
    rintro k' hk' rfl
    rw [h.tally] at hk'
    exact ht.apart hk _ hk'
  obtain ⟨hcount, hpart, hdropped, hsent, hparts⟩ : s.tally.count ≠ k ∧ s.tally.partDropped ≠ k ∧
      s.tally.dropped ≠ k ∧ s.tally.sent ≠ k ∧ s.tally.partsSent ≠ k := by
    simpa [StageTally.counters] using hapart
  have hmap : ∀ p ∈ b.parts, s.partHits k p = (s.condition.check ⟨p⟩).hits k := by
    intro p _
    simp [Stage.partHits, hpart]
  rw [Stage.hits, List.map_congr_left hmap]
  simp [hcount, hdropped, hsent, hparts]

/-- A leaf answers as often yes or no as it is asked. -/
theorem leaf_balance (h : s.Separate) {t : Tally} {front : String} (ht : t.Behind 0 front)
    (b : Batch) : s.hits t.count b = s.hits t.hit b + s.hits t.miss b := by
  obtain ⟨hcount, hhit, hmiss⟩ : t.count ∈ t.counters ∧ t.hit ∈ t.counters ∧
      t.miss ∈ t.counters := by
    simp [Tally.counters]
  have hcheck : ∀ p ∈ b.parts, (s.condition.check ⟨p⟩).hits t.count
      = (s.condition.check ⟨p⟩).hits t.hit + (s.condition.check ⟨p⟩).hits t.miss := by
    intro p _
    have hvisit : ∀ v ∈ (s.condition.check ⟨p⟩).visits,
        v.hits t.count = v.hits t.hit + v.hits t.miss := by
      intro v hv
      obtain ⟨route, kind, _, hv⟩ := h.leaves p v hv
      obtain ⟨route', kind', _, rfl⟩ := ht
      exact Visit.hits_onPath hv
    unfold Checked.hits
    rw [List.map_congr_left hvisit, List.sum_map_add]
  rw [h.hits_leaf ht hcount, h.hits_leaf ht hhit, h.hits_leaf ht hmiss,
    List.map_congr_left hcheck, List.sum_map_add]

/-- A leaf that decides alone says yes to the parts that are kept, and no to
    the others. -/
theorem hits_decisive (h : s.Separate) {t : Tally} {front : String} (ht : t.Behind 0 front)
    (hcheck : ∀ p, s.condition.check ⟨p⟩ = .ofLeaf t (s.keeps p)) (b : Batch) :
    s.hits t.hit b = b.parts.countP s.keeps ∧
      s.hits t.miss b = b.parts.countP fun p => !s.keeps p := by
  obtain ⟨hhit, hmiss⟩ : t.hit ∈ t.counters ∧ t.miss ∈ t.counters := by
    simp [Tally.counters]
  have hanswer : ∀ k p, (s.condition.check ⟨p⟩).hits k = Visit.hits k ⟨t, s.keeps p⟩ := by
    intro k p
    rw [hcheck p]
    exact Nat.add_zero _
  simp only [h.hits_leaf ht hhit, h.hits_leaf ht hmiss, hanswer]
  obtain ⟨route, kind, _, rfl⟩ := ht
  simp only [Visit.hits_hit, Visit.hits_miss, countP_eq_sum, and_self]

end Stage.Separate

/-! ## Section 4: What batches add -/

namespace Stage

variable {s : Stage} {k k' : Counter} {n : Batch → Nat}

/-- What processing batches adds to a counter. -/
def hitsAll (s : Stage) (k : Counter) (bs : List Batch) : Nat :=
  (bs.map (s.hits k)).sum

theorem hitsAll_eq (h : ∀ b, s.hits k b = n b) (bs : List Batch) :
    s.hitsAll k bs = (bs.map n).sum := by
  rw [hitsAll, funext h]

theorem hitsAll_add (h : ∀ b, n b = s.hits k b + s.hits k' b) (bs : List Batch) :
    (bs.map n).sum = s.hitsAll k bs + s.hitsAll k' bs := by
  rw [funext h, List.sum_map_add]
  rfl

end Stage

namespace Stage.Separate

section
variable {s : Stage} (h : s.Separate) (bs : List Batch)
include h

/-- Batches are counted one by one. -/
theorem all_count : s.hitsAll (.kept 0 "processor.filter_parts.count") bs = bs.length := by
  rw [hitsAll_eq h.hits_count, List.map_const', List.sum_replicate_nat, Nat.mul_one]

/-- Batches are counted as sent if something of them is passed on. -/
theorem all_sent : s.hitsAll (.kept 0 "processor.filter_parts.sent") bs
    = (bs.flatMap (Batch.sift s.keeps)).length := by
  rw [hitsAll_eq h.hits_sent, List.length_flatMap]

/-- Batches are counted as dropped if they are acknowledged. -/
theorem all_dropped : s.hitsAll (.kept 0 "processor.filter_parts.dropped") bs
    = bs.countP fun b => (s.process b).reply = some .ack := by
  rw [hitsAll_eq h.hits_dropped, countP_eq_sum]
  simp only [decide_eq_true_eq]

/-- Parts are counted as sent if they are in what is passed on. -/
theorem all_partsSent : s.hitsAll (.kept 0 "processor.filter_parts.parts.sent") bs
    = ((bs.flatMap (Batch.sift s.keeps)).map Batch.size).sum := by
  have hsift : ∀ b : Batch, b.parts.countP s.keeps = ((b.sift s.keeps).map Batch.size).sum := by
    intro b
    rw [List.countP_eq_length_filter]
    unfold Batch.sift
    cases b.parts.filter s.keeps <;> rfl
  rw [hitsAll_eq h.hits_partsSent, funext hsift, List.map_flatMap, List.flatMap_def,
    List.sum_flatten, List.map_map]
  rfl

end

end Stage.Separate

end BatchFilter
