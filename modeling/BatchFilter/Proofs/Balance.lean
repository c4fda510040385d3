import BatchFilter.Proofs.Counting
import BatchFilter.Proofs.Tallies

/-! # Runs that Add Up

    A run is counted in four places: its totals say what became of lines, the
    counters of its stage what became of batches and parts, the counters of
    leaves what they answered, and its output holds the parts that were kept.
    Different code keeps them, and several workers at a time, and still they
    agree whenever a run ends well.

    * `Settings.built`: what there is to count with.
    * `Settings.stands_increments`: what counters come to after batches.
    * `Run.complete_ok`: what a run that ends well has counted and written.
    * `CountingCrew.closed_balances`: all counts of a run agree. -/

namespace BatchFilter

/-! ## Section 1: What there is to count with -/

/-- Whether a leaf belongs to the settings: to the condition of the stage or to
    one of the named conditions. -/
def Settings.HasLeaf (cfg : Settings) (r : Registry) (t : Tally) : Prop :=
  t ∈ cfg.processor.condition.tallies (.within Stage.ns r) ∨
    ∃ name, t ∈ cfg.resources.talliesOf r name

namespace Settings

variable {cfg : Settings} {r : Registry} {s : Stage}

/-- **What settings are built into**: a stage that counts in the registry, with
    a condition that was built with the named ones.  The counters of all leaves
    are registered, and those of the stage. -/
theorem built (h : (cfg.build r).result = .ok s) :
    s.tally = .ofRegistry r ∧
    (∃ pool ts, pool.Made ts ∧ (∀ t, t ∈ ts ↔ ∃ name, t ∈ cfg.resources.talliesOf r name) ∧
      (cfg.processor.condition.build pool (.within Stage.ns r)).result = .ok s.condition) ∧
    ∀ k, k ∈ (cfg.build r).registered ↔
      k ∈ s.tally.counters ∨ ∃ t, cfg.HasLeaf r t ∧ k ∈ t.counters := by
  unfold build at h ⊢
  obtain ⟨pool, hpool, hstage⟩ := Attempt.bind_ok h
  obtain ⟨ts, hmade, hnamed, hts⟩ := Declarations.made_build hpool
  rw [Attempt.registered_bind hpool, hnamed]
  unfold StageConfig.build at hstage ⊢
  split at hstage
  · rename_i hkind
    obtain ⟨hcond, htally⟩ := Stage.built hstage
    refine ⟨htally, ⟨pool, ts, hmade, hts, hcond⟩, ?_⟩
    intro k
    -- The leaves of the names come first, then those of the stage's condition,
    -- and last the counters of the stage.
    rw [if_pos hkind, Stage.registered_build hstage, htally]
    simp only [List.mem_append, countersOf, List.mem_flatMap, HasLeaf, hts]
    constructor
    · rintro (⟨t, ht, hk⟩ | ⟨t, ht, hk⟩ | hk)
      · exact Or.inr ⟨t, Or.inr ht, hk⟩
      · exact Or.inr ⟨t, Or.inl ht, hk⟩
      · exact Or.inl hk
    · rintro (hk | ⟨t, ht | ht, hk⟩)
      · exact Or.inr (Or.inr hk)
      · exact Or.inr (Or.inl ⟨t, ht, hk⟩)
      · exact Or.inl ⟨t, ht, hk⟩
  · cases hstage

/-- Nobody is asked but leaves of the settings. -/
theorem asked (h : (cfg.build r).result = .ok s) {p : SinglePart} {v : Visit}
    (hv : v ∈ (s.condition.check p).visits) : cfg.HasLeaf r v.tally := by
  obtain ⟨_, ⟨pool, ts, hmade, hts, hcond⟩, _⟩ := built h
  exact (hmade.asked_built hcond hv).imp_right (hts v.tally).mp

/-- All leaves are counted in the table of the registry. -/
theorem HasLeaf.behind {t : Tally} {id : Nat} {front : String} (h : cfg.HasLeaf r t)
    (hr : r.place = some (id, front)) : t.Behind id front := by
  rcases h with ht | ⟨name, ht⟩
  · exact (Config.mem_tallies _ (Registry.place_within hr _) ht).within
  · unfold Declarations.talliesOf at ht
    split at ht
    · cases ht
    · exact (Config.mem_tallies _ (Registry.place_within hr _) ht).within

/-- The stage of settings counts apart from their leaves. -/
theorem separate (h : (cfg.build (.table 0)).result = .ok s) : s.Separate where
  tally := (built h).1
  leaves _ _ hv := (asked h hv).behind rfl

/-! ## Section 2: What counters come to -/

/-- Whatever a batch adds to was registered. -/
theorem has_increments (h : (cfg.build r).result = .ok s) {l : Ledger}
    (hl : l.HasAll (cfg.build r).registered) (b : Batch) :
    ∀ i ∈ s.increments b, l.Has i.counter := by
  obtain ⟨_, _, hregistered⟩ := built h
  have hstage : ∀ k ∈ s.tally.counters, l.Has k := by
    intro k hk
    exact hl k ((hregistered k).mpr (Or.inl hk))
  obtain ⟨hcount, hpart, hdropped, hsent, hparts⟩ : l.Has s.tally.count ∧
      l.Has s.tally.partDropped ∧ l.Has s.tally.dropped ∧ l.Has s.tally.sent ∧
      l.Has s.tally.partsSent := by
    simpa [StageTally.counters] using hstage
  have hleaves : ∀ p, ∀ i ∈ (s.condition.check ⟨p⟩).increments, l.Has i.counter := by
    intro p
    apply Ledger.has_increments
    intro v hv k hk
    exact hl k ((hregistered k).mpr (Or.inr ⟨v.tally, asked h hv, hk⟩))
  intro i hi
  unfold Stage.increments at hi
  rcases List.mem_append.mp hi with hi | hi
  · rcases List.mem_append.mp hi with hi | hi
    · rw [List.mem_singleton.mp hi]
      exact hcount
    · obtain ⟨p, _, hi⟩ := List.mem_flatMap.mp hi
      rcases List.mem_append.mp hi with hi | hi
      · exact hleaves p i hi
      · split at hi
        · cases hi
        · rw [List.mem_singleton.mp hi]
          exact hpart
  · split at hi
    · rw [List.mem_singleton.mp hi]
      exact hdropped
    · rcases List.mem_pair.mp hi with rfl | rfl
      · exact hsent
      · exact hparts

/-- A table with the counters that settings register, before anything is
    counted. -/
def ledger (cfg : Settings) : Ledger :=
  Ledger.empty.addTable.registerAll (cfg.build (.table 0)).registered

/-- Registered counters begin at zero. -/
theorem value?_ledger {path : String}
    (h : Counter.kept 0 path ∈ (cfg.build (.table 0)).registered) :
    cfg.ledger.value? 0 path = some 0 := by
  have htable : (Ledger.empty.addTable.table? 0).isSome := rfl
  rw [ledger, Ledger.value?_registerAll htable, if_pos h]
  rfl

/-- All registered counters are in the table. -/
theorem registered_table (h : (cfg.build (.table 0)).result = .ok s) {k : Counter}
    (hk : k ∈ (cfg.build (.table 0)).registered) : ∃ path, k = .kept 0 path := by
  obtain ⟨htally, _, hregistered⟩ := built h
  rcases (hregistered k).mp hk with hk | ⟨t, ht, hk⟩
  · rw [htally] at hk
    simp only [StageTally.counters, StageTally.ofRegistry, Registry.counter, List.mem_cons,
      List.not_mem_nil, or_false] at hk
    rcases hk with rfl | rfl | rfl | rfl | rfl <;> exact ⟨_, rfl⟩
  · obtain ⟨route, kind, _, rfl⟩ := ht.behind rfl
    rcases List.mem_cons.mp hk with rfl | hk
    · exact ⟨_, rfl⟩
    · rcases List.mem_pair.mp hk with rfl | rfl <;> exact ⟨_, rfl⟩

end Settings

/-- A counter has come to a number.  It shows the number as long as that is
    less than `2 ^ 63`. -/
def Ledger.StandsAt (l : Ledger) (k : Counter) (n : Nat) : Prop :=
  ∃ id path v, k = .kept id path ∧ l.value? id path = some v ∧ v = Int64.ofNat n ∧
    (n < 2 ^ 63 → v.toInt = n)

theorem Ledger.StandsAt.value {l : Ledger} {id : Nat} {path : String} {n : Nat}
    (h : l.StandsAt (.kept id path) n) : l.value? id path = some (Int64.ofNat n) := by
  obtain ⟨id', path', v, hk, hv, rfl, _⟩ := h
  cases hk
  exact hv

/-- **Every counter comes to what batches add to it.** -/
theorem Settings.stands_increments {cfg : Settings} {s : Stage}
    (h : (cfg.build (.table 0)).result = .ok s) (bs : List Batch) {k : Counter}
    (hk : k ∈ (cfg.build (.table 0)).registered) :
    (cfg.ledger.addAll (bs.flatMap s.increments)).StandsAt k (s.hitsAll k bs) := by
  obtain ⟨path, rfl⟩ := registered_table h hk
  have hall : cfg.ledger.HasAll (cfg.build (.table 0)).registered := by
    intro k hk
    obtain ⟨path, rfl⟩ := registered_table h hk
    exact ⟨0, value?_ledger hk⟩
  have hhas : ∀ i ∈ bs.flatMap s.increments, cfg.ledger.Has i.counter := by
    intro i hi
    obtain ⟨b, _, hi⟩ := List.mem_flatMap.mp hi
    exact has_increments h hall b i hi
  have htotal : Increment.total (.kept 0 path) (bs.flatMap s.increments)
      = Int64.ofNat (s.hitsAll (.kept 0 path) bs) :=
    Increment.total_flatMap fun b _ => s.total_increments (.kept 0 path) b
  refine ⟨0, path, _, rfl, ?_, rfl, Int64.toInt_ofNat_of_lt⟩
  rw [Ledger.value?_addAll hhas, value?_ledger hk, htotal, Option.map_some, Int64.zero_add]

/-! ## Section 3: Conditions that are leaves -/

/-- A condition that is a leaf is asked itself, and nobody else. -/
theorem Config.check_leaf {pool : Pool} {r : Registry} {c : Config} {cond : Condition}
    (h : (c.build pool r).result = .ok cond) {kind : Kind} (hkind : kind ∈ Kind.leaves)
    (hc : c.kind = kind.name) (p : Part) :
    cond.check ⟨p⟩ = .ofLeaf (.ofKind r kind.name) (cond.holds ⟨p⟩) := by
  have hanswer : ∃ verdict, cond.check ⟨p⟩ = .ofLeaf (.ofKind r kind.name) verdict := by
    rw [build_answer (pool.gives_answer p) c (built h)]
    obtain ⟨name, static, text, metadata, all, any, child, resource⟩ := c
    cases hc
    simp only [Kind.leaves, List.mem_cons, List.not_mem_nil, or_false] at hkind
    rcases hkind with rfl | rfl | rfl
    · exact ⟨static, rfl⟩
    · exact ⟨text.eval p, rfl⟩
    · exact ⟨metadata.eval p, rfl⟩
  obtain ⟨verdict, hverdict⟩ := hanswer
  rw [Condition.holds, hverdict]
  rfl

/-- A config of a leaf has that leaf. -/
theorem Config.leaf_mem {r : Registry} {c : Config} {kind : Kind} (hkind : kind ∈ Kind.leaves)
    (hc : c.kind = kind.name) : .ofKind r kind.name ∈ c.tallies r := by
  have hleaf : c.kind ∈ Kind.leafNames := Kind.mem_leafNames.mpr ⟨kind, hkind, hc.symm⟩
  exact mem_tallies_iff.mpr ⟨[], c, rfl, hleaf, by rw [hc]; rfl⟩

/-! ## Section 4: Runs that end well -/

/-- A run with totals has not failed. -/
theorem Run.result_ok {r : Run} {summary : Summary} (h : r.result = .ok summary) :
    r.failure = none := by
  unfold result at h
  split at h
  · cases h
  · assumption

/-- **What a run that ends well has counted and written** is told by the lines
    of its source. -/
theorem Run.complete_ok (f : Batch → Outcome) {workers max : Nat} {source : Source}
    {sink : Sink} {summary : Summary}
    (h : (complete (fun b => some (f b)) workers max source sink).result = .ok summary) :
    summary = Summary.ofLines f max (linesOf source.bytes) ∧
      (complete (fun b => some (f b)) workers max source sink).sink.bytes
        = sink.bytes ++ writtenFor f max (linesOf source.bytes) := by
  obtain ⟨hsource, _⟩ := complete_handled f workers max source sink (result_ok h)
  obtain ⟨pieces, failure⟩ := source
  obtain rfl := hsource
  let p : Processor := fun b => some (f b)
  show summary = Summary.ofLines f max (linesOf pieces.flatten) ∧
    (complete p workers max ⟨pieces, none⟩ sink).sink.bytes
      = sink.bytes ++ writtenFor f max (linesOf pieces.flatten)
  obtain ⟨hresult, hbytes⟩ := complete_verdict p max sink workers pieces
  have hverdict := hresult.symm.trans h
  -- No line breaks a processor that never breaks down.
  have hall : p.unbroken max (linesOf pieces.flatten) = linesOf pieces.flatten := by
    rcases p.unbroken_cases max (linesOf pieces.flatten) with hall | ⟨l, _, _, hbreaks⟩
    · exact hall
    · unfold Line.breaks at hbreaks
      cases hb : (l.intake max).batch? <;> rw [hb] at hbreaks <;> cases hbreaks
  cases hover : sink.overflows (writtenFor p.outcome max
      (p.unbroken max (linesOf pieces.flatten))) with
  | true =>
    rw [verdict_overflows _ _ _ _ hover] at hverdict
    cases hverdict
  | false =>
    rw [verdict_whole _ _ _ _ hover hall] at hverdict
    rw [hbytes, written, Sink.share_fits (Sink.fits_of_overflows hover), hall]
    cases hflush : sink.flushFailure with
    | some reason =>
      rw [hflush] at hverdict
      cases hverdict
    | none =>
      rw [hflush] at hverdict
      exact ⟨(Except.ok.inj hverdict).symm, rfl⟩

/-- **The totals of lines** are what their batches add to counters of the stage,
    and its errors are lines. -/
theorem Stage.Separate.totals {s : Stage} (h : s.Separate) (max : Nat) (ls : List Line) :
    Summary.ofLines s.process max ls =
      { batchesIn := s.hitsAll (.kept 0 "processor.filter_parts.count") (batchesOf max ls)
        batchesOut := s.hitsAll (.kept 0 "processor.filter_parts.sent") (batchesOf max ls)
        acked := s.hitsAll (.kept 0 "processor.filter_parts.dropped") (batchesOf max ls)
        errors := ls.countP fun l => (l.intake max).isError } := by
  have hnone : (batchesOf max ls).countP (fun b => (s.process b).isError) = 0 := by
    rw [List.countP_eq_zero]
    intro b _
    rw [s.isError_process b]
    exact Bool.false_ne_true
  rw [h.all_count, h.all_sent, h.all_dropped]
  unfold Summary.ofLines
  rw [hnone, Nat.add_zero]
  simp only [s.batches_process]

/-! ## Section 5: All counts of a run -/

namespace CountingCrew

section
variable {cfg : Settings} {s : Stage} (hbuild : (cfg.build (.table 0)).result = .ok s)
  {workers max : Nat} {source : Source} {sink : Sink} {c : CountingCrew}
  (hreach : Reachable s workers max source sink cfg.ledger c)
  (hover : c.crew.activity = .closed) (hgoing : c.crew.base.failure = none)
include hbuild hreach hover hgoing

/-- At the end every counter stands at what the batches on all lines add. -/
theorem closed_stands {k : Counter} (hk : k ∈ (cfg.build (.table 0)).registered) :
    c.ledger.StandsAt k (s.hitsAll k (batchesOf max (linesOf source.bytes))) := by
  rw [closed_ledger hreach hover hgoing]
  exact Settings.stands_increments hbuild _ hk

theorem closed_stage {path : String} (hpath : path ∈ StageTally.paths) :
    c.ledger.StandsAt (.kept 0 path)
      (s.hitsAll (.kept 0 path) (batchesOf max (linesOf source.bytes))) := by
  obtain ⟨htally, _, hregistered⟩ := Settings.built hbuild
  apply closed_stands hbuild hreach hover hgoing
  rw [hregistered, htally]
  exact Or.inl (List.mem_map_of_mem (f := Counter.kept 0) hpath)

theorem closed_leaf {t : Tally} (ht : cfg.HasLeaf (.table 0) t) :
    c.ledger.StandsAt t.count (s.hitsAll t.count (batchesOf max (linesOf source.bytes))) ∧
      c.ledger.StandsAt t.hit (s.hitsAll t.hit (batchesOf max (linesOf source.bytes))) ∧
      c.ledger.StandsAt t.miss (s.hitsAll t.miss (batchesOf max (linesOf source.bytes))) := by
  obtain ⟨_, _, hregistered⟩ := Settings.built hbuild
  have hcounters : ∀ k ∈ t.counters,
      c.ledger.StandsAt k (s.hitsAll k (batchesOf max (linesOf source.bytes))) := by
    intro k hk
    have hmem : k ∈ (cfg.build (.table 0)).registered :=
      (hregistered k).mpr (Or.inr ⟨t, ht, hk⟩)
    exact closed_stands hbuild hreach hover hgoing hmem
  simpa [Tally.counters] using hcounters

end

/-- The counts of a run that has ended with totals.  It has written certain
    batches and dropped so many parts. -/
structure AddsUp (cfg : Settings) (s : Stage) (max : Nat) (source : Source) (sink : Sink)
    (summary : Summary) (c : CountingCrew) (written : List Batch) (lost : Nat) : Prop where
  /-- Every line that was written carries one of the batches, -/
  output : c.crew.base.sink.bytes = sink.bytes ++ encodedLines written
  /-- and is read as that batch. -/
  reads : ∀ b ∈ written, (Utf8.ofString b.encode).length ≤ Limits.lineBytes →
    Batch.ofLine (Utf8.ofString b.encode) = .ok b
  /-- The stage has counted the batches that came in, -/
  count : c.ledger.StandsAt (.kept 0 "processor.filter_parts.count") summary.batchesIn
  /-- has sent those that went out, -/
  sent : c.ledger.StandsAt (.kept 0 "processor.filter_parts.sent") summary.batchesOut
  /-- and has dropped those that were acknowledged, -/
  dropped : c.ledger.StandsAt (.kept 0 "processor.filter_parts.dropped") summary.acked
  /-- which are all. -/
  batches : summary.batchesIn = summary.batchesOut + summary.acked
  /-- It has sent the parts that are on the lines it has written, -/
  partsSent : c.ledger.StandsAt (.kept 0 "processor.filter_parts.parts.sent")
    (written.map Batch.size).sum
  /-- and has dropped others, -/
  partsDropped : c.ledger.StandsAt (.kept 0 "processor.filter_parts.part.dropped") lost
  /-- which are all the parts on the lines it has read. -/
  parts : (written.map Batch.size).sum + lost
    = ((batchesOf max (linesOf source.bytes)).map Batch.size).sum
  /-- Errors are lines past the limit, and others that are no batch. -/
  errors : summary.errors = (linesOf source.bytes).countP fun l => (l.intake max).isError
  /-- Who counts is the stage or a leaf. -/
  registered : ∀ k ∈ (cfg.build (.table 0)).registered,
    k ∈ s.tally.counters ∨ ∃ t, cfg.HasLeaf (.table 0) t ∧ k ∈ t.counters
  /-- Every leaf has answered yes or no as often as it was asked. -/
  leaves : ∀ t, cfg.HasLeaf (.table 0) t →
    let hits := s.hitsAll t.hit (batchesOf max (linesOf source.bytes))
    let misses := s.hitsAll t.miss (batchesOf max (linesOf source.bytes))
    c.ledger.StandsAt t.count (hits + misses) ∧ c.ledger.StandsAt t.hit hits ∧
      c.ledger.StandsAt t.miss misses
  /-- If the stage's condition is a leaf, it has said yes to the parts that were
      sent and no to those that were dropped. -/
  decisive : ∀ kind ∈ Kind.leaves, cfg.processor.condition.kind = kind.name →
    let t := Tally.ofKind (.within Stage.ns (.table 0)) kind.name
    c.ledger.StandsAt t.hit (written.map Batch.size).sum ∧ c.ledger.StandsAt t.miss lost

/-- **All counts of a run agree.**  For all settings that can be built, over
    every source, into every sink, for every line limit and every number of
    workers, and for every order in which workers add their increments: the
    totals of a run that has ended well, the counters of its stage, those of
    all leaves and what was written add up. -/
theorem closed_balances {cfg : Settings} {s : Stage}
    (hbuild : (cfg.build (.table 0)).result = .ok s) {workers max : Nat} {source : Source}
    {sink : Sink} {c : CountingCrew} (hreach : Reachable s workers max source sink cfg.ledger c)
    (hover : c.crew.activity = .closed) {summary : Summary}
    (hok : c.crew.base.result = .ok summary) :
    ∃ written lost, AddsUp cfg s max source sink summary c written lost := by
  have hgoing := Run.result_ok hok
  have halike := Crew.reachable_closed_going (reachable_crew hreach) hover hgoing
  obtain ⟨hsummary, hbytes⟩ := Run.complete_ok s.process (halike.result.symm.trans hok)
  obtain ⟨_, ⟨pool, ts, _, _, hcond⟩, hregistered⟩ := Settings.built hbuild
  have hseparate := Settings.separate hbuild
  let bs := batchesOf max (linesOf source.bytes)
  have hstage : ∀ path ∈ StageTally.paths,
      c.ledger.StandsAt (.kept 0 path) (s.hitsAll (.kept 0 path) bs) :=
    fun _ hpath => closed_stage hbuild hreach hover hgoing hpath
  have hparts : s.hitsAll (.kept 0 "processor.filter_parts.parts.sent") bs
      = ((s.sifted max (linesOf source.bytes)).map Batch.size).sum := hseparate.all_partsSent bs
  rw [hseparate.totals] at hsummary
  refine ⟨s.sifted max (linesOf source.bytes),
    s.hitsAll (.kept 0 "processor.filter_parts.part.dropped") bs, ?_⟩
  constructor
  case output =>
    rw [halike.sink, ← s.writtenFor_process max]
    exact hbytes
  case reads =>
    intro b hb hfits
    rw [Batch.ofLine_encode b hfits, Batch.lossy_text (Stage.sifted_text hb)]
  case count =>
    rw [hsummary]
    exact hstage _ (by decide)
  case sent =>
    rw [hsummary]
    exact hstage _ (by decide)
  case dropped =>
    rw [hsummary]
    exact hstage _ (by decide)
  case batches =>
    rw [hsummary]
    exact Stage.hitsAll_add hseparate.batch_balance bs
  case partsSent =>
    rw [← hparts]
    exact hstage _ (by decide)
  case partsDropped => exact hstage _ (by decide)
  case parts =>
    rw [← hparts]
    exact (Stage.hitsAll_add hseparate.part_balance bs).symm
  case errors => rw [hsummary]
  case registered =>
    intro k hk
    exact (hregistered k).mp hk
  case leaves =>
    intro t ht hits misses
    obtain ⟨hcount, hhit, hmiss⟩ := closed_leaf hbuild hreach hover hgoing ht
    have hasked : s.hitsAll t.count bs = s.hitsAll t.hit bs + s.hitsAll t.miss bs :=
      Stage.hitsAll_add (hseparate.leaf_balance (ht.behind rfl)) bs
    rw [hasked] at hcount
    exact ⟨hcount, hhit, hmiss⟩
  case decisive =>
    intro kind hkind hname t
    have ht : cfg.HasLeaf (.table 0) t := Or.inl (Config.leaf_mem hkind hname)
    obtain ⟨_, hhit, hmiss⟩ := closed_leaf hbuild hreach hover hgoing ht
    have hdecides := hseparate.hits_decisive (ht.behind rfl) (Config.check_leaf hcond hkind hname)
    rw [Stage.hitsAll_eq (fun b => (hdecides b).1), ← Stage.hitsAll_eq hseparate.hits_partsSent,
      hparts] at hhit
    rw [Stage.hitsAll_eq (fun b => (hdecides b).2),
      ← Stage.hitsAll_eq hseparate.hits_partDropped] at hmiss
    exact ⟨hhit, hmiss⟩

/-- Two lines: a batch of two parts, and one of a part that has no `a`. -/
def twoLines : Bytes × Bytes :=
  (Utf8.ofString "[\x7b\"content\":\"ab\"\x7d,\x7b\"content\":\"b\"\x7d]",
    Utf8.ofString "[\x7b\"content\":\"c\"\x7d]")

/-- Two workers with a line each, of which the second is the first to count. -/
theorem closed_balances_overtaken :
    let cfg : Settings :=
      { processor := { condition :=
        { kind := "text", text := { operator := "contains", arg := "a" } } } }
    let source : Source := ⟨[twoLines.1 ++ [lineFeed] ++ twoLines.2], none⟩
    ∃ s c, (cfg.build (.table 0)).result = .ok s ∧
      Reachable s 2 100 source {} cfg.ledger c ∧ c.crew.activity = .closed ∧
      c.crew.base.result = .ok { batchesIn := 2, batchesOut := 1, acked := 1 } ∧
      c.ledger.value? 0 "processor.filter_parts.count" = some 2 ∧
      c.ledger.value? 0 "processor.filter_parts.sent" = some 1 ∧
      c.ledger.value? 0 "processor.filter_parts.dropped" = some 1 := by
  intro cfg source
  let s : Stage :=
    ⟨.leaf (.text ⟨.contains, false⟩ 0 (Utf8.ofString "a"))
      (.ofKind (.within Stage.ns (.table 0)) "text"), .ofRegistry (.table 0)⟩
  have hbuild : (cfg.build (.table 0)).result = .ok s := rfl
  -- Both lines are handed out before anybody counts.
  have hread₁ : Reachable s 2 100 source {} cfg.ledger _ :=
    .step .start (.loop (.readLine rfl rfl rfl) rfl)
  have hout₁ := Reachable.step hread₁ (.handOut rfl (by decide))
  have hread₂ := Reachable.step hout₁ (.loop (.readLine rfl rfl rfl) rfl)
  have hout₂ : Reachable s 2 100 source {} cfg.ledger
      ⟨⟨⟨[], none⟩, { lines := 2, sink := {} }, [⟨1, twoLines.1, none⟩, ⟨2, twoLines.2, none⟩],
        .reading⟩, [s.lineIncrements twoLines.1, s.lineIncrements twoLines.2], cfg.ledger⟩ :=
    .step hread₂ (.handOut rfl (by decide))
  have hcount₂ := reachable_counts hout₂ (n := 1) rfl
  have hcount₁ := reachable_counts hcount₂ (n := 0) rfl
  have hfinish₂ := Reachable.step hcount₁ (.finish (show _ = [_] ++ _ :: _ from rfl) rfl rfl)
  have hfinish₁ := Reachable.step hfinish₂ (.finish (show _ = [] ++ _ :: _ from rfl) rfl rfl)
  have hended := Reachable.step hfinish₁ (.loop (.sourceEnded rfl rfl) rfl)
  have hsettle₁ := Reachable.step hended (.settle (.inl rfl) rfl rfl)
  have hsettle₂ := Reachable.step hsettle₁ (.settle (.inl rfl) rfl rfl)
  have hflush := Reachable.step hsettle₂ (.loop (.flush rfl rfl) rfl)
  refine ⟨s, _, hbuild, hflush, rfl, rfl, ?_⟩
  obtain ⟨_, _, hup⟩ := closed_balances hbuild hflush rfl
    (show Run.result _ = .ok { batchesIn := 2, batchesOut := 1, acked := 1 } from rfl)
  exact ⟨hup.count.value, hup.sent.value, hup.dropped.value⟩

end CountingCrew

end BatchFilter
