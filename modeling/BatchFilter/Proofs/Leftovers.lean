import BatchFilter.Proofs.Acceptance
import BatchFilter.Proofs.Construction
import BatchFilter.Proofs.Sessions
import BatchFilter.Proofs.Tallies

/-! # What Failed Attempts Leave Behind

    Building registers counters as it goes, and it may fail at any config that
    it comes to.  What it leaves behind then are the counters of the leaves in
    front of that config, from left to right, and of all named conditions that
    were built before: new ones at zero, while those that were there keep their
    sums.  Nothing else comes of it.

    * `Config.StopsAt`, `Config.build_stops`: where building a config stops.
    * `Declarations.addAll_stops`: where building declarations stops.
    * `Attempt.LeavesBehind`: what is left behind in ledgers.
    * `failures_leave_leaves`: what any failure leaves behind. -/

namespace BatchFilter

/-! ## Section 1: Where building stops -/

namespace Attempt

variable {α β : Type}

/-- One of two steps fails: the first, and then it is the last, or the second. -/
theorem bind_error {x : Attempt α} {f : α → Attempt β} {e : Error}
    (h : (x.bind f).result = .error e) :
    (x.result = .error e ∧ (x.bind f).registered = x.registered) ∨
      ∃ a, x.result = .ok a ∧ (f a).result = .error e := by
  unfold Attempt.bind at h ⊢
  cases hx : x.result with
  | ok a =>
    rw [hx] at h
    exact Or.inr ⟨a, rfl, h⟩
  | error e' =>
    rw [hx] at h
    cases h
    exact Or.inl ⟨rfl, rfl⟩

theorem mapError_error {x : Attempt α} {f : Error → Error} {e : Error}
    (h : (x.mapError f).result = .error e) : ∃ source, x.result = .error source ∧ e = f source := by
  unfold mapError at h
  cases hx : x.result with
  | ok a =>
    rw [hx] at h
    cases h
  | error source =>
    rw [hx] at h
    cases h
    exact ⟨source, rfl, rfl⟩

end Attempt

namespace Config

variable {known : String → Bool} {c : Config} {before : List Site} {e : Error}

/-- Where building a config stops and with which error: if the config nests too
    deep nothing else is looked at, and otherwise it comes to the first site that
    breaks the rule of its type, after those before. -/
def StopsAt (known : String → Bool) (c : Config) (before : List Site) (e : Error) : Prop :=
  if c.depth ≤ Limits.conditionDepth then
    ∃ s after, c.sites = before ++ s :: after ∧ (∀ s' ∈ before, s'.config.Obeys known) ∧
      ¬s.config.Obeys known ∧ s.config.ownFault? known = some e
  else before = [] ∧ e = .invalidConfig (.tooDeep c.depth Limits.conditionDepth)

/-- Names that the config does not refer to do not matter. -/
theorem StopsAt.congr {known' : String → Bool} (hstops : c.StopsAt known before e)
    (h : ∀ name ∈ c.names, known name = known' name) : c.StopsAt known' before e := by
  have hsame : ∀ s ∈ c.sites, s.config.ownFault? known = s.config.ownFault? known' := by
    intro s hs
    have hnode : s.config ∈ c.nodes := c.sites_nodes ▸ List.mem_map_of_mem hs
    apply ownFault?_congr
    intro name hname
    exact h name (List.mem_filterMap.mpr ⟨s.config, hnode, hname⟩)
  unfold StopsAt at hstops ⊢
  split at hstops
  · rename_i hdepth
    obtain ⟨s, after, hsites, hbefore, hnot, hfault⟩ := hstops
    simp only [hsites, List.mem_append, List.mem_cons] at hsame
    rw [if_pos hdepth]
    refine ⟨s, after, hsites, ?_, ?_, ?_⟩
    · intro s' hs'
      rw [← ownFault?_eq_none, ← hsame s' (Or.inl hs'), ownFault?_eq_none]
      exact hbefore s' hs'
    · rw [← ownFault?_eq_none, ← hsame s (Or.inr (Or.inl rfl)), ownFault?_eq_none]
      exact hnot
    · rw [← hsame s (Or.inr (Or.inl rfl)), hfault]
  · rename_i hdeep
    rw [if_neg hdeep]
    exact hstops

/-- **Building a config stops at its first violation**, with the counters of the
    leaves in front of it registered. -/
theorem build_stops {pool : Pool} {r : Registry} (h : (c.build pool r).result = .error e) :
    ∃ before, c.StopsAt pool.knows before e ∧
      (c.build pool r).registered = countersOf (before.filterMap (Site.tally? r)) := by
  have hfault : c.fault? pool.knows = some e := by
    rw [← build_error? pool r c, Attempt.error?, h]
    rfl
  unfold fault? at hfault
  unfold StopsAt build
  by_cases hdepth : c.depth ≤ Limits.conditionDepth
  · rw [if_pos hdepth, ← sites_nodes, List.findSome?_map, List.findSome?_eq_some_iff] at hfault
    obtain ⟨before, s, after, hsites, hs, hbefore⟩ := hfault
    refine ⟨before, ?_, ?_⟩
    · rw [if_pos hdepth]
      refine ⟨s, after, hsites, ?_, ?_, hs⟩
      · intro s' hs'
        exact ownFault?_eq_none.mp (hbefore s' hs')
      · intro hobeys
        rw [Function.comp_apply, ownFault?_eq_none.mpr hobeys] at hs
        cases hs
    · -- The sites before are just those that are passed.
      have hpassed : c.sites.takeWhile (Site.isClear pool.knows) = before := by
        have hclear : ∀ s' ∈ before, Site.isClear pool.knows s' = true := by
          intro s' hs'
          rw [Site.isClear, show s'.config.ownFault? pool.knows = none from hbefore s' hs']
          rfl
        have hnot : ¬Site.isClear pool.knows s = true := by
          rw [Site.isClear, show s.config.ownFault? pool.knows = some e from hs]
          exact Bool.false_ne_true
        rw [hsites, List.takeWhile_append_of_pos hclear, List.takeWhile_cons_of_neg hnot,
          List.append_nil]
      rw [if_neg (Nat.not_lt_of_le hdepth), registered_passed, Site.passed, hpassed]
  · rw [if_neg hdepth, Option.some.injEq] at hfault
    refine ⟨[], ?_, ?_⟩
    · rw [if_neg hdepth]
      exact ⟨rfl, hfault.symm⟩
    · rw [if_pos (Nat.lt_of_not_le hdepth)]
      rfl

end Config

/-- Adding a condition fails if it cannot be built. -/
theorem Pool.add_stops {pool : Pool} {r : Registry} {name : String} {c : Config} {e : Error}
    (h : (pool.add r name c).result = .error e) :
    ∃ before, c.StopsAt pool.knows before e ∧
      (pool.add r name c).registered
        = countersOf (before.filterMap (Site.tally? (r.named name))) := by
  unfold add at h ⊢
  rw [Attempt.registered_bind_pure]
  rcases Attempt.bind_error h with ⟨hbuild, _⟩ | ⟨_, _, hpure⟩
  · exact Config.build_stops hbuild
  · cases hpure

namespace Declarations

variable {d : Declarations} {r : Registry}

theorem addNamed_stops {pool : Pool} {name : String} {e : Error}
    (h : (d.addNamed r pool name).result = .error e) :
    ∃ c source before, d.conditions.find? name = some c ∧
      e = .resourceConstruction name source ∧ c.StopsAt pool.knows before source ∧
      (d.addNamed r pool name).registered
        = countersOf (before.filterMap (Site.tally? (r.named name))) := by
  unfold addNamed at h ⊢
  cases hc : d.conditions.find? name with
  | none =>
    simp only [hc] at h
    cases h
  | some c =>
    simp only [hc] at h ⊢
    obtain ⟨source, hadd, rfl⟩ := Attempt.mapError_error h
    obtain ⟨before, hstops, hregistered⟩ := Pool.add_stops hadd
    rw [Attempt.registered_mapError]
    exact ⟨c, source, before, rfl, rfl, hstops, hregistered⟩

/-- **Building names one after another stops at one of them**, with the counters
    of all leaves of those before it registered, and then as many of its own as
    come in front of its first violation. -/
theorem addAll_stops {names : List String} {pool : Pool} {e : Error}
    (h : (d.addAll r pool names).result = .error e) :
    ∃ front name back pool' c source before, names = front ++ name :: back ∧
      (d.addAll r pool front).result = .ok pool' ∧ d.conditions.find? name = some c ∧
      e = .resourceConstruction name source ∧ c.StopsAt pool'.knows before source ∧
      (d.addAll r pool names).registered
        = countersOf (front.flatMap (d.talliesOf r)
          ++ before.filterMap (Site.tally? (r.named name))) := by
  induction names generalizing pool with
  | nil => cases h
  | cons name names ih =>
    unfold addAll at h
    rcases Attempt.bind_error h with ⟨hadd, hregistered⟩ | ⟨pool₁, hpool₁, hrest⟩
    · obtain ⟨c, source, before, hc, he, hstops, hown⟩ := addNamed_stops hadd
      refine ⟨[], name, names, pool, c, source, before, rfl, rfl, hc, he, hstops, ?_⟩
      rw [addAll, hregistered, hown]
      rfl
    · obtain ⟨front, name', back, pool', c, source, before, rfl, hfront, hc, he, hstops, hown⟩ :=
        ih hrest
      refine ⟨name :: front, name', back, pool', c, source, before, rfl, ?_, hc, he, hstops, ?_⟩
      · rw [addAll]
        unfold Attempt.bind
        rw [hpool₁]
        exact hfront
      · rw [addAll, Attempt.registered_bind hpool₁, registered_addNamed hpool₁, hown,
          ← countersOf_append, List.flatMap_cons, List.append_assoc]

/-- Building declarations fails for their order, before anything is registered, or
    stops at a name, in front of which all that it refers to was built. -/
theorem build_stops {e : Error} (h : (d.build r).result = .error e) :
    (d.order = .error e ∧ (d.build r).registered = []) ∨
    ∃ front name back c source before, d.order = .ok (front ++ name :: back) ∧
      d.conditions.find? name = some c ∧ e = .resourceConstruction name source ∧
      c.StopsAt d.declares before source ∧
      (d.build r).registered
        = countersOf (front.flatMap (d.talliesOf r)
          ++ before.filterMap (Site.tally? (r.named name))) := by
  unfold build at h ⊢
  rcases Attempt.bind_error h with ⟨horder, hregistered⟩ | ⟨names, hnames, hadd⟩
  · exact Or.inl ⟨horder, hregistered⟩
  · have horder : d.order = .ok names := hnames
    obtain ⟨front, name, back, pool, c, source, before, rfl, hfront, hc, he, hstops, hregistered⟩ :=
      addAll_stops hadd
    -- The names in front are in the pool, and all that the name refers to is among them.
    have hsettled : d.Settled (name :: front.reverse) := by
      rcases d.order_spec with ⟨names', horder', hall, _⟩ | ⟨_, horder', _⟩
      · rw [horder] at horder'
        obtain rfl := Except.ok.inj horder'
        rw [List.reverse_append, List.reverse_cons, List.append_assoc] at hall
        exact settled_append hall
      · rw [horder] at horder'
        cases horder'
    have hpool : d.Holds pool (front.reverse ++ []) := by
      have hback : d.Settled (front.reverse ++ []) := by
        rw [List.append_nil]
        exact hsettled.2
      rcases addAll_spec (r := r) d.holds_empty hback with ⟨pool', hresult, hpool', _⟩ |
        ⟨_, _, _, hresult, _⟩
      · obtain rfl : pool' = pool := Except.ok.inj (hresult.symm.trans hfront)
        exact hpool'
      · rw [hfront] at hresult
        cases hresult
    rw [List.append_nil] at hpool
    refine Or.inr ⟨front, name, back, c, source, before, horder, hc, he, ?_, ?_⟩
    · exact hstops.congr (knows_holds hpool hsettled.1 hc)
    · rw [Attempt.registered_bind hnames, hregistered]
      rfl

end Declarations

/-- A stage cannot be built if its condition cannot. -/
theorem Stage.build_stops {pool : Pool} {r : Registry} {c : Config} {e : Error}
    (h : (build pool r c).result = .error e) :
    ∃ source before, e = .conditionConstruction c.kind source ∧
      c.StopsAt pool.knows before source ∧
      (build pool r c).registered = countersOf (before.filterMap (Site.tally? (.within ns r))) := by
  unfold build at h ⊢
  rcases Attempt.bind_error h with ⟨hcond, hregistered⟩ | ⟨_, _, hrest⟩
  · obtain ⟨source, hbuild, he⟩ := Attempt.mapError_error hcond
    obtain ⟨before, hstops, hown⟩ := Config.build_stops hbuild
    rw [hregistered, Attempt.registered_mapError, hown]
    exact ⟨source, before, he, hstops, rfl⟩
  · cases hrest

/-- Settings fail with their declarations, or once all of these were built. -/
theorem Settings.build_stops {cfg : Settings} {r : Registry} {e : Error}
    (h : (cfg.build r).result = .error e) :
    ((cfg.resources.build r).result = .error e ∧
      (cfg.build r).registered = (cfg.resources.build r).registered) ∨
    ∃ pool names, (cfg.resources.build r).result = .ok pool ∧ cfg.resources.order = .ok names ∧
      ((cfg.processor.kind ≠ Stage.typeName ∧ e = .unknownProcessorType cfg.processor.kind ∧
        (cfg.build r).registered = countersOf (names.flatMap (cfg.resources.talliesOf r))) ∨
      ∃ source before, cfg.processor.kind = Stage.typeName ∧
        e = .conditionConstruction cfg.processor.condition.kind source ∧
        cfg.processor.condition.StopsAt pool.knows before source ∧
        (cfg.build r).registered
          = countersOf (names.flatMap (cfg.resources.talliesOf r)
            ++ before.filterMap (Site.tally? (.within Stage.ns r)))) := by
  unfold build at h ⊢
  rcases Attempt.bind_error h with hresources | ⟨pool, hpool, hstage⟩
  · exact Or.inl hresources
  · obtain ⟨names, hnames, _, hdeclared⟩ := Declarations.registered_order hpool
    refine Or.inr ⟨pool, names, hpool, hnames, ?_⟩
    rw [Attempt.registered_bind hpool, hdeclared]
    unfold StageConfig.build at hstage ⊢
    by_cases hkind : cfg.processor.kind = Stage.typeName
    · rw [if_pos hkind] at hstage ⊢
      obtain ⟨source, before, he, hstops, hown⟩ := Stage.build_stops hstage
      rw [hown, ← countersOf_append]
      exact Or.inr ⟨source, before, hkind, he, hstops, rfl⟩
    · rw [if_neg hkind] at hstage ⊢
      cases hstage
      exact Or.inl ⟨hkind, rfl, List.append_nil _⟩

/-! ## Section 2: What is left in ledgers -/

/-- All that an attempt leaves behind in a ledger are the counters of certain
    leaves. -/
structure Attempt.LeavesBehind {α : Type} (x : Attempt α) (ts : List Tally) : Prop where
  leaves : ∀ t ∈ ts, t.IsLeaf
  /-- Just the counters of these leaves were asked for. -/
  asked : x.registered = countersOf ts
  /-- What was counted before stays. -/
  keeps : ∀ (l : Ledger) id path v, l.value? id path = some v →
    (l.registerAll x.registered).value? id path = some v
  /-- What is new is at zero and belongs to one of the leaves, and to no stage. -/
  makes : ∀ (l : Ledger) id path v, l.value? id path = none →
    (l.registerAll x.registered).value? id path = some v →
      v = 0 ∧ (∃ t ∈ ts, .kept id path ∈ t.counters) ∧
        ∀ r, .kept id path ∉ (StageTally.ofRegistry r).counters

/-- A sum is there only if there is a table for it. -/
theorem Ledger.isSome_of_value? {l : Ledger} {id : Nat} {path : String} {v : Int64}
    (h : l.value? id path = some v) : (l.table? id).isSome := by
  unfold value? at h
  obtain ⟨t, ht, _⟩ := Option.bind_eq_some_iff.mp h
  rw [ht]
  rfl

/-- **Registering the counters of leaves** is all that it takes. -/
theorem Attempt.leavesBehind {α : Type} {x : Attempt α} {ts : List Tally}
    (hasked : x.registered = countersOf ts) (hleaves : ∀ t ∈ ts, t.IsLeaf) :
    x.LeavesBehind ts := by
  refine ⟨hleaves, hasked, ?_, ?_⟩
  · intro l id path v hv
    rw [Ledger.value?_registerAll (Ledger.isSome_of_value? hv), hv]
    rfl
  · intro l id path v hnone hv
    have htable : (l.table? id).isSome := by
      rw [← Ledger.table?_registerAll l x.registered id]
      exact Ledger.isSome_of_value? hv
    rw [Ledger.value?_registerAll htable, hnone, Option.none_or] at hv
    split at hv
    · rename_i hmem
      rw [hasked] at hmem
      obtain ⟨t, ht, hk⟩ := List.mem_flatMap.mp hmem
      refine ⟨(Option.some.inj hv).symm, ⟨t, ht, hk⟩, ?_⟩
      intro r hstage
      cases (hleaves t ht).apart hk hstage
    · cases hv

theorem Site.isLeaf_of_mem {r : Registry} {sites : List Site} :
    ∀ t ∈ sites.filterMap (tally? r), t.IsLeaf := by
  intro t ht
  obtain ⟨s, _, hs⟩ := List.mem_filterMap.mp ht
  exact isLeaf_tally? hs

theorem Declarations.isLeaf_of_mem {d : Declarations} {r : Registry} {names : List String} :
    ∀ t ∈ names.flatMap (d.talliesOf r), t.IsLeaf := by
  intro t ht
  obtain ⟨name, _, ht⟩ := List.mem_flatMap.mp ht
  unfold talliesOf at ht
  split at ht
  · cases ht
  · exact Config.isLeaf_tallies ht

/-- **What failures leave behind.**  Whatever the registry leads to, whichever
    names there are, and whatever was counted: if a condition, a named
    condition, declarations, a stage or settings cannot be built, this leaves
    behind the counters of the leaves in front of the first violation, and
    of all leaves of the names that were built before, in the order of
    building; and nothing if there is no such order.

    A session in which a name could not be added goes on with the same names
    and conditions as before, also if the name was one of them. -/
theorem failures_leave_leaves (pool : Pool) (r : Registry) :
    (∀ (c : Config) e, (c.build pool r).result = .error e →
      ∃ before, c.StopsAt pool.knows before e ∧
        (c.build pool r).LeavesBehind (before.filterMap (Site.tally? r))) ∧
    (∀ name c e, (pool.add r name c).result = .error e →
      (∃ before, c.StopsAt pool.knows before e ∧
        (pool.add r name c).LeavesBehind (before.filterMap (Site.tally? (r.named name)))) ∧
      ∀ σ : Session, σ.pool = pool → σ.step (.add r name c)
        = ({ σ with ledger := σ.ledger.registerAll (pool.add r name c).registered }, .failed e)) ∧
    (∀ (d : Declarations) e, (d.build r).result = .error e →
      (d.order = .error e ∧ (d.build r).LeavesBehind []) ∨
      ∃ front name back c source before, d.order = .ok (front ++ name :: back) ∧
        d.conditions.find? name = some c ∧ e = .resourceConstruction name source ∧
        c.StopsAt d.declares before source ∧
        (d.build r).LeavesBehind (front.flatMap (d.talliesOf r)
          ++ before.filterMap (Site.tally? (r.named name)))) ∧
    (∀ c e, (Stage.build pool r c).result = .error e →
      ∃ source before, e = .conditionConstruction c.kind source ∧
        c.StopsAt pool.knows before source ∧
        (Stage.build pool r c).LeavesBehind
          (before.filterMap (Site.tally? (.within Stage.ns r)))) ∧
    ∀ (cfg : Settings) e, (cfg.build r).result = .error e →
      ((cfg.resources.build r).result = .error e ∧
        ∀ ts, (cfg.resources.build r).LeavesBehind ts → (cfg.build r).LeavesBehind ts) ∨
      ∃ built names, (cfg.resources.build r).result = .ok built ∧
        cfg.resources.order = .ok names ∧
        ((cfg.processor.kind ≠ Stage.typeName ∧ e = .unknownProcessorType cfg.processor.kind ∧
          (cfg.build r).LeavesBehind (names.flatMap (cfg.resources.talliesOf r))) ∨
        ∃ source before, cfg.processor.kind = Stage.typeName ∧
          e = .conditionConstruction cfg.processor.condition.kind source ∧
          cfg.processor.condition.StopsAt built.knows before source ∧
          (cfg.build r).LeavesBehind (names.flatMap (cfg.resources.talliesOf r)
            ++ before.filterMap (Site.tally? (.within Stage.ns r)))) := by
  have hboth : ∀ {ts ts' : List Tally}, (∀ t ∈ ts, t.IsLeaf) → (∀ t ∈ ts', t.IsLeaf) →
      ∀ t ∈ ts ++ ts', t.IsLeaf := by
    intro ts ts' h h' t ht
    rcases List.mem_append.mp ht with ht | ht
    · exact h t ht
    · exact h' t ht
  refine ⟨?_, ?_, ?_, ?_, ?_⟩
  · intro c e h
    obtain ⟨before, hstops, hregistered⟩ := Config.build_stops h
    exact ⟨before, hstops, Attempt.leavesBehind hregistered Site.isLeaf_of_mem⟩
  · intro name c e h
    obtain ⟨before, hstops, hregistered⟩ := Pool.add_stops h
    refine ⟨⟨before, hstops, Attempt.leavesBehind hregistered Site.isLeaf_of_mem⟩, ?_⟩
    rintro σ rfl
    exact σ.attempt_error h
  · intro d e h
    rcases Declarations.build_stops h with ⟨horder, hnothing⟩ |
      ⟨front, name, back, c, source, before, horder, hc, he, hstops, hregistered⟩
    · exact Or.inl ⟨horder, Attempt.leavesBehind hnothing nofun⟩
    · exact Or.inr ⟨front, name, back, c, source, before, horder, hc, he, hstops,
        Attempt.leavesBehind hregistered (hboth Declarations.isLeaf_of_mem Site.isLeaf_of_mem)⟩
  · intro c e h
    obtain ⟨source, before, he, hstops, hregistered⟩ := Stage.build_stops h
    exact ⟨source, before, he, hstops, Attempt.leavesBehind hregistered Site.isLeaf_of_mem⟩
  · intro cfg e h
    rcases Settings.build_stops h with ⟨hresources, hregistered⟩ |
      ⟨built, names, hbuilt, hnames, hunknown | hstage⟩
    · refine Or.inl ⟨hresources, ?_⟩
      intro ts hts
      exact Attempt.leavesBehind (hregistered.trans hts.asked) hts.leaves
    · obtain ⟨hkind, he, hregistered⟩ := hunknown
      exact Or.inr ⟨built, names, hbuilt, hnames, Or.inl ⟨hkind, he,
        Attempt.leavesBehind hregistered Declarations.isLeaf_of_mem⟩⟩
    · obtain ⟨source, before, hkind, he, hstops, hregistered⟩ := hstage
      exact Or.inr ⟨built, names, hbuilt, hnames, Or.inr ⟨source, before, hkind, he, hstops,
        Attempt.leavesBehind hregistered (hboth Declarations.isLeaf_of_mem Site.isLeaf_of_mem)⟩⟩

/-- A wide config in which the key of a metadata condition is missing, between
    other leaves. -/
def keyless : Config where
  kind := "and"
  all :=
    [{ kind := "static" }, { kind := "or", any := [{ kind := "text" }, { kind := "metadata" }] },
      { kind := "static" }]

/-- Two leaves are in front of the violation, and one comes behind it. -/
theorem failures_leave_leaves_keyless :
    (keyless.build .empty (.table 0)).result = .error (.invalidConfig .keyRequired) ∧
    ∃ ts, (keyless.build .empty (.table 0)).LeavesBehind ts ∧ countersOf ts
      = [.kept 0 "and.0.condition.static.count", .kept 0 "and.0.condition.static.true",
          .kept 0 "and.0.condition.static.false", .kept 0 "and.1.or.0.condition.text.count",
          .kept 0 "and.1.or.0.condition.text.true", .kept 0 "and.1.or.0.condition.text.false"] := by
  have hfails : (keyless.build .empty (.table 0)).result = .error (.invalidConfig .keyRequired) :=
    rfl
  obtain ⟨hbuild, _⟩ := failures_leave_leaves .empty (.table 0)
  obtain ⟨before, _, hleaves⟩ := hbuild keyless _ hfails
  refine ⟨hfails, _, hleaves, ?_⟩
  rw [← hleaves.asked]
  rfl

end BatchFilter
