import BatchFilter.Proofs.Leaves
import BatchFilter.Proofs.Sums

/-! # What Checks Count

    A check adds one to the counters of every leaf that is asked: to the one of
    all answers, and to the one of the answer that it gave.  Nothing else is
    added to, and since counters are sums it does not matter in which order
    checks, or even the increments of different checks, come.

    * `Checked.hits`: what a check adds to a counter.
    * `Ledger.value?_afterChecks`: what counters come to after checks.
    * `Pool.checks_count`: all of this for the conditions that can be built
      with a pool. -/

namespace BatchFilter

/-! ## Section 1: What a check adds -/

/-- What a visit adds to a counter. -/
def Visit.hits (k : Counter) (v : Visit) : Nat :=
  (if v.tally.count = k then 1 else 0)
    + if (if v.verdict then v.tally.hit else v.tally.miss) = k then 1 else 0

/-- What a check adds to a counter. -/
def Checked.hits (k : Counter) (a : Checked) : Nat :=
  (a.visits.map (Visit.hits k)).sum

theorem Tally.total_increments (k : Counter) (v : Visit) :
    Increment.total k (v.tally.increments v.verdict) = Int64.ofNat (v.hits k) := by
  show Increment.total k ([⟨v.tally.count, Int64.ofNat 1⟩]
    ++ [⟨if v.verdict then v.tally.hit else v.tally.miss, Int64.ofNat 1⟩]) = _
  rw [Increment.total_append, Increment.total_single, Increment.total_single, ← Int64.ofNat_add]
  rfl

theorem Checked.total_increments (k : Counter) (a : Checked) :
    Increment.total k a.increments = Int64.ofNat (a.hits k) :=
  Increment.total_flatMap fun v _ => Tally.total_increments k v

/-- A check adds to the counters of leaves that are asked. -/
theorem Checked.mem_increments {a : Checked} {i : Increment} (h : i ∈ a.increments) :
    ∃ v ∈ a.visits, i.counter ∈ v.tally.counters := by
  obtain ⟨v, hv, hi⟩ := List.mem_flatMap.mp h
  refine ⟨v, hv, ?_⟩
  obtain ⟨tally, verdict⟩ := v
  cases verdict with
  | true =>
    rcases List.mem_pair.mp hi with rfl | rfl
    · exact List.mem_cons_self
    · exact List.mem_cons_of_mem _ List.mem_cons_self
  | false =>
    rcases List.mem_pair.mp hi with rfl | rfl
    · exact List.mem_cons_self
    · exact List.mem_cons_of_mem _ (List.mem_cons_of_mem _ List.mem_cons_self)

/-! ## Section 2: What checks add -/

namespace Ledger

/-- What checks add to the counters, one check after another. -/
def incrementsOf (checks : List (Condition × SinglePart)) : List Increment :=
  checks.flatMap fun e => (e.1.check e.2).increments

theorem afterChecks_eq (l : Ledger) (checks : List (Condition × SinglePart)) :
    l.afterChecks checks = l.addAll (incrementsOf checks) := by
  induction checks generalizing l with
  | nil => rfl
  | cons e checks ih =>
    show (l.addAll (e.1.check e.2).increments).afterChecks checks = _
    rw [ih, ← addAll_append]
    rfl

theorem has_increments {l : Ledger} {a : Checked}
    (h : ∀ v ∈ a.visits, l.HasAll v.tally.counters) : ∀ i ∈ a.increments, l.Has i.counter := by
  intro i hi
  obtain ⟨v, hv, hk⟩ := Checked.mem_increments hi
  exact h v hv i.counter hk

/-- **What counters come to after checks**: what they were, and what every
    check has added. -/
theorem value?_afterChecks {l : Ledger} {checks : List (Condition × SinglePart)}
    (h : ∀ e ∈ checks, ∀ v ∈ (e.1.check e.2).visits, l.HasAll v.tally.counters) (id : Nat)
    (path : String) :
    (l.afterChecks checks).value? id path
      = (l.value? id path).map
        (· + Int64.ofNat (checks.map fun e => (e.1.check e.2).hits (.kept id path)).sum) := by
  have hhas : ∀ i ∈ incrementsOf checks, l.Has i.counter := by
    intro i hi
    obtain ⟨e, he, hi⟩ := List.mem_flatMap.mp hi
    exact has_increments (h e he) i hi
  have htotal : Increment.total (.kept id path) (incrementsOf checks)
      = Int64.ofNat (checks.map fun e => (e.1.check e.2).hits (.kept id path)).sum :=
    Increment.total_flatMap fun e _ => Checked.total_increments (.kept id path) (e.1.check e.2)
  rw [afterChecks_eq, value?_addAll hhas, htotal]

/-- Checks that ask no leaf of a counter leave it as it was. -/
theorem value?_afterChecks_ne {l : Ledger} {checks : List (Condition × SinglePart)} {id : Nat}
    {path : String}
    (h : ∀ e ∈ checks, ∀ v ∈ (e.1.check e.2).visits, .kept id path ∉ v.tally.counters) :
    (l.afterChecks checks).value? id path = l.value? id path := by
  rw [afterChecks_eq]
  apply value?_addAll_ne
  intro i hi heq
  obtain ⟨e, he, hi⟩ := List.mem_flatMap.mp hi
  obtain ⟨v, hv, hk⟩ := Checked.mem_increments hi
  exact h e he v hv (heq ▸ hk)

/-- The increments of checks may come in any order. -/
theorem addAll_increments {l : Ledger} {checks : List (Condition × SinglePart)}
    {is : List Increment} (h : is.Perm (incrementsOf checks)) :
    l.addAll is = l.afterChecks checks := by
  rw [afterChecks_eq]
  exact l.addAll_perm h

/-- Checks may come in any order. -/
theorem afterChecks_perm {l : Ledger} {checks checks' : List (Condition × SinglePart)}
    (h : checks.Perm checks') : l.afterChecks checks = l.afterChecks checks' := by
  rw [afterChecks_eq, afterChecks_eq]
  exact l.addAll_perm (h.flatMap_right _)

end Ledger

/-! ## Section 3: Conditions that were built -/

/-- Does a config test a part by an index that no part has? -/
def Config.MissesPart (c : Config) : Prop :=
  (c.kind = Kind.text.name ∧ namesPart c.text.part = false) ∨
    (c.kind = Kind.metadata.name ∧ namesPart c.metadata.part = false)

/-- A leaf that finds no part answers no. -/
theorem Config.answer_misses {c : Config} (h : c.MissesPart) (named : String → Checked) (p : Part)
    (r : Registry) : c.answer named p r = .ofLeaf (.ofKind r c.kind) false := by
  obtain ⟨kind, static, text, metadata, all, any, child, resource⟩ := c
  rcases h with ⟨hkind, hpart⟩ | ⟨hkind, hpart⟩
  · cases hkind
    have heval : text.eval p = false := by
      rw [TextSection.eval, hpart, Bool.false_and]
    show Checked.ofLeaf (.ofKind r "text") (text.eval p) = _
    rw [heval]
  · cases hkind
    have heval : metadata.eval p = false := by
      rw [MetadataSection.eval, hpart, Bool.false_and]
    show Checked.ofLeaf (.ofKind r "metadata") (metadata.eval p) = _
    rw [heval]

/-- What names answer once a condition was added. -/
theorem Pool.answer_add {pool pool' : Pool} {r : Registry} {name : String} {c : Config}
    (h : (pool.add r name c).result = .ok pool') (p : Part) (n : String) :
    pool'.answer p n
      = if n = name then c.answer (pool.answer p) p (r.named name) else pool.answer p n := by
  obtain ⟨cond, hcond, hpure⟩ := Attempt.bind_ok h
  obtain rfl := Attempt.pure_ok hpure
  by_cases hn : n = name
  · rw [if_pos hn, answer, find?_insert, if_pos hn]
    exact Config.build_answer (pool.gives_answer p) c (Config.built hcond)
  · rw [if_neg hn, answer, find?_insert, if_neg hn, answer]

/-- A condition that can be checked while a ledger counts: it was built with a
    pool, and its counters exist. -/
def Pool.Counted (pool : Pool) (l : Ledger) (cond : Condition) : Prop :=
  ∃ (c : Config) (r : Registry), (c.build pool r).result = .ok cond ∧
    l.HasAll (c.build pool r).registered

theorem Ledger.hasAll_counters {l : Ledger} {ts : List Tally} (h : l.HasAll (countersOf ts))
    {t : Tally} (ht : t ∈ ts) : l.HasAll t.counters :=
  fun k hk => h k (List.mem_flatMap.mpr ⟨t, ht, hk⟩)

/-- The counters of all leaves that are asked exist. -/
theorem Pool.Made.asked_counted {pool : Pool} {ts : List Tally} (hmade : pool.Made ts)
    {l : Ledger} (hpool : l.HasAll (countersOf ts)) {cond : Condition}
    (hcond : pool.Counted l cond) (s : SinglePart) :
    ∀ v ∈ (cond.check s).visits, l.HasAll v.tally.counters := by
  obtain ⟨c, r, hbuilt, hown⟩ := hcond
  rw [Config.registered_build hbuilt] at hown
  intro v hv
  rcases hmade.asked_built hbuilt hv with htally | htally
  · exact Ledger.hasAll_counters hown htally
  · exact Ledger.hasAll_counters hpool htally

/-! ## Section 4: All checks -/

/-- **What checks count**, for the conditions that can be built with a pool.

    Such a condition registers the counters of the leaves of its config.  For
    every part it gives the answer of its config and asks the leaves that its
    config asks: a combination its children in order up to the first that
    decides, a negation its child, a reference whomever its name asks, a leaf
    itself, which answers no if its index names no part.  A name asks whom its
    config asked with the names there were when it was added; names that were
    declared together ask each other.

    Checks may be those of conditions that were built with different pools.  A
    ledger that has the counters of all of them grows, for all checks and every
    counter, by what the visits of these checks hit, and by nothing else.
    Checks may come in any order, and so may the increments of all checks. -/
theorem Pool.checks_count (pool : Pool) :
    (∀ (c : Config) (r : Registry) (cond : Condition), (c.build pool r).result = .ok cond →
      (c.build pool r).registered = countersOf (c.tallies r) ∧
      ∀ p, cond.check ⟨p⟩ = c.answer (pool.answer p) p r ∧
        (c.MissesPart → cond.check ⟨p⟩ = .ofLeaf (.ofKind r c.kind) false)) ∧
    (∀ (r : Registry) (name : String) (c : Config) (pool' : Pool),
      (pool.add r name c).result = .ok pool' →
      (pool.add r name c).registered = countersOf (c.tallies (r.named name)) ∧
      ∀ p n, pool'.answer p n
        = if n = name then c.answer (pool.answer p) p (r.named name) else pool.answer p n) ∧
    (∀ (d : Declarations) (r : Registry), (d.build r).result = .ok pool →
      ∀ p, d.Answers r p (pool.answer p) ∧
        ∀ named, d.Answers r p named → ∀ name ∈ d.conditions.keys, named name = pool.answer p name) ∧
    ∀ (l : Ledger) (checks : List (Condition × SinglePart)),
      (∀ e ∈ checks, ∃ pool ts, Pool.Made pool ts ∧ l.HasAll (countersOf ts) ∧
        pool.Counted l e.1) →
      (∀ id path, (l.afterChecks checks).value? id path
        = (l.value? id path).map (· + Int64.ofNat
          (checks.map fun e => (e.1.check e.2).hits (.kept id path)).sum)) ∧
      (∀ checks', checks'.Perm checks → l.afterChecks checks' = l.afterChecks checks) ∧
      ∀ is : List Increment, is.Perm (checks.flatMap fun e => (e.1.check e.2).increments) →
        l.addAll is = l.afterChecks checks := by
  refine ⟨?_, ?_, ?_, ?_⟩
  · intro c r cond hcond
    refine ⟨Config.registered_build hcond, ?_⟩
    intro p
    have hanswer : cond.check ⟨p⟩ = c.answer (pool.answer p) p r :=
      Config.build_answer (pool.gives_answer p) c (Config.built hcond)
    refine ⟨hanswer, ?_⟩
    intro hmisses
    rw [hanswer, Config.answer_misses hmisses]
  · intro r name c pool' hadd
    exact ⟨Pool.registered_add hadd, Pool.answer_add hadd⟩
  · intro d r hbuild p
    refine ⟨Declarations.gives_fits (Config.determines_check p) hbuild (pool.gives_answer p), ?_⟩
    intro named hnamed name hname
    obtain ⟨cond, hcond⟩ := Declarations.build_mem hbuild hname
    have hgives := Declarations.fits_gives (Config.determines_check p) hbuild hnamed
    exact (hgives name cond hcond).symm.trans (pool.gives_answer p name cond hcond)
  · intro l checks hchecks
    have hasked : ∀ e ∈ checks, ∀ v ∈ (e.1.check e.2).visits, l.HasAll v.tally.counters := by
      intro e he
      -- Whoever this check visits was registered with its own pool.
      obtain ⟨pool', ts', hmade', hpool, hcounted⟩ := hchecks e he
      exact hmade'.asked_counted hpool hcounted e.2
    refine ⟨Ledger.value?_afterChecks hasked, ?_, ?_⟩
    · intro checks' hperm
      exact Ledger.afterChecks_perm hperm
    · intro is hperm
      exact Ledger.addAll_increments hperm

/-- One check hits a leaf twice that is asked twice, for a reference and for
    the negation of that reference.  The third child is not asked then, but it
    is asked by itself in another check: it was built when there was no name
    yet, and counts with the same counters. -/
theorem Pool.checks_count_twice :
    let r : Registry := .table 0
    let never : Config := { kind := "static", static := false }
    let always : Config := { kind := "static" }
    let a : Config := { kind := "resource", resource := "a" }
    let c : Config := { kind := "or", any := [a, { kind := "not", not := some a }, always] }
    ∃ pool cond cond', ∃ l : Ledger, (Pool.empty.add r "a" never).result = .ok pool ∧
      (c.build pool r).result = .ok cond ∧
      (always.build .empty (r.child .any 2)).result = .ok cond' ∧
      l.HasAll (countersOf (never.tallies (r.named "a"))) ∧
      pool.Counted l cond ∧ Pool.empty.Counted l cond' ∧
      let l' := l.afterChecks [(cond, ⟨⟨[], ∅⟩⟩), (cond', ⟨⟨[], ∅⟩⟩)]
      l'.value? 0 "resource.condition.a.condition.static.count" = some 2 ∧
      l'.value? 0 "resource.condition.a.condition.static.false" = some 2 ∧
      l'.value? 0 "or.2.condition.static.count" = some 1 := by
  intro r never always a c
  let leaf : Condition := .leaf (.static false) (.ofKind (r.named "a") "static")
  let last : Condition := .leaf (.static true) (.ofKind (r.child .any 2) "static")
  let cond : Condition := .any [.shared leaf, .not (.shared leaf), last]
  let ks := countersOf (never.tallies (r.named "a")) ++ countersOf (c.tallies r)
  let l := Ledger.empty.addTable.registerAll ks
  have hadd : (Pool.empty.add r "a" never).result = .ok (Pool.empty.insert "a" leaf) := rfl
  have hcond : (c.build (Pool.empty.insert "a" leaf) r).result = .ok cond := rfl
  have hlast : (always.build .empty (r.child .any 2)).result = .ok last := rfl
  have htable : ∀ id path, Counter.kept id path ∈ ks →
      (Ledger.empty.addTable.table? id).isSome := by
    intro id path hmem
    have hzero : ∃ path', Counter.kept id path = .kept 0 path' := by
      rcases List.mem_append.mp hmem with hmem | hmem
      · exact Config.mem_countersOf (Registry.place_within rfl _) hmem
      · exact Config.mem_countersOf rfl hmem
    obtain ⟨path', heq⟩ := hzero
    cases heq
    rfl
  have hpool : l.HasAll (countersOf (never.tallies (r.named "a"))) :=
    Ledger.hasAll_registerAll htable fun k hk => List.mem_append_left _ hk
  have hown : l.HasAll (countersOf (c.tallies r)) :=
    Ledger.hasAll_registerAll htable fun k hk => List.mem_append_right _ hk
  have hcounted : Pool.Counted (Pool.empty.insert "a" leaf) l cond := ⟨c, r, hcond, hown⟩
  have hcounted' : Pool.Counted .empty l last :=
    ⟨always, r.child .any 2, hlast, fun k hk => hown k (List.mem_append_left _ hk)⟩
  have hmade : Pool.Made (Pool.empty.insert "a" leaf) ([] ++ never.tallies (r.named "a")) :=
    .add .empty hadd
  obtain ⟨_, _, _, hcount⟩ := Pool.checks_count (Pool.empty.insert "a" leaf)
  have hchecks : ∀ e ∈ [(cond, SinglePart.mk ⟨[], ∅⟩), (last, ⟨⟨[], ∅⟩⟩)],
      ∃ pool ts, Pool.Made pool ts ∧ l.HasAll (countersOf ts) ∧ pool.Counted l e.1 := by
    intro e he
    rcases List.mem_pair.mp he with rfl | rfl
    · exact ⟨_, _, hmade, hpool, hcounted⟩
    · exact ⟨_, _, .empty, nofun, hcounted'⟩
  obtain ⟨hvalue, _, _⟩ := hcount l _ hchecks
  refine ⟨_, cond, last, l, hadd, hcond, hlast, hpool, hcounted, hcounted', ?_, ?_, ?_⟩
  · exact (hvalue 0 "resource.condition.a.condition.static.count").trans rfl
  · exact (hvalue 0 "resource.condition.a.condition.static.false").trans rfl
  · exact (hvalue 0 "or.2.condition.static.count").trans rfl

end BatchFilter
