import BatchFilter.Proofs.Sites
import Mathlib.Data.List.TakeWhile

/-! # What Building Registers

    Building a condition registers the counters of the leaves that it passes, in
    the order in which it comes to them: all leaves if it succeeds, and
    otherwise those in front of the first config that breaks its rule.

    * `Site.passed`: the leaves that building passes.
    * `Config.registered_passed`: their counters are registered, and no others.
    * `Config.registered_build`: a condition that was built has registered
      those of all its leaves. -/

namespace BatchFilter

/-! ## Section 1: Counters of leaves -/

/-- The counters of leaves, in the order they are registered in. -/
def countersOf (ts : List Tally) : List Counter :=
  ts.flatMap Tally.counters

theorem countersOf_append (ts ts' : List Tally) :
    countersOf (ts ++ ts') = countersOf ts ++ countersOf ts' :=
  List.flatMap_append

theorem countersOf_ite (b : Bool) (ts : List Tally) :
    countersOf (if b then ts else []) = if b then countersOf ts else [] := by
  cases b <;> rfl

/-! ## Section 2: What attempts register -/

namespace Attempt

variable {α β : Type}

theorem registered_bind {x : Attempt α} {a : α} (h : x.result = .ok a) (f : α → Attempt β) :
    (x.bind f).registered = x.registered ++ (f a).registered := by
  unfold Attempt.bind
  rw [h]

@[simp] theorem registered_bind_pure (x : Attempt α) (f : α → β) :
    (x.bind fun a => pure (f a)).registered = x.registered := by
  unfold Attempt.bind
  cases x.result with
  | ok a => exact List.append_nil _
  | error e => rfl

@[simp] theorem registered_mapError (x : Attempt α) (f : Error → Error) :
    (x.mapError f).registered = x.registered := by
  unfold mapError
  cases x.result <;> rfl

/-- The second step registers something if the first succeeds. -/
theorem registered_then {x : Attempt α} {f : α → Attempt β} {ks : List Counter}
    (h : ∀ a, (f a).registered = ks) :
    (x.bind f).registered = x.registered ++ if x.error?.isNone then ks else [] := by
  unfold Attempt.bind error?
  cases hx : x.result with
  | ok a => exact congrArg (x.registered ++ ·) (h a)
  | error e => exact (List.append_nil _).symm

/-- A leaf registers its counters if there is a test for it. -/
theorem registered_leaf (r : Registry) (kind : Kind) (test : Except Error Test) :
    ((ofExcept test).bind (buildLeaf r kind)).registered
      = countersOf (if (Error.of? test).isNone then [.ofKind r kind.name] else []) := by
  cases test <;> rfl

end Attempt

/-! ## Section 3: How far building gets -/

namespace Site

variable {known : String → Bool} {r : Registry}

/-- Does the config at a site follow the rule of its type? -/
def isClear (known : String → Bool) (s : Site) : Bool :=
  (s.config.ownFault? known).isNone

/-- The counters of the leaves among sites, up to the first one that breaks the
    rule of its type. -/
def passed (known : String → Bool) (r : Registry) (sites : List Site) : List Tally :=
  (sites.takeWhile (isClear known)).filterMap (tally? r)

theorem passed_cons (s : Site) (sites : List Site) :
    passed known r (s :: sites)
      = if s.isClear known then (s.tally? r).toList ++ passed known r sites else [] := by
  unfold passed
  rw [List.takeWhile_cons]
  split
  · rw [List.filterMap_cons]
    cases s.tally? r <;> rfl
  · rfl

/-- Combinations and references have no counters of their own. -/
theorem passed_inner {s : Site} (h : s.config.kind ∉ Kind.leafNames) (sites : List Site) :
    passed known r (s :: sites) = if s.isClear known then passed known r sites else [] := by
  rw [passed_cons, tally?, if_neg h]
  rfl

theorem passed_leaf {s : Site} (h : s.config.kind ∈ Kind.leafNames) :
    passed known r [s]
      = if s.isClear known then [.ofKind (r.along s.route) s.config.kind] else [] := by
  rw [passed_cons, tally?, if_pos h]
  rfl

theorem passed_append (sites sites' : List Site) :
    passed known r (sites ++ sites')
      = passed known r sites
        ++ if sites.all (isClear known) then passed known r sites' else [] := by
  induction sites with
  | nil => rfl
  | cons s sites ih =>
    rw [List.cons_append, passed_cons, passed_cons, ih, List.all_cons]
    cases s.isClear known <;> simp

theorem passed_below (b : Branch) (sites : List Site) :
    passed known r (sites.map (below b)) = passed known (.within b.ns r) sites := by
  unfold passed
  rw [List.takeWhile_map, filterMap_below]
  rfl

theorem passed_all {sites : List Site} (h : sites.all (isClear known) = true) :
    passed known r sites = sites.filterMap (tally? r) := by
  rw [passed, List.takeWhile_eq_self_iff.mpr (List.all_eq_true.mp h)]

/-- All is clear if and only if no config has a fault. -/
theorem all_isClear (sites : List Site) :
    sites.all (isClear known)
      = ((sites.map config).findSome? (Config.ownFault? known)).isNone := by
  induction sites with
  | nil => rfl
  | cons s sites ih =>
    rw [List.all_cons, ih, List.map_cons, Config.findSome?_cons_or, isClear]
    cases s.config.ownFault? known <;> rfl

end Site

namespace Config

variable {pool : Pool}

mutual

/-- **What building registers**, if it fails or not: the counters of the leaves
    that it passes. -/
theorem registered_passed : ∀ (c : Config) {r : Registry},
    (c.clause.build pool r).registered = countersOf (Site.passed pool.knows r c.sites)
  | ⟨kind, static, text, metadata, all, any, child, resource⟩, r => by
      rw [clause]
      cases hk : Kind.ofName? kind with
      | none =>
        obtain ⟨h₁, h₂, h₃, h₄, h₅, h₆, h₇⟩ := ofName?_eq_none hk
        simp [Clause.build, Attempt.fail, sites, Site.passed_cons, Site.isClear, ownFault?,
          countersOf]
      | some k =>
        obtain rfl := Kind.ofName?_eq hk
        cases k with
        | static => rfl
        | text =>
          show ((Attempt.ofExcept text.test).bind (buildLeaf r .text)).registered
            = countersOf (Site.passed _ r [_])
          rw [Attempt.registered_leaf, TextSection.of?_test,
            Site.passed_leaf (show Kind.text.name ∈ Kind.leafNames by decide)]
          rfl
        | metadata =>
          show ((Attempt.ofExcept metadata.test).bind (buildLeaf r .metadata)).registered
            = countersOf (Site.passed _ r [_])
          rw [Attempt.registered_leaf, MetadataSection.of?_test,
            Site.passed_leaf (show Kind.metadata.name ∈ Kind.leafNames by decide)]
          rfl
        -- The rule of a combination comes before its children, and those only if it holds.
        | all =>
          show ((Attempt.ofExcept (checkCount .all (clauses all).length)).bind fun _ => _).registered
            = countersOf (Site.passed _ r (_ :: sitesAll .all 0 all))
          rw [Attempt.registered_then fun _ => Attempt.registered_bind_pure _ _,
            Attempt.error?_ofExcept, of?_checkCount, clauses_length,
            Site.passed_inner (show Kind.all.name ∉ Kind.leafNames by decide),
            registered_passedAll .all (fun _ => rfl) all, countersOf_ite]
          rfl
        | any =>
          show ((Attempt.ofExcept (checkCount .any (clauses any).length)).bind fun _ => _).registered
            = countersOf (Site.passed _ r (_ :: sitesAll .any 0 any))
          rw [Attempt.registered_then fun _ => Attempt.registered_bind_pure _ _,
            Attempt.error?_ofExcept, of?_checkCount, clauses_length,
            Site.passed_inner (show Kind.any.name ∉ Kind.leafNames by decide),
            registered_passedAll .any (fun _ => rfl) any, countersOf_ite]
          rfl
        | not =>
          show ((Clause.build? pool (.within "not" r) (clause? child)).bind fun _ => _).registered
            = countersOf (Site.passed _ r (_ :: sites? child))
          rw [Attempt.registered_bind_pure, registered_passed? child,
            Site.passed_inner (show Kind.not.name ∉ Kind.leafNames by decide)]
          cases child with
          | none => rfl
          | some c => rfl
        | resource =>
          have hnothing : ((Clause.resource resource).build pool r).registered = [] := by
            rw [Clause.build]
            split
            · rfl
            · exact Attempt.registered_bind_pure _ _
          show ((Clause.resource resource).build pool r).registered
            = countersOf (Site.passed _ r [_])
          rw [hnothing, Site.passed_inner (show Kind.resource.name ∉ Kind.leafNames by decide),
            countersOf_ite]
          split <;> rfl

theorem registered_passedAll {kind : Kind} (branch : Nat → Branch)
    (hbranch : ∀ i, (branch i).ns = kind.name ++ "." ++ toString i) :
    ∀ (cs : List Config) {r : Registry} {i : Nat},
      (Clause.buildAll pool r kind i (clauses cs)).registered
        = countersOf (Site.passed pool.knows r (sitesAll branch i cs))
  | [], r, i => by
      rw [sitesAll]
      rfl
  | c :: rest, r, i => by
      -- A child is built only if there is no fault in front of it.
      have hclear : (c.sites.map (Site.below (branch i))).all (Site.isClear pool.knows)
          = (c.clause.build pool (r.child kind i)).error?.isNone := by
        rw [Site.all_isClear, map_below_config, sites_nodes, build_nodes]
      rw [clauses, Clause.buildAll, sitesAll, Site.passed_append, Site.passed_below, hclear,
        countersOf_append, countersOf_ite, hbranch,
        Attempt.registered_then fun _ => Attempt.registered_bind_pure _ _,
        registered_passed c, registered_passedAll branch hbranch rest]
      rfl

theorem registered_passed? : ∀ (child : Option Config) {r : Registry},
    (Clause.build? pool (.within "not" r) (clause? child)).registered
      = countersOf (Site.passed pool.knows r (sites? child))
  | none, r => by
      rw [sites?]
      rfl
  | some c, r => by
      rw [clause?, Clause.build?, sites?, Site.passed_below, registered_passed c]
      rfl

end

/-- What is built from a clause registers the counters of all its leaves. -/
theorem registered_clause {c : Config} {r : Registry} {cond : Condition}
    (h : (c.clause.build pool r).result = .ok cond) :
    (c.clause.build pool r).registered = countersOf (c.tallies r) := by
  have hclear : c.sites.all (Site.isClear pool.knows) = true := by
    rw [Site.all_isClear, sites_nodes, ← build_nodes pool c r, Attempt.error?, h]
    rfl
  rw [registered_passed, Site.passed_all hclear, tallies_sites]

/-- **A condition registers the counters of its leaves.** -/
theorem registered_build {r : Registry} {c : Config} {cond : Condition}
    (h : (c.build pool r).result = .ok cond) :
    (c.build pool r).registered = countersOf (c.tallies r) := by
  have hclause := built h
  unfold build at h ⊢
  split at h
  · cases h
  · rename_i hdepth
    rw [if_neg hdepth, registered_clause hclause]

end Config

theorem Pool.registered_add {pool pool' : Pool} {r : Registry} {name : String} {c : Config}
    (h : (pool.add r name c).result = .ok pool') :
    (pool.add r name c).registered = countersOf (c.tallies (r.named name)) := by
  obtain ⟨cond, hcond, _⟩ := Attempt.bind_ok h
  rw [add, Attempt.registered_bind_pure, Config.registered_build hcond]

end BatchFilter
