import BatchFilter.Proofs.Acceptance
import BatchFilter.Proofs.Leaves

/-! # Orders of Building

    Declared conditions may be built in any order in which each comes after
    those it refers to: what is built is always the same.  For what a config
    is built into is told by the conditions it refers to, and whatever else
    is in the pool by then, or comes later, is nothing to it.

    * `Pool.Sub`: a pool that another one agrees with.
    * `Config.build_mono`: a larger pool builds the same.
    * `Declarations.Consistent`: pools that would build their own conditions.
    * `Declarations.addAll_eq`: every order comes to the same pool. -/

namespace BatchFilter

/-! ## Section 1: Larger pools -/

/-- Every condition of the pool is in the other one, under the same name. -/
def Pool.Sub (pool pool' : Pool) : Prop :=
  ∀ name cond, pool.find? name = some cond → pool'.find? name = some cond

namespace Pool.Sub

theorem refl (pool : Pool) : pool.Sub pool :=
  fun _ _ hfind => hfind

theorem empty (pool : Pool) : Pool.empty.Sub pool :=
  fun _ _ hfind => nomatch hfind

/-- A pool that a condition was put into has it, and else what it had. -/
theorem insert {pool pool' : Pool} {name : String} {cond : Condition} (h : pool.Sub pool')
    (hcond : pool'.find? name = some cond) : (pool.insert name cond).Sub pool' := by
  intro n c hfind
  rw [Pool.find?_insert] at hfind
  split at hfind
  · rename_i hn
    rw [hn, hcond, hfind]
  · exact h n c hfind

/-- Pools of which each has all that is in the other are the same. -/
theorem antisymm {pool pool' : Pool} (h : pool.Sub pool') (h' : pool'.Sub pool) :
    pool = pool' := by
  have hsame : ∀ name, pool.find? name = pool'.find? name := by
    intro name
    cases hfind : pool.find? name with
    | some cond => exact (h name cond hfind).symm
    | none =>
      cases hfind' : pool'.find? name with
      | none => rfl
      | some cond => exact absurd (h' name cond hfind') (by rw [hfind]; exact nofun)
  exact congrArg Pool.mk (Dictionary.ext_find? hsame)

theorem resolve {pool pool' : Pool} (h : pool.Sub pool') {name : String} {cond : Condition}
    (hfind : pool.find? name = some cond) : pool'.resolve name = pool.resolve name := by
  unfold Pool.resolve
  rw [hfind, h name cond hfind]

end Pool.Sub

namespace Clause

variable {pool pool' : Pool}

mutual

/-- **What can be built with a pool** is built in the same way with a larger
    one, and registers the same. -/
theorem build_mono (hsub : pool.Sub pool') : ∀ (c : Clause) {r : Registry} {cond : Condition},
    (c.build pool r).result = .ok cond → c.build pool' r = c.build pool r
  | .unknown _, _, _, h => nomatch h
  | .static _, _, _, _ => rfl
  | .text _, _, _, _ => rfl
  | .metadata _, _, _, _ => rfl
  | .all children, r, cond, h => by
      obtain ⟨conds, hconds, _⟩ := built_all h
      rw [build, build, buildAll_mono hsub children hconds]
  | .any children, r, cond, h => by
      obtain ⟨conds, hconds, _⟩ := built_any h
      rw [build, build, buildAll_mono hsub children hconds]
  | .not child, r, cond, h => by
      obtain ⟨c, built, hc, hbuilt, _⟩ := built_not h
      rw [build, build, build?_mono hsub child hc hbuilt]
  | .resource name, r, cond, h => by
      -- The name was found, so it is the same condition in both.
      obtain ⟨target, htarget, _⟩ := built_resource h
      rw [build, build, hsub.resolve htarget]

theorem buildAll_mono (hsub : pool.Sub pool') : ∀ (cs : List Clause) {r : Registry} {kind : Kind}
    {i : Nat} {conds : List Condition}, (buildAll pool r kind i cs).result = .ok conds →
      buildAll pool' r kind i cs = buildAll pool r kind i cs
  | [], _, _, _, _, _ => rfl
  | c :: rest, r, kind, i, conds, h => by
      obtain ⟨first, others, hfirst, hothers, _⟩ := built_cons h
      rw [buildAll, buildAll, build_mono hsub c hfirst, buildAll_mono hsub rest hothers]

theorem build?_mono (hsub : pool.Sub pool') : ∀ (child : Option Clause) {c : Clause}
    {r : Registry} {built : Condition}, child = some c → (c.build pool r).result = .ok built →
      build? pool' r child = build? pool r child
  | none, _, _, _, hc, _ => nomatch hc
  | some c, _, _, _, hc, hbuilt => by
      obtain rfl := Option.some.inj hc
      exact build_mono hsub c hbuilt

end

end Clause

/-- A config that can be built with a pool is built in the same way with a
    larger one. -/
theorem Config.build_mono {pool pool' : Pool} (hsub : pool.Sub pool') {c : Config} {r : Registry}
    {cond : Condition} (h : (c.build pool r).result = .ok cond) :
    c.build pool' r = c.build pool r := by
  unfold build
  rw [Clause.build_mono hsub c.clause (built h)]

/-! ## Section 2: Pools that build themselves -/

namespace Declarations

variable {d : Declarations} {r : Registry}

/-- Every condition of the pool is what its declared config is built into with
    this very pool. -/
def Consistent (d : Declarations) (r : Registry) (pool : Pool) : Prop :=
  ∀ name cond, pool.find? name = some cond →
    ∃ c, d.conditions.find? name = some c ∧ (c.build pool (r.named name)).result = .ok cond

/-- Another declared condition leaves all others as they were: even a name that
    is built once more is built into the same. -/
theorem added_sub {pool pool' : Pool} {name : String} (hpool : d.Consistent r pool)
    (h : (d.addNamed r pool name).result = .ok pool') : pool.Sub pool' := by
  rcases added h with ⟨_, rfl⟩ | ⟨c, built, hc, hbuilt, rfl⟩
  · exact .refl pool'
  intro n cond hfind
  rw [Pool.find?_insert]
  by_cases hn : n = name
  · -- The old condition was built from the same config, with the same pool.
    obtain ⟨c', hc', hcond⟩ := hpool n cond hfind
    rw [hn] at hc' hcond
    obtain rfl : c' = c := Option.some.inj (hc'.symm.trans hc)
    obtain rfl : cond = built := Except.ok.inj (hcond.symm.trans hbuilt)
    rw [if_pos hn]
  · rw [if_neg hn, hfind]

theorem added_consistent {pool pool' : Pool} {name : String} (hpool : d.Consistent r pool)
    (h : (d.addNamed r pool name).result = .ok pool') : d.Consistent r pool' := by
  have hsub := added_sub hpool h
  rcases added h with ⟨_, rfl⟩ | ⟨c, built, hc, hbuilt, rfl⟩
  · exact hpool
  intro n cond hfind
  rw [Pool.find?_insert] at hfind
  split at hfind
  · rename_i hn
    cases hfind
    rw [hn]
    exact ⟨c, hc, by rw [Config.build_mono hsub hbuilt, hbuilt]⟩
  · obtain ⟨c', hc', hcond⟩ := hpool n cond hfind
    exact ⟨c', hc', by rw [Config.build_mono hsub hcond, hcond]⟩

/-- **A pool that was built would build its own conditions again.** -/
theorem build_consistent {pool : Pool} (h : (d.build r).result = .ok pool) :
    d.Consistent r pool :=
  build_induct (P := d.Consistent r) (fun _ _ hfind => nomatch hfind) added_consistent h

/-! ## Section 3: Every order -/

/-- One more condition comes to what it is in the pool that was built, whatever
    part of that pool it is built with. -/
theorem added_sub_build {pool : Pool} (h : (d.build r).result = .ok pool) {part part' : Pool}
    {name : String} (hpart : part.Sub pool) (hadd : (d.addNamed r part name).result = .ok part') :
    part'.Sub pool := by
  rcases added hadd with ⟨_, rfl⟩ | ⟨c, built, hc, hbuilt, rfl⟩
  · exact hpart
  obtain ⟨cond, hcond⟩ := build_mem h (Dictionary.mem_keys_of_find? hc)
  obtain ⟨c', hc', hagain⟩ := build_consistent h name cond hcond
  obtain rfl : c' = c := Option.some.inj (hc'.symm.trans hc)
  rw [Config.build_mono hpart hbuilt] at hagain
  obtain rfl : cond = built := Except.ok.inj (hagain.symm.trans hbuilt)
  exact hpart.insert hcond

/-- **Every order comes to the same pool**, if it has all declared names, each
    after those it refers to. -/
theorem addAll_eq {pool : Pool} (h : (d.build r).result = .ok pool) {names : List String}
    (hsettled : d.Settled names.reverse) (hall : ∀ name ∈ d.conditions.keys, name ∈ names) :
    (d.addAll r .empty names).result = .ok pool := by
  obtain ⟨_, hfine⟩ := (d.build_iff r).1.mp ⟨pool, h⟩
  have hspec := addAll_spec (r := r) d.holds_empty
    (show d.Settled (names.reverse ++ []) by rwa [List.append_nil])
  rcases hspec with ⟨pool', hpool', _, _⟩ | ⟨name, c, source, _, hc, hfault⟩
  · -- On the way there is only what the pool has, and in the end there is all of it.
    have hsub : pool'.Sub pool := addAll_induct (P := fun part => part.Sub pool)
      (fun hpart hadd => added_sub_build h hpart hadd) (.empty pool) hpool'
    have hsub' : pool.Sub pool' := by
      intro name cond hfind
      obtain ⟨c, hc, _⟩ := build_consistent h name cond hfind
      have hkey := Dictionary.mem_keys_of_find? hc
      obtain ⟨cond', hcond'⟩ :=
        Option.isSome_iff_exists.mp (addAll_mem hpool' (hall name hkey) hkey)
      rw [hcond', ← hsub name cond' hcond', hfind]
    rw [hpool', hsub.antisymm hsub']
  · rw [hfine name c hc] at hfault
    cases hfault

/-- Every such order registers the counters that building all registers. -/
theorem mem_registered_addAll {pool pool' : Pool} (h : (d.build r).result = .ok pool)
    {names : List String} (hall : ∀ name ∈ d.conditions.keys, name ∈ names)
    (hadd : (d.addAll r .empty names).result = .ok pool') (k : Counter) :
    k ∈ (d.addAll r .empty names).registered ↔ k ∈ (d.build r).registered := by
  obtain ⟨ts, _, hregistered, hts⟩ := made_build h
  rw [hregistered, registered_addAll hadd]
  have hleaves : ∀ t, t ∈ names.flatMap (d.talliesOf r) ↔ t ∈ ts := by
    intro t
    rw [hts, List.mem_flatMap]
    constructor
    · rintro ⟨name, _, ht⟩
      exact ⟨name, ht⟩
    · rintro ⟨name, ht⟩
      exact ⟨name, hall name (talliesOf_declared ht), ht⟩
  simp only [countersOf, List.mem_flatMap, hleaves]

end Declarations

end BatchFilter
