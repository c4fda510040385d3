import BatchFilter.Proofs.Acceptance
import BatchFilter.Proofs.Construction
import BatchFilter.Settings
import Mathlib.Data.List.Chain
import Mathlib.Data.List.Perm.Subperm

/-! # How Deep Checks Go

    How deep a config nests is looked at before anything is built from it, and
    a reference counts like a leaf there.  A check goes on from a reference
    into the condition that is referred to, so it may go deeper than any
    config nests.  Still it is bounded: references lead from one declared name
    to another and never back, and every config on the way adds no more than
    it nests deep, less the place of the leaf that it takes.

    * `Condition.entered`: how deep a check goes.
    * `Clause.entered_within`: no deeper than the clause, or on into a name.
    * `Declarations.Way`: the ways that references lead.
    * `Settings.entered_bounded`: how deep the checks of a run go. -/

namespace BatchFilter

/-! ## Section 1: How deep a check goes -/

namespace Condition

mutual

/-- How deep the combinations nest that are entered while a part is checked.
    A leaf is 1 deep, as it is in a config, and a reference is as deep as the
    condition that it refers to. -/
def entered (s : SinglePart) : Condition → Nat
  | .leaf _ _ => 1
  | .all children => enteredUntil s false children + 1
  | .any children => enteredUntil s true children + 1
  | .not child => child.entered s + 1
  | .shared target => target.entered s

/-- How deep children are entered, of which none is asked after the first that
    answers `b`. -/
def enteredUntil (s : SinglePart) (b : Bool) : List Condition → Nat
  | [] => 0
  | c :: rest =>
      if c.holds s = b then c.entered s else max (c.entered s) (enteredUntil s b rest)

end

/-- The children that are entered are those that a check asks. -/
theorem enteredUntil_asked (s : SinglePart) (b : Bool) (cs : List Condition) :
    enteredUntil s b cs
      = ((cs.take (cs.findIdx (·.holds s == b) + 1)).map (entered s)).foldr max 0 := by
  induction cs with
  | nil => rfl
  | cons c cs ih =>
    rw [enteredUntil, List.findIdx_cons]
    by_cases h : c.holds s = b
    · have hb : (c.holds s == b) = true := beq_iff_eq.mpr h
      rw [if_pos h, hb]
      exact (Nat.max_zero _).symm
    · have hb : (c.holds s == b) = false := beq_eq_false_iff_ne.mpr h
      rw [if_neg h, hb, ih]
      rfl

end Condition

/-- How deep the check of a named condition goes. -/
def Pool.entered (pool : Pool) (s : SinglePart) (name : String) : Nat :=
  match pool.find? name with
  | none => 0
  | some c => c.entered s

/-- A check that goes `n` deep stays within what nests `depth` deep, or else it
    goes on into one of the names from there, in the place of a leaf. -/
def Within (deep : String → Nat) (names : List String) (depth n : Nat) : Prop :=
  n ≤ depth ∨ ∃ name ∈ names, n + 1 ≤ depth + deep name

namespace Within

variable {deep : String → Nat} {names names' : List String} {depth depth' n n' : Nat}

theorem mono (h : Within deep names depth n) (hnames : names ⊆ names') (hdepth : depth ≤ depth') :
    Within deep names' depth' n := by
  rcases h with h | ⟨name, hname, h⟩
  · exact Or.inl (Nat.le_trans h hdepth)
  · exact Or.inr ⟨name, hnames hname, by omega⟩

/-- A combination nests one deeper than what is inside it. -/
theorem succ (h : Within deep names depth n) : Within deep names (depth + 1) (n + 1) := by
  rcases h with h | ⟨name, hname, h⟩
  · exact Or.inl (Nat.succ_le_succ h)
  · exact Or.inr ⟨name, hname, by omega⟩

/-- Of two checks one goes deeper. -/
theorem max (h : Within deep names depth n) (h' : Within deep names depth n') :
    Within deep names depth (max n n') := by
  rcases Nat.le_total n n' with hle | hle
  · rwa [Nat.max_eq_right hle]
  · rwa [Nat.max_eq_left hle]

end Within

namespace Clause

variable {pool : Pool} {s : SinglePart}

mutual

/-- **A check goes no deeper than its clause nests**, unless it goes on into a
    name that the clause refers to. -/
theorem entered_within : ∀ (c : Clause) {r : Registry} {cond : Condition},
    (c.build pool r).result = .ok cond →
      Within (pool.entered s) c.references c.depth (cond.entered s)
  | .unknown kind, r, cond, h => nomatch h
  | .static value, r, cond, h => by
      rw [built_static h]
      exact Or.inl (Nat.le_refl 1)
  | .text _, r, cond, h => by
      obtain ⟨test, _, rfl⟩ := built_text h
      exact Or.inl (Nat.le_refl 1)
  | .metadata _, r, cond, h => by
      obtain ⟨test, _, rfl⟩ := built_metadata h
      exact Or.inl (Nat.le_refl 1)
  | .all children, r, cond, h => by
      obtain ⟨conds, hconds, rfl⟩ := built_all h
      rw [Condition.entered]
      exact (enteredUntil_within children hconds).succ
  | .any children, r, cond, h => by
      obtain ⟨conds, hconds, rfl⟩ := built_any h
      rw [Condition.entered]
      exact (enteredUntil_within children hconds).succ
  | .not child, r, cond, h => by
      obtain ⟨c, built, hc, hbuilt, rfl⟩ := built_not h
      rw [Condition.entered]
      exact (entered_within? child hc hbuilt).succ
  | .resource name, r, cond, h => by
      -- The reference itself is a leaf, and the check goes on from it.
      obtain ⟨target, htarget, rfl⟩ := built_resource h
      have hdeep : pool.entered s name = target.entered s := by
        rw [Pool.entered, htarget]
      refine Or.inr ⟨name, List.mem_singleton_self name, ?_⟩
      show (Condition.shared target).entered s + 1 ≤ 1 + pool.entered s name
      rw [Condition.entered, hdeep, Nat.add_comm]

theorem enteredUntil_within : ∀ (cs : List Clause) {r : Registry} {kind : Kind} {i : Nat}
    {conds : List Condition} {b : Bool}, (buildAll pool r kind i cs).result = .ok conds →
      Within (pool.entered s) (referencesAll cs) (depthAll cs) (Condition.enteredUntil s b conds)
  | [], r, kind, i, conds, b, h => by
      cases h
      exact Or.inl (Nat.le_refl 0)
  | c :: rest, r, kind, i, conds, b, h => by
      obtain ⟨first, others, hfirst, hothers, rfl⟩ := built_cons h
      have hhead : Within (pool.entered s) (referencesAll (c :: rest)) (depthAll (c :: rest))
          (first.entered s) :=
        (entered_within c hfirst).mono (List.subset_append_left _ _) (Nat.le_max_left _ _)
      have htail : Within (pool.entered s) (referencesAll (c :: rest)) (depthAll (c :: rest))
          (Condition.enteredUntil s b others) :=
        (enteredUntil_within rest hothers).mono (List.subset_append_right _ _)
          (Nat.le_max_right _ _)
      -- The others are only entered if the first leaves it open.
      rw [Condition.enteredUntil]
      split
      · exact hhead
      · exact hhead.max htail

theorem entered_within? : ∀ (child : Option Clause) {c : Clause} {r : Registry}
    {built : Condition}, child = some c → (c.build pool r).result = .ok built →
      Within (pool.entered s) (references? child) (depth? child) (built.entered s)
  | none, _, _, _, hc, _ => nomatch hc
  | some c, _, _, _, hc, hbuilt => by
      obtain rfl := Option.some.inj hc
      exact entered_within c hbuilt

end

end Clause

/-! ## Section 2: Where references lead -/

namespace Declarations

variable {d : Declarations} {r : Registry}

/-- How deep the config nests that is declared under a name. -/
def depthOf (d : Declarations) (name : String) : Nat :=
  match d.conditions.find? name with
  | none => 0
  | some c => c.depth

theorem depthOf_some {name : String} {c : Config} (h : d.conditions.find? name = some c) :
    d.depthOf name = c.depth := by
  rw [depthOf, h]

/-- What the configs of names add to the depth of a check that goes through one
    after another.  Each takes the place of a leaf of the one before. -/
def rise (d : Declarations) : List String → Nat
  | [] => 0
  | name :: names => d.depthOf name - 1 + d.rise names

/-- A way that references lead from a config on: to a declared name that the
    config refers to, and from one such name to the next. -/
structure Way (d : Declarations) (c : Config) (names : List String) : Prop where
  starts : ∀ name ∈ names.head?, name ∈ c.names
  declared : ∀ name ∈ names, name ∈ d.conditions.keys
  refers : names.IsChain d.Refers

namespace Way

variable {c : Config} {names : List String}

theorem nil (d : Declarations) (c : Config) : d.Way c [] where
  starts := nofun
  declared := nofun
  refers := .nil

/-- A way goes through a declared name that the config refers to. -/
theorem cons {name : String} {next : Config} (hname : name ∈ c.names)
    (hnext : d.conditions.find? name = some next) (h : d.Way next names) :
    d.Way c (name :: names) where
  starts := by
    intro first hfirst
    obtain rfl : name = first := Option.some.inj hfirst
    exact hname
  declared := by
    intro n hn
    rcases List.mem_cons.mp hn with rfl | hn
    · exact Dictionary.mem_keys_of_find? hnext
    · exact h.declared n hn
  refers := by
    refine List.isChain_cons.mpr ⟨?_, h.refers⟩
    intro target htarget
    have hmem : target ∈ names := List.mem_of_mem_head? htarget
    exact ⟨next, hnext, h.starts target htarget, h.declared target hmem⟩

/-- No way comes to a name twice, if no name depends on itself. -/
theorem nodup (h : d.Way c names) (hacyclic : d.Acyclic) : names.Nodup := by
  have hdepends : names.IsChain (Relation.TransGen d.Refers) :=
    h.refers.imp fun _ _ href => .single href
  -- Every name depends on all that come after it.
  apply hdepends.pairwise.imp
  rintro a b hab rfl
  exact hacyclic a hab

theorem length_le (h : d.Way c names) (hacyclic : d.Acyclic) :
    names.length ≤ d.conditions.size := by
  have hsubperm := List.subperm_of_subset (h.nodup hacyclic) h.declared
  calc names.length ≤ d.conditions.keys.length := hsubperm.length_le
    _ = d.conditions.size := List.length_map Prod.fst

/-- A config that refers to nothing leads nowhere. -/
theorem eq_nil (h : d.Way c names) (hc : c.names = []) : names = [] := by
  cases names with
  | nil => rfl
  | cons name names =>
    have hname := h.starts name rfl
    rw [hc] at hname
    cases hname

end Way

/-- Names whose configs do not nest too deep add less than the limit each. -/
theorem rise_le {limit : Nat} (h : ∀ name c, d.conditions.find? name = some c → c.depth ≤ limit)
    (names : List String) : d.rise names ≤ (limit - 1) * names.length := by
  induction names with
  | nil => exact Nat.zero_le _
  | cons name names ih =>
    have hfirst : d.depthOf name ≤ limit := by
      cases hfind : d.conditions.find? name with
      | none =>
        rw [depthOf, hfind]
        exact Nat.zero_le limit
      | some c =>
        rw [depthOf_some hfind]
        exact h name c hfind
    -- One more name adds its depth, less 1.
    rw [rise, List.length_cons, Nat.mul_succ]
    omega

/-! ## Section 3: Conditions that were built -/

/-- Every check of a condition goes no deeper than a way leads from its
    config. -/
def Reaches (d : Declarations) (c : Config) (cond : Condition) : Prop :=
  ∀ s, ∃ names, d.Way c names ∧ cond.entered s ≤ c.depth + d.rise names

/-- Every condition of a pool is declared and goes no deeper than that. -/
def Bounds (d : Declarations) (pool : Pool) : Prop :=
  ∀ name cond, pool.find? name = some cond →
    ∃ c, d.conditions.find? name = some c ∧ d.Reaches c cond

/-- What is built with conditions that go no deeper than ways lead does not do
    so either. -/
theorem reaches_built {pool : Pool} (hpool : d.Bounds pool) {c : Config} {r : Registry}
    {cond : Condition} (h : (c.build pool r).result = .ok cond) : d.Reaches c cond := by
  intro s
  rcases Clause.entered_within (s := s) c.clause (Config.built h) with hle | ⟨name, hname, hle⟩
  · exact ⟨[], .nil d c, hle⟩
  · rw [Config.references_nodes] at hname
    cases hfind : pool.find? name with
    | none =>
      -- Nothing was found to go on into.
      rw [Pool.entered, hfind] at hle
      exact ⟨[], .nil d c, Nat.le_of_succ_le hle⟩
    | some target =>
      obtain ⟨next, hnext, hreaches⟩ := hpool name target hfind
      obtain ⟨names, hway, htarget⟩ := hreaches s
      rw [Pool.entered, hfind] at hle
      refine ⟨name :: names, .cons hname hnext hway, ?_⟩
      have hdeep : cond.entered s + 1 ≤ c.depth + target.entered s := hle
      rw [rise, depthOf_some hnext]
      omega

/-- Another condition that is declared keeps all bounds. -/
theorem bounds_added {pool pool' : Pool} {name : String} (hpool : d.Bounds pool)
    (h : (d.addNamed r pool name).result = .ok pool') : d.Bounds pool' := by
  rcases added h with ⟨_, rfl⟩ | ⟨c, built, hc, hbuilt, rfl⟩
  · exact hpool
  intro n cond hfind
  rw [Pool.find?_insert] at hfind
  split at hfind
  · rename_i hn
    cases hfind
    exact ⟨c, hn ▸ hc, reaches_built hpool hbuilt⟩
  · exact hpool n cond hfind

/-- **The conditions of a pool that was built** go no deeper than ways lead. -/
theorem bounds_build {pool : Pool} (h : (d.build r).result = .ok pool) : d.Bounds pool :=
  build_induct (P := d.Bounds) (fun _ _ hfind => nomatch hfind) bounds_added h

end Declarations

/-! ## Section 4: Settings that are accepted -/

/-- What can be built does not nest too deep. -/
theorem Config.depth_built {pool : Pool} {r : Registry} {c : Config} {cond : Condition}
    (h : (c.build pool r).result = .ok cond) : c.depth ≤ Limits.conditionDepth := by
  unfold build at h
  split at h
  · cases h
  · rename_i hdepth
    exact Nat.le_of_not_lt hdepth

/-- A stage was built from its condition. -/
theorem StageConfig.built {pool : Pool} {r : Registry} {c : StageConfig} {stage : Stage}
    (h : (c.build pool r).result = .ok stage) :
    (c.condition.build pool (.within Stage.ns r)).result = .ok stage.condition := by
  unfold build at h
  split at h
  · exact (Stage.built h).1
  · cases h

namespace Settings

/-- The conditions that settings come to, each with its config: that of the
    stage, and those that are declared. -/
def Builds (cfg : Settings) (stage : Stage) (pool : Pool) (c : Config) (cond : Condition) : Prop :=
  (c = cfg.processor.condition ∧ cond = stage.condition) ∨
    ∃ name, cfg.resources.conditions.find? name = some c ∧ pool.find? name = some cond

/-- **How deep checks go.**  If settings are accepted no config in them nests
    deeper than the limit.  The check of a condition goes no deeper than its
    config nests, and what a way that references lead from there adds: of
    every config on it the depth, less the place of the leaf that it takes.  A
    way goes through declared names, and through none twice.

    So a condition that refers to nothing stays within the limit, and every
    other one within the limit and the limit less 1 for each name on the
    way. -/
theorem entered_bounded (cfg : Settings) (r : Registry) (stage : Stage)
    (h : (cfg.build r).result = .ok stage) :
    ∃ pool, (cfg.resources.build r).result = .ok pool ∧
      pool.names = cfg.resources.conditions.keys ∧
      ∀ c cond, cfg.Builds stage pool c cond →
        c.depth ≤ Limits.conditionDepth ∧
        (c.names = [] → ∀ s, cond.entered s ≤ Limits.conditionDepth) ∧
        ∀ s, ∃ names, cfg.resources.Way c names ∧ names.Nodup ∧
          names.length ≤ cfg.resources.conditions.size ∧
          cond.entered s ≤ c.depth + cfg.resources.rise names ∧
          cond.entered s
            ≤ Limits.conditionDepth + (Limits.conditionDepth - 1) * names.length := by
  obtain ⟨pool, hpool, hstage⟩ := Attempt.bind_ok h
  obtain ⟨hiff, hnames, _⟩ := cfg.resources.build_iff r
  obtain ⟨hacyclic, hfine⟩ := hiff.mp ⟨pool, hpool⟩
  have hbounds := Declarations.bounds_build hpool
  have hdeclared : ∀ name c, cfg.resources.conditions.find? name = some c →
      c.depth ≤ Limits.conditionDepth :=
    fun name c hc => (Config.fault?_eq_none.mp (hfine name c hc)).1
  refine ⟨pool, hpool, hnames pool hpool, ?_⟩
  intro c cond hbuilds
  -- The condition of the stage was built with the pool just as the named ones were.
  have hboth : c.depth ≤ Limits.conditionDepth ∧ cfg.resources.Reaches c cond := by
    rcases hbuilds with ⟨rfl, rfl⟩ | ⟨name, hc, hcond⟩
    · have hbuilt := StageConfig.built hstage
      exact ⟨Config.depth_built hbuilt, Declarations.reaches_built hbounds hbuilt⟩
    · obtain ⟨c', hc', hreaches⟩ := hbounds name cond hcond
      obtain rfl : c' = c := Option.some.inj (hc'.symm.trans hc)
      exact ⟨hdeclared name c' hc, hreaches⟩
  obtain ⟨hdepth, hreaches⟩ := hboth
  refine ⟨hdepth, ?_, ?_⟩
  · intro hnone s
    obtain ⟨names, hway, hle⟩ := hreaches s
    obtain rfl := hway.eq_nil hnone
    exact Nat.le_trans hle hdepth
  · intro s
    obtain ⟨names, hway, hle⟩ := hreaches s
    have hrise := Declarations.rise_le hdeclared names
    exact ⟨names, hway, hway.nodup hacyclic, hway.length_le hacyclic, hle, by omega⟩

/-- Negations around a config. -/
def negated : Nat → Config → Config
  | 0, c => c
  | n + 1, c => { kind := "not", not := some (negated n c) }

/-- A negation of a name, and as many negations under the name as may be. -/
def stacked : Settings where
  processor := { condition := negated 1 { kind := "resource", resource := "a" } }
  resources := { conditions := .ofList [("a", negated 31 { kind := "static" })] }

theorem stacked_order : stacked.resources.order = .ok ["a"] := by
  have hkeys : stacked.resources.conditions.keys = ["a"] := rfl
  have ha : stacked.resources.clauses.find? "a" = some (negated 31 { kind := "static" }).clause :=
    rfl
  have hnone : (negated 31 { kind := "static" }).clause.references = [] := rfl
  show (Declarations.visitAll stacked.resources.clauses [] [] _).map List.reverse = _
  simp [hkeys, Declarations.visitAll_cons, Declarations.visitAll_nil, Declarations.visit_eq, ha,
    hnone, Except.map, Except.bind]

/-- **Checks go deeper than the limit** though no config nests deeper. -/
theorem entered_beyond_limit :
    ∃ stage, (stacked.build (.table 0)).result = .ok stage ∧
      stage.condition.entered ⟨⟨[], ∅⟩⟩ = Limits.conditionDepth + 1 := by
  unfold build Declarations.build
  rw [stacked_order]
  exact ⟨_, rfl, rfl⟩

/-- The way from the stage leads through the name, and the check goes it to its
    end. -/
theorem entered_bounded_stacked :
    ∃ stage pool, (stacked.build (.table 0)).result = .ok stage ∧
      (stacked.resources.build (.table 0)).result = .ok pool ∧
      ∃ names, stacked.resources.Way stacked.processor.condition names ∧
        stage.condition.entered ⟨⟨[], ∅⟩⟩
          ≤ stacked.processor.condition.depth + stacked.resources.rise names := by
  have hbuild : ∃ stage, (stacked.build (.table 0)).result = .ok stage := by
    unfold build Declarations.build
    rw [stacked_order]
    exact ⟨_, rfl⟩
  obtain ⟨stage, hstage⟩ := hbuild
  obtain ⟨pool, hpool, _, hall⟩ := entered_bounded stacked (.table 0) stage hstage
  obtain ⟨_, _, hway⟩ := hall stacked.processor.condition stage.condition (Or.inl ⟨rfl, rfl⟩)
  obtain ⟨names, hleads, _, _, hle, _⟩ := hway ⟨⟨[], ∅⟩⟩
  exact ⟨stage, pool, hstage, hpool, names, hleads, hle⟩

end Settings

end BatchFilter
