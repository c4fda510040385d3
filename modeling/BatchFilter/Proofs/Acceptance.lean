import BatchFilter.Proofs.References

/-! # Which Declarations Are Accepted

    Declared conditions are built in the order of their references, so that
    whoever refers to a declared name finds it in the pool.  What a config is
    built with is therefore the same as if all declared names were known from
    the start: declarations are refused for a cycle of references, or else
    for a fault of one config of their own.

    * `Declarations.Holds`: what is in the pool while building goes on.
    * `Declarations.addAll_spec`: building names of which each comes after
      those it refers to.
    * `Declarations.build_iff`: which declarations can be built, and what is
      wrong with the others. -/

namespace BatchFilter

/-! ## Section 1: Pools on the way -/

/-- Dictionaries with the same names have them in the same order. -/
theorem Dictionary.keys_eq {α β : Type} {d : Dictionary α} {d' : Dictionary β}
    (h : ∀ name, name ∈ d.keys ↔ name ∈ d'.keys) : d.keys = d'.keys := by
  have hsorted : ∀ {γ : Type} (d : Dictionary γ), d.keys.Pairwise (· < ·) :=
    fun d => List.pairwise_map.mpr d.ordered
  exact eq_of_ordered id (hsorted d) (hsorted d') h

theorem Dictionary.contains_iff {α : Type} {d : Dictionary α} {name : String} :
    d.contains name = true ↔ name ∈ d.keys := by
  unfold contains
  constructor
  · intro h
    obtain ⟨a, ha⟩ := Option.isSome_iff_exists.mp h
    exact mem_keys_of_find? ha
  · intro h
    obtain ⟨a, ha⟩ := find?_of_mem_keys h
    rw [ha]
    rfl

theorem Pool.knows_insert (pool : Pool) (name : String) (c : Condition) (n : String) :
    (pool.insert name c).knows n = true ↔ n = name ∨ pool.knows n = true := by
  unfold knows
  rw [find?_insert]
  split <;> simp_all

namespace Declarations

variable {d : Declarations} {r : Registry}

/-- Is the name declared? -/
def declares (d : Declarations) (name : String) : Bool :=
  d.conditions.contains name

/-- The pool has the declared ones of these names, and no others. -/
def Holds (d : Declarations) (pool : Pool) (names : List String) : Prop :=
  ∀ name, pool.knows name = true ↔ name ∈ names ∧ name ∈ d.conditions.keys

/-- Where all declared names that a config refers to are in the pool, the names
    that it refers to are known if they are declared. -/
theorem knows_holds {pool : Pool} {names : List String} (hpool : d.Holds pool names)
    {name : String} (hready : ∀ target, d.Refers name target → target ∈ names) {c : Config}
    (hc : d.conditions.find? name = some c) :
    ∀ target ∈ c.names, pool.knows target = d.declares target := by
  intro target htarget
  rw [Bool.eq_iff_iff, hpool target, declares, Dictionary.contains_iff]
  constructor
  · rintro ⟨_, hkey⟩
    exact hkey
  · intro hkey
    exact ⟨hready target ⟨c, hc, htarget, hkey⟩, hkey⟩

/-- Such a config has the faults it would have if all declared names were in the
    pool. -/
theorem fault?_holds {pool : Pool} {names : List String} (hpool : d.Holds pool names)
    {name : String} (hready : ∀ target, d.Refers name target → target ∈ names) {c : Config}
    (hc : d.conditions.find? name = some c) : c.fault? pool.knows = c.fault? d.declares :=
  Config.fault?_congr (knows_holds hpool hready hc)

/-! ## Section 2: Building in order -/

/-- A declared condition fails with the first fault of its config. -/
theorem addNamed_error? (pool : Pool) {name : String} {c : Config}
    (hc : d.conditions.find? name = some c) :
    (d.addNamed r pool name).error? = (c.fault? pool.knows).map (.resourceConstruction name) := by
  unfold addNamed
  simp only [hc]
  rw [Attempt.error?_mapError, Pool.add, Attempt.error?_bind_none fun _ => rfl,
    Config.build_error?]

/-- One name: it is built and put in, or its config has a fault. -/
theorem addNamed_spec {pool : Pool} {names : List String} (hpool : d.Holds pool names)
    {name : String} (hready : ∀ target, d.Refers name target → target ∈ names) :
    (∃ pool', (d.addNamed r pool name).result = .ok pool' ∧ d.Holds pool' (name :: names) ∧
      ∀ c, d.conditions.find? name = some c → c.fault? d.declares = none) ∨
    ∃ c source, (d.addNamed r pool name).result = .error (.resourceConstruction name source) ∧
      d.conditions.find? name = some c ∧ c.fault? d.declares = some source := by
  cases hresult : (d.addNamed r pool name).result with
  | ok pool' =>
    refine Or.inl ⟨pool', rfl, ?_, ?_⟩
    · intro n
      rcases added hresult with ⟨hnone, rfl⟩ | ⟨c, built, hc, _, rfl⟩
      · -- The name is not declared, and so it is not in the pool.
        have hnot : name ∉ d.conditions.keys := Dictionary.find?_eq_none.mp hnone
        rw [hpool n, List.mem_cons]
        constructor
        · rintro ⟨hn, hkey⟩
          exact ⟨Or.inr hn, hkey⟩
        · rintro ⟨hn, hkey⟩
          exact ⟨hn.resolve_left fun heq => hnot (heq ▸ hkey), hkey⟩
      · have hkey := Dictionary.mem_keys_of_find? hc
        rw [Pool.knows_insert, hpool n, List.mem_cons]
        constructor
        · rintro (rfl | ⟨hn, hkey'⟩)
          · exact ⟨Or.inl rfl, hkey⟩
          · exact ⟨Or.inr hn, hkey'⟩
        · rintro ⟨hn, hkey'⟩
          exact hn.imp_right fun hn => ⟨hn, hkey'⟩
    · intro c hc
      have herror := addNamed_error? (r := r) pool hc
      rw [fault?_holds hpool hready hc, Attempt.error?, hresult] at herror
      exact Option.map_eq_none_iff.mp herror.symm
  | error e =>
    cases hc : d.conditions.find? name with
    | none =>
      unfold addNamed at hresult
      simp only [hc] at hresult
      cases hresult
    | some c =>
      have herror := addNamed_error? (r := r) pool hc
      rw [fault?_holds hpool hready hc, Attempt.error?, hresult] at herror
      obtain ⟨source, hsource, he⟩ := Option.map_eq_some_iff.mp herror.symm
      exact Or.inr ⟨c, source, by rw [he], rfl, hsource⟩

/-- **Names in order**: all are built, or one has a config with a fault of its
    own. -/
theorem addAll_spec {names before : List String} {pool : Pool} (hpool : d.Holds pool before)
    (hsettled : d.Settled (names.reverse ++ before)) :
    (∃ pool', (d.addAll r pool names).result = .ok pool' ∧
      d.Holds pool' (names.reverse ++ before) ∧
      ∀ name ∈ names, ∀ c, d.conditions.find? name = some c → c.fault? d.declares = none) ∨
    ∃ name c source, (d.addAll r pool names).result = .error (.resourceConstruction name source) ∧
      d.conditions.find? name = some c ∧ c.fault? d.declares = some source := by
  -- The names that were built are those in front, the newest first.
  induction names generalizing before pool with
  | nil => exact Or.inl ⟨pool, rfl, hpool, nofun⟩
  | cons name names ih =>
    rw [List.reverse_cons, List.append_assoc, List.singleton_append] at hsettled ⊢
    have hready := (settled_append hsettled).1
    rw [addAll, Attempt.bind]
    rcases addNamed_spec (r := r) hpool hready with
      ⟨pool', hresult, hpool', hfine⟩ | ⟨c, source, hresult, hc, hfault⟩
    · simp only [hresult]
      rcases ih hpool' hsettled with ⟨pool'', hrest, hpool'', hfines⟩ | hfails
      · refine Or.inl ⟨pool'', hrest, hpool'', ?_⟩
        intro n hn
        rcases List.mem_cons.mp hn with rfl | hn
        · exact hfine
        · exact hfines n hn
      · exact Or.inr hfails
    · simp only [hresult]
      exact Or.inr ⟨name, c, source, rfl, hc, hfault⟩

/-! ## Section 3: All declarations -/

theorem holds_empty (d : Declarations) : d.Holds .empty [] := by
  intro name
  constructor
  · intro h
    cases h
  · rintro ⟨h, _⟩
    cases h

/-- What came of building declarations. -/
theorem build_spec (d : Declarations) (r : Registry) :
    (∃ pool, (d.build r).result = .ok pool ∧ pool.names = d.conditions.keys ∧ d.Acyclic ∧
      ∀ name c, d.conditions.find? name = some c → c.fault? d.declares = none) ∨
    (∃ name, (d.build r).result = .error (.invalidConfig (.selfReference name)) ∧
      d.DependsOn name name) ∨
    ∃ name c source, (d.build r).result = .error (.resourceConstruction name source) ∧
      d.Acyclic ∧ d.conditions.find? name = some c ∧ c.fault? d.declares = some source := by
  unfold build
  rcases d.order_spec with ⟨names, horder, hsettled, hmem, hacyclic⟩ | ⟨name, horder, hcycle⟩
  · rw [horder]
    show (∃ pool, (d.addAll r .empty names).result = _ ∧ _) ∨
      (∃ name, (d.addAll r .empty names).result = _ ∧ _) ∨
      ∃ name c source, (d.addAll r .empty names).result = _ ∧ _
    have hspec := addAll_spec (r := r) d.holds_empty
      (show d.Settled (names.reverse ++ []) by rwa [List.append_nil])
    rcases hspec with ⟨pool, hresult, hpool, hfine⟩ | ⟨name, c, source, hresult, hc, hfault⟩
    · refine Or.inl ⟨pool, hresult, ?_, hacyclic, ?_⟩
      · apply Dictionary.keys_eq
        intro name
        have hknown : name ∈ pool.conditions.keys ↔ pool.knows name = true :=
          Dictionary.contains_iff.symm
        rw [hknown, hpool name, List.append_nil, List.mem_reverse]
        exact ⟨fun h => h.2, fun h => ⟨hmem name h, h⟩⟩
      · intro name c hc
        exact hfine name (hmem name (Dictionary.mem_keys_of_find? hc)) c hc
    · exact Or.inr (Or.inr ⟨name, c, source, hresult, hacyclic, hc, hfault⟩)
  · rw [horder]
    exact Or.inr (Or.inl ⟨name, rfl, hcycle⟩)

/-- **Which declarations are accepted.**  They can be built if and only if no
    name refers to itself, directly or through others, and no config has a
    fault where all declared names are known.  Then these names are what the
    pool has.  Declarations that are refused are an invalid config: for a
    name that depends on itself if there is any, whatever else is wrong, and
    otherwise for the fault of a config of their own. -/
theorem build_iff (d : Declarations) (r : Registry) :
    ((∃ pool, (d.build r).result = .ok pool) ↔
      d.Acyclic ∧ ∀ name c, d.conditions.find? name = some c → c.fault? d.declares = none) ∧
    (∀ pool, (d.build r).result = .ok pool → pool.names = d.conditions.keys) ∧
    ∀ e, (d.build r).result = .error e → e.category = .invalidConfig ∧
      (¬d.Acyclic → ∃ name, e = .invalidConfig (.selfReference name) ∧ d.DependsOn name name) ∧
      (d.Acyclic → ∃ name c source, e = .resourceConstruction name source ∧
        d.conditions.find? name = some c ∧ c.fault? d.declares = some source) := by
  rcases d.build_spec r with ⟨pool, hresult, hnames, hacyclic, hfine⟩ |
    ⟨name, hresult, hcycle⟩ | ⟨name, c, source, hresult, hacyclic, hc, hfault⟩
  · rw [hresult]
    refine ⟨⟨fun _ => ⟨hacyclic, hfine⟩, fun _ => ⟨pool, rfl⟩⟩, ?_, nofun⟩
    intro pool' heq
    cases heq
    exact hnames
  · rw [hresult]
    refine ⟨⟨nofun, fun h => absurd hcycle (h.1 name)⟩, nofun, ?_⟩
    intro e heq
    cases heq
    exact ⟨rfl, fun _ => ⟨name, rfl, hcycle⟩, fun h => absurd hcycle (h name)⟩
  · rw [hresult]
    refine ⟨⟨nofun, ?_⟩, nofun, ?_⟩
    · rintro ⟨_, hall⟩
      rw [hall name c hc] at hfault
      cases hfault
    · intro e heq
      cases heq
      exact ⟨rfl, fun h => absurd hacyclic h, fun _ => ⟨name, c, source, rfl, hc, hfault⟩⟩

end Declarations

end BatchFilter
