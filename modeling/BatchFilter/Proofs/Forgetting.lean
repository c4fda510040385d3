import BatchFilter.Proofs.Acceptance
import BatchFilter.Settings.Written

/-! # Sections That Are Not Read

    A config has a section for every type of condition and reads the one of
    its own.  What the others hold makes no difference to anything: a config
    with defaults in their place (`Config.reset`) says the same, and so the
    same is built from it, counters and errors included.

    * `Config.clause_reset`: a config says the same as before.
    * `Settings.build_reset`: the same is built.
    * `Config.documented_nodes`: what can be documented.
    * `Settings.documented_of_build`: what can be built can be documented. -/

namespace BatchFilter

/-! ## Section 1: Defaults in place of what is not read -/

namespace Config

mutual

/-- The config with the defaults for all sections but the one its type reads,
    at every level that is read. -/
def reset : Config → Config
  | ⟨kind, static, text, metadata, all, any, not, resource⟩ =>
      match Kind.ofName? kind with
      | none => ofKind kind
      | some .static => { ofKind kind with static := static }
      | some .text => { ofKind kind with text := text }
      | some .metadata => { ofKind kind with metadata := metadata }
      | some .all => { ofKind kind with all := resetAll all }
      | some .any => { ofKind kind with any := resetAll any }
      | some .not => { ofKind kind with not := reset? not }
      | some .resource => { ofKind kind with resource := resource }

/-- Configs with defaults. -/
def resetAll : List Config → List Config
  | [] => []
  | c :: rest => c.reset :: resetAll rest

/-- A config with defaults, if there is one. -/
def reset? : Option Config → Option Config
  | none => none
  | some c => some c.reset

end

mutual

/-- It is the config that says just what the config says. -/
theorem config_clause : ∀ c : Config, c.clause.config = c.reset
  | ⟨kind, static, text, metadata, all, any, child, resource⟩ => by
      -- The name of the type decides which section is told.
      rw [clause, reset]
      cases hk : Kind.ofName? kind with
      | none => rfl
      | some k =>
        obtain rfl := Kind.ofName?_eq hk
        cases k with
        | static => rfl
        | text => rfl
        | metadata => rfl
        | resource => rfl
        | all =>
          show Clause.config (.all (clauses all)) = _
          rw [Clause.config, configs_clauses all]
          rfl
        | any =>
          show Clause.config (.any (clauses any)) = _
          rw [Clause.config, configs_clauses any]
          rfl
        | not =>
          show Clause.config (.not (clause? child)) = _
          rw [Clause.config, config?_clause? child]
          rfl

theorem configs_clauses : ∀ cs : List Config, Clause.configs (clauses cs) = resetAll cs
  | [] => rfl
  | c :: rest => by
      rw [clauses, Clause.configs, resetAll, config_clause c, configs_clauses rest]

theorem config?_clause? : ∀ c : Option Config, Clause.config? (clause? c) = reset? c
  | none => rfl
  | some c => congrArg some (config_clause c)

end

mutual

/-- **A config says the same** with defaults in place of what it does not
    read. -/
theorem clause_reset : ∀ c : Config, c.reset.clause = c.clause
  | ⟨kind, static, text, metadata, all, any, child, resource⟩ => by
      rw [clause, reset]
      cases hk : Kind.ofName? kind with
      | none =>
        -- Nobody knows the type after the reset either.
        show clause (ofKind kind) = _
        rw [ofKind, clause, hk]
      | some k =>
        obtain rfl := Kind.ofName?_eq hk
        cases k with
        | static => rfl
        | text => rfl
        | metadata => rfl
        | resource => rfl
        | all => exact congrArg Clause.all (clauses_reset all)
        | any => exact congrArg Clause.any (clauses_reset any)
        | not => exact congrArg Clause.not (clause?_reset child)

theorem clauses_reset : ∀ cs : List Config, clauses (resetAll cs) = clauses cs
  | [] => rfl
  | c :: rest => by rw [resetAll, clauses, clauses, clause_reset c, clauses_reset rest]

theorem clause?_reset : ∀ c : Option Config, clause? (reset? c) = clause? c
  | none => rfl
  | some c => congrArg some (clause_reset c)

end

/-- What is below a section that is not read is forgotten with it. -/
example :
    reset { kind := "and", all := [{ kind := "not", static := false }], any := [{}], resource := "a" }
      = { kind := "and", all := [{ kind := "not" }] } := by
  rfl

theorem kind_reset (c : Config) : c.reset.kind = c.kind := by
  obtain ⟨kind, static, text, metadata, all, any, child, resource⟩ := c
  rw [reset]
  split <;> rfl

theorem build_reset (pool : Pool) (r : Registry) (c : Config) :
    c.reset.build pool r = c.build pool r := by
  unfold build depth
  rw [clause_reset]

theorem documented_reset (c : Config) : c.reset.documented = c.documented := by
  unfold documented
  rw [clause_reset]

end Config

namespace Declarations

/-- Declarations with defaults in place of what is not read. -/
def reset (d : Declarations) : Declarations :=
  ⟨d.conditions.map Config.reset⟩

theorem clauses_reset (d : Declarations) : d.reset.clauses = d.clauses := by
  have hclause : (Config.clause ∘ Config.reset) = Config.clause := funext Config.clause_reset
  show (d.conditions.map Config.reset).map Config.clause = d.conditions.map Config.clause
  rw [Dictionary.map_map, hclause]

theorem order_reset (d : Declarations) : d.reset.order = d.order := by
  have hkeys : d.reset.conditions.keys = d.conditions.keys := Dictionary.keys_map _ _
  unfold order
  rw [clauses_reset, hkeys]

theorem addNamed_reset (d : Declarations) (r : Registry) (pool : Pool) (name : String) :
    d.reset.addNamed r pool name = d.addNamed r pool name := by
  have hfind : d.reset.conditions.find? name = (d.conditions.find? name).map Config.reset :=
    Dictionary.find?_map _ _ _
  unfold addNamed
  rw [hfind]
  cases d.conditions.find? name with
  | none => rfl
  | some c =>
    show (pool.add r name c.reset).mapError _ = (pool.add r name c).mapError _
    rw [Pool.add, Config.build_reset]
    rfl

theorem addAll_reset (d : Declarations) (r : Registry) (names : List String) (pool : Pool) :
    d.reset.addAll r pool names = d.addAll r pool names := by
  induction names generalizing pool with
  | nil => rfl
  | cons name names ih =>
    rw [addAll, addAll, addNamed_reset]
    exact congrArg _ (funext ih)

theorem build_reset (d : Declarations) (r : Registry) : d.reset.build r = d.build r := by
  unfold build
  rw [order_reset]
  exact congrArg _ (funext fun names => d.addAll_reset r names .empty)

theorem documented_reset (d : Declarations) : d.reset.documented = d.documented := by
  show (d.conditions.entries.map fun e => (e.1, e.2.reset)).mapM _ = d.conditions.entries.mapM _
  rw [List.mapM_map]
  apply congrArg (List.mapM · d.conditions.entries)
  funext e
  rw [Function.comp_apply, Config.documented_reset]

end Declarations

namespace Settings

/-- Settings with defaults in place of what is not read. -/
def reset (s : Settings) : Settings where
  processor := ⟨s.processor.kind, s.processor.condition.reset⟩
  resources := s.resources.reset

/-- **The same is built** from settings with defaults in place of what is not
    read: the same stage with the same counters, or the same error. -/
theorem build_reset (s : Settings) (r : Registry) : s.reset.build r = s.build r := by
  have hstage : ∀ pool, s.reset.processor.build pool r = s.processor.build pool r := by
    intro pool
    unfold StageConfig.build Stage.build reset
    simp only [Config.build_reset, Config.kind_reset]
  unfold build
  rw [show s.reset.resources = s.resources.reset from rfl, Declarations.build_reset]
  exact congrArg _ (funext hstage)

theorem documented_reset (s : Settings) : s.reset.documented = s.documented := by
  have hprocessor : s.reset.processor.documented = s.processor.documented := by
    unfold StageConfig.documented reset
    simp only [Config.documented_reset]
  unfold documented
  rw [show s.reset.resources = s.resources.reset from rfl, Declarations.documented_reset,
    hprocessor]

end Settings

/-! ## Section 2: What can be documented -/

/-- Of two steps the first that fails is what fails. -/
theorem Error.of?_bind {α β : Type} {x : Except Error α} {f : α → Except Error β}
    {e : Option Error} (h : ∀ a, Error.of? (f a) = e) : Error.of? (x >>= f) = (Error.of? x).or e := by
  cases x with
  | error e' => rfl
  | ok a => exact h a

namespace Config

/-- The error of a type nobody knows. -/
def unknown? (c : Config) : Option Error :=
  if (Kind.ofName? c.kind).isSome then none else some (.unknownConditionType c.kind)

mutual

/-- **Documenting fails with the first type nobody knows**, and only then. -/
theorem documented_nodes : ∀ c : Config,
    Error.of? c.clause.documented = c.nodes.findSome? unknown?
  | ⟨kind, static, text, metadata, all, any, child, resource⟩ => by
      rw [clause]
      cases hk : Kind.ofName? kind with
      | none =>
        obtain ⟨h₁, h₂, h₃, h₄, h₅, h₆, h₇⟩ := ofName?_eq_none hk
        simp [Clause.documented, nodes, unknown?, hk, Error.of?]
      | some k =>
        obtain rfl := Kind.ofName?_eq hk
        cases k with
        | static => rfl
        | text => rfl
        | metadata => rfl
        | resource => rfl
        | all =>
          show Error.of? ((Clause.documentedAll (clauses all)).map _)
            = (nodesAll all).findSome? unknown?
          rw [Error.of?_map, documentedAll_nodes all]
        | any =>
          show Error.of? ((Clause.documentedAll (clauses any)).map _)
            = (nodesAll any).findSome? unknown?
          rw [Error.of?_map, documentedAll_nodes any]
        | not =>
          show Error.of? ((Clause.documented? (clause? child)).map _)
            = (nodes? child).findSome? unknown?
          rw [Error.of?_map, documented?_nodes child]

theorem documentedAll_nodes : ∀ cs : List Config,
    Error.of? (Clause.documentedAll (clauses cs)) = (nodesAll cs).findSome? unknown?
  | [] => rfl
  | c :: rest => by
      rw [clauses, Clause.documentedAll, nodesAll, List.findSome?_append, ← documented_nodes c,
        ← documentedAll_nodes rest]
      apply Error.of?_bind
      intro first
      exact (Error.of?_bind (e := none) fun _ => rfl).trans Option.or_none

theorem documented?_nodes : ∀ c : Option Config,
    Error.of? (Clause.documented? (clause? c)) = (nodes? c).findSome? unknown?
  | none => rfl
  | some c => documented_nodes c

end

/-- What can be built can be documented, whatever names are known. -/
theorem documented_of_fault? {known : String → Bool} {c : Config} (h : c.fault? known = none) :
    ∃ j, c.documented = .ok j := by
  apply Error.of?_eq_none.mp
  refine (documented_nodes c).trans ?_
  unfold fault? at h
  split at h
  · rw [List.findSome?_eq_none_iff] at h ⊢
    intro n hn
    have hfine := h n hn
    unfold unknown?
    cases hk : Kind.ofName? n.kind with
    | some k => rfl
    | none =>
      -- Nobody builds a type that nobody knows.
      obtain ⟨h₁, h₂, h₃, h₄, h₅, h₆, h₇⟩ := ofName?_eq_none hk
      simp [ownFault?] at hfine
  · cases h

theorem documented_of_build {pool : Pool} {r : Registry} {c : Config} {cond : Condition}
    (h : (c.build pool r).result = .ok cond) : ∃ j, c.documented = .ok j := by
  have herror := build_error? pool r c
  rw [Attempt.error?, h] at herror
  exact documented_of_fault? herror.symm

end Config

/-- Entries all of which can be documented. -/
theorem mapM_documented {es : List (String × Config)}
    (h : ∀ e ∈ es, ∃ j, e.2.documented = .ok j) :
    ∃ js, es.mapM (fun e => e.2.documented.map fun j => (e.1, j)) = .ok js := by
  induction es with
  | nil => exact ⟨[], rfl⟩
  | cons e es ih =>
    obtain ⟨j, hj⟩ := h e List.mem_cons_self
    obtain ⟨js, hjs⟩ := ih fun e' he' => h e' (List.mem_cons_of_mem e he')
    refine ⟨(e.1, j) :: js, ?_⟩
    rw [List.mapM_cons, hj, hjs]
    rfl

theorem Declarations.documented_of_build {d : Declarations} {r : Registry} {pool : Pool}
    (h : (d.build r).result = .ok pool) : ∃ js, d.documented = .ok js := by
  apply mapM_documented
  intro e he
  have hfind := Dictionary.find?_of_mem he
  -- Each config is without a fault where all declared names are known.
  rcases d.build_spec r with ⟨_, _, _, _, hfine⟩ | ⟨_, herror, _⟩ | ⟨_, _, _, herror, _⟩
  · exact Config.documented_of_fault? (hfine e.1 e.2 hfind)
  · rw [h] at herror
    cases herror
  · rw [h] at herror
    cases herror

theorem StageConfig.documented_of_build {pool : Pool} {r : Registry} {c : StageConfig}
    {stage : Stage} (h : (c.build pool r).result = .ok stage) : ∃ j, c.documented = .ok j := by
  unfold StageConfig.build at h
  unfold documented
  split at h
  · rename_i hkind
    obtain ⟨cond, hcond, _⟩ := Attempt.bind_ok h
    obtain ⟨j, hj⟩ := Config.documented_of_build (Attempt.mapError_ok hcond)
    rw [if_pos hkind, hj]
    exact ⟨_, rfl⟩
  · cases h

/-- **Settings that can be built can be documented.** -/
theorem Settings.documented_of_build {s : Settings} {r : Registry} {stage : Stage}
    (h : (s.build r).result = .ok stage) : ∃ j, s.documented = .ok j := by
  obtain ⟨pool, hpool, hstage⟩ := Attempt.bind_ok h
  obtain ⟨conditions, hconditions⟩ := Declarations.documented_of_build hpool
  obtain ⟨processor, hprocessor⟩ := StageConfig.documented_of_build hstage
  unfold documented
  rw [hconditions, hprocessor]
  exact ⟨_, rfl⟩

end BatchFilter
