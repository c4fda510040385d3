import BatchFilter.CommandLine.Execute
import BatchFilter.Proofs.Building
import BatchFilter.Proofs.Sums
import BatchFilter.Service

/-! # Whom It Is Counted For

    Where a stage counts is nothing to what it does.  Two conditions are alike
    if they differ in their counters only; whatever registries are used, what is
    built from the same config is alike, node by node and name by name, or fails
    with the same error.  Alike stages then answer alike, and no sum is ever
    looked at.  So a config that passes a check, which counts nothing, is one
    that a run can start with, and the other way round.

    * `Condition.silent`: a condition without its counters.
    * `Attempt.Alike`: attempts that come to the same.
    * `Clause.build_alike`, `Settings.build_alike`: building with two registries.
    * `Stage.serve_outcomes`: a stage at work does what it is said to do.
    * `World.started`: whether a run with a config starts.
    * `Settings.registries_indifferent`: no registry makes a difference. -/

namespace BatchFilter

/-! ## Section 1: Conditions without counters -/

/-- Counters that count nothing. -/
def Tally.silent : Tally := ⟨.discarded, .discarded, .discarded⟩

namespace Condition

mutual

/-- The condition without its counters. -/
def silent : Condition → Condition
  | .leaf test _ => .leaf test .silent
  | .all children => .all (silentAll children)
  | .any children => .any (silentAll children)
  | .not child => .not child.silent
  | .shared target => .shared target.silent

/-- Conditions without their counters. -/
def silentAll : List Condition → List Condition
  | [] => []
  | c :: rest => c.silent :: silentAll rest

end

mutual

/-- **A condition holds with and without its counters** for the same parts. -/
theorem holds_silent (s : SinglePart) : ∀ c : Condition, c.silent.holds s = c.holds s
  | .leaf test tally => by
      rw [silent, holds_leaf, holds_leaf]
  | .all children => by
      rw [silent, holds_all, holds_all, (holds_silentAll s children).1]
  | .any children => by
      rw [silent, holds_any, holds_any, (holds_silentAll s children).2]
  | .not child => by
      rw [silent, holds_not, holds_not, holds_silent s child]
  | .shared target => by
      rw [silent, holds_shared, holds_shared, holds_silent s target]

theorem holds_silentAll (s : SinglePart) : ∀ cs : List Condition,
    (silentAll cs).all (·.holds s) = cs.all (·.holds s) ∧
      (silentAll cs).any (·.holds s) = cs.any (·.holds s)
  | [] => ⟨rfl, rfl⟩
  | c :: rest => by
      obtain ⟨hall, hany⟩ := holds_silentAll s rest
      rw [silentAll, List.all_cons, List.any_cons, List.all_cons, List.any_cons,
        holds_silent s c, hall, hany]
      exact ⟨rfl, rfl⟩

end

end Condition

namespace Pool

/-- The conditions of a pool without their counters. -/
def silent (pool : Pool) : Pool :=
  ⟨pool.conditions.map Condition.silent⟩

theorem find?_silent (pool : Pool) (name : String) :
    pool.silent.find? name = (pool.find? name).map Condition.silent :=
  Dictionary.find?_map Condition.silent pool.conditions name

theorem insert_silent (pool : Pool) (name : String) (c : Condition) :
    (pool.insert name c).silent = pool.silent.insert name c.silent := by
  have hfind : ∀ n, (pool.insert name c).silent.find? n
      = (pool.silent.insert name c.silent).find? n := by
    intro n
    rw [find?_silent, find?_insert, find?_insert, find?_silent]
    split <;> rfl
  exact congrArg Pool.mk (Dictionary.ext_find? hfind)

end Pool

/-! ## Section 2: Attempts that come to the same -/

namespace Attempt

variable {α β γ δ : Type}

/-- Two attempts of which neither or both fail, with the same error, and which
    else come to what looks the same. -/
def Alike (view : α → β) (x y : Attempt α) : Prop :=
  x.result.map view = y.result.map view

theorem alike_pure {view : α → β} {a a' : α} (h : view a = view a') :
    Alike view (pure a) (pure a') :=
  congrArg Except.ok h

theorem alike_refl (view : α → β) (x : Attempt α) : Alike view x x := rfl

/-- Steps that go on from what looks the same to what looks the same. -/
theorem alike_bind {view : α → β} {view' : γ → δ} {x y : Attempt α} {f g : α → Attempt γ}
    (h : Alike view x y) (hstep : ∀ a a', view a = view a' → Alike view' (f a) (g a')) :
    Alike view' (x.bind f) (y.bind g) := by
  unfold Alike at h ⊢
  unfold Attempt.bind
  cases hx : x.result with
  | error e =>
    cases hy : y.result with
    | error e' =>
      simp only [hx, hy, Except.map, Except.error.injEq] at h
      simp [Except.map, h]
    | ok a' => simp [hx, hy, Except.map] at h
  | ok a =>
    cases hy : y.result with
    | error e' => simp [hx, hy, Except.map] at h
    | ok a' =>
      simp only [hx, hy, Except.map, Except.ok.injEq] at h
      exact hstep a a' h

theorem alike_mapError {view : α → β} {x y : Attempt α} (h : Alike view x y) (f : Error → Error) :
    Alike view (x.mapError f) (y.mapError f) := by
  unfold Alike at h ⊢
  unfold mapError
  cases hx : x.result <;> cases hy : y.result <;> simp_all [Except.map]

end Attempt

/-! ## Section 3: What is built is alike -/

theorem Pool.resolve_alike {pool pool' : Pool} (hpool : pool.silent = pool'.silent)
    (name : String) :
    Attempt.Alike Condition.silent (.ofExcept (pool.resolve name))
      (.ofExcept (pool'.resolve name)) := by
  have hfind : (pool.find? name).map Condition.silent
      = (pool'.find? name).map Condition.silent := by
    rw [← find?_silent, ← find?_silent, hpool]
  unfold Attempt.Alike Attempt.ofExcept resolve
  cases h : pool.find? name <;> cases h' : pool'.find? name <;> simp_all [Except.map]

namespace Clause

variable {pool pool' : Pool}

/-- Leaves for the same test only differ in their counters. -/
theorem buildLeaf_alike (r r' : Registry) (kind : Kind) (test : Test) :
    Attempt.Alike Condition.silent (buildLeaf r kind test) (buildLeaf r' kind test) := by
  show Except.ok _ = Except.ok _
  rw [Condition.silent, Condition.silent]

mutual

/-- **What is built from a clause is alike**, whatever registries it is built
    with, if the pools are. -/
theorem build_alike (hpool : pool.silent = pool'.silent) : ∀ (c : Clause) (r r' : Registry),
    Attempt.Alike Condition.silent (c.build pool r) (c.build pool' r')
  | .unknown kind, r, r' => rfl
  | .static value, r, r' => buildLeaf_alike r r' .static (.static value)
  | .text s, r, r' => by
      rw [build, build]
      apply Attempt.alike_bind (Attempt.alike_refl id _)
      rintro test _ rfl
      exact buildLeaf_alike r r' .text test
  | .metadata s, r, r' => by
      rw [build, build]
      apply Attempt.alike_bind (Attempt.alike_refl id _)
      rintro test _ rfl
      exact buildLeaf_alike r r' .metadata test
  | .all children, r, r' => by
      rw [build, build]
      apply Attempt.alike_bind (Attempt.alike_refl id _)
      rintro _ _ _
      apply Attempt.alike_bind (buildAll_alike hpool children r r' .all 0)
      intro cs cs' hcs
      apply Attempt.alike_pure
      rw [Condition.silent, Condition.silent, hcs]
  | .any children, r, r' => by
      rw [build, build]
      apply Attempt.alike_bind (Attempt.alike_refl id _)
      rintro _ _ _
      apply Attempt.alike_bind (buildAll_alike hpool children r r' .any 0)
      intro cs cs' hcs
      apply Attempt.alike_pure
      rw [Condition.silent, Condition.silent, hcs]
  | .not child, r, r' => by
      rw [build, build]
      apply Attempt.alike_bind (build?_alike hpool child _ _)
      intro c c' hc
      apply Attempt.alike_pure
      rw [Condition.silent, Condition.silent, hc]
  | .resource name, r, r' => by
      rw [build, build]
      split
      · rfl
      · apply Attempt.alike_bind (Pool.resolve_alike hpool name)
        intro c c' hc
        apply Attempt.alike_pure
        rw [Condition.silent, Condition.silent, hc]

theorem buildAll_alike (hpool : pool.silent = pool'.silent) : ∀ (cs : List Clause)
    (r r' : Registry) (kind : Kind) (i : Nat),
    Attempt.Alike Condition.silentAll (buildAll pool r kind i cs) (buildAll pool' r' kind i cs)
  | [], r, r', kind, i => rfl
  | c :: rest, r, r', kind, i => by
      rw [buildAll, buildAll]
      apply Attempt.alike_bind (build_alike hpool c _ _)
      intro first first' hfirst
      apply Attempt.alike_bind (buildAll_alike hpool rest r r' kind (i + 1))
      intro others others' hothers
      apply Attempt.alike_pure
      rw [Condition.silentAll, Condition.silentAll, hfirst, hothers]

theorem build?_alike (hpool : pool.silent = pool'.silent) : ∀ (child : Option Clause)
    (r r' : Registry),
    Attempt.Alike Condition.silent (build? pool r child) (build? pool' r' child)
  | none, _, _ => rfl
  | some c, r, r' => build_alike hpool c r r'

end

end Clause

section
variable {pool pool' : Pool} (hpool : pool.silent = pool'.silent) (r r' : Registry)
include hpool

theorem Config.build_alike (c : Config) :
    Attempt.Alike Condition.silent (c.build pool r) (c.build pool' r') := by
  unfold build
  split
  · rfl
  · exact Clause.build_alike hpool c.clause r r'

theorem Pool.add_alike (name : String) (c : Config) :
    Attempt.Alike Pool.silent (pool.add r name c) (pool'.add r' name c) := by
  apply Attempt.alike_bind (Config.build_alike hpool _ _ c)
  intro cond cond' hcond
  apply Attempt.alike_pure
  rw [insert_silent, insert_silent, hpool, hcond]

theorem Declarations.addNamed_alike (d : Declarations) (name : String) :
    Attempt.Alike Pool.silent (d.addNamed r pool name) (d.addNamed r' pool' name) := by
  unfold addNamed
  cases d.conditions.find? name with
  | none => exact Attempt.alike_pure hpool
  | some c => exact Attempt.alike_mapError (Pool.add_alike hpool r r' name c) _

theorem Declarations.addAll_alike (d : Declarations) (names : List String) :
    Attempt.Alike Pool.silent (d.addAll r pool names) (d.addAll r' pool' names) := by
  induction names generalizing pool pool' with
  | nil => exact Attempt.alike_pure hpool
  | cons name names ih =>
    apply Attempt.alike_bind (d.addNamed_alike hpool r r' name)
    intro added added' hadded
    exact ih hadded

/-- Alike stages have alike conditions. -/
theorem StageConfig.build_alike (c : StageConfig) :
    Attempt.Alike (·.condition.silent) (c.build pool r) (c.build pool' r') := by
  unfold build
  split
  · apply Attempt.alike_bind
      (Attempt.alike_mapError (Config.build_alike hpool _ _ c.condition) _)
    intro cond cond' hcond
    exact Attempt.alike_pure hcond
  · rfl

end

/-- **The same stage is built with any two registries**, but for its counters,
    or the same error stops both. -/
theorem Settings.build_alike (s : Settings) (r r' : Registry) :
    Attempt.Alike (·.condition.silent) (s.build r) (s.build r') := by
  have hdeclared : Attempt.Alike Pool.silent (s.resources.build r) (s.resources.build r') := by
    apply Attempt.alike_bind (Attempt.alike_refl id _)
    rintro names _ rfl
    exact s.resources.addAll_alike rfl r r' names
  apply Attempt.alike_bind hdeclared
  intro pool pool' hpool
  exact s.processor.build_alike hpool r r'

/-! ## Section 4: Stages at work -/

namespace Stage

variable (s : Stage)

/-- Tested one by one, the parts that are kept are those the stage keeps. -/
theorem sift_kept (l : Ledger) (ps : List Part) :
    (s.sift l ps).2 = ps.filter fun p => s.condition.holds ⟨p⟩ := by
  induction ps generalizing l with
  | nil => rfl
  | cons p ps ih =>
    have hverdict : ∀ l : Ledger, (l.check s.condition ⟨p⟩).2 = s.condition.holds ⟨p⟩ :=
      fun _ => rfl
    show (if (l.check s.condition ⟨p⟩).2 = true then _ else _ : Ledger × List Part).2 = _
    rw [hverdict]
    cases h : s.condition.holds ⟨p⟩ with
    | true =>
      simp only [List.filter_cons, h]
      exact congrArg (p :: ·) (ih _)
    | false =>
      simp only [List.filter_cons, h]
      exact ih _

/-- **A stage at work does what it is said to do**, whatever was counted
    before. -/
theorem handle_outcome (l : Ledger) (b : Batch) : (s.handle l b).2 = s.process b := by
  have hkept : (s.sift (l.add ⟨s.tally.count, 1⟩) b.parts).2 = s.kept b := s.sift_kept _ _
  unfold process outcome
  rw [handle_eq, ← hkept]
  dsimp only
  split <;> rfl

/-- One batch after another: no outcome depends on what came before. -/
theorem serve_outcomes (l : Ledger) (bs : List Batch) : (s.serve l bs).2 = bs.map s.process := by
  induction bs generalizing l with
  | nil => rfl
  | cons b bs ih =>
    show (s.handle l b).2 :: (s.serve (s.handle l b).1 bs).2 = _
    rw [handle_outcome, ih, List.map_cons]

/-- Alike stages process a batch alike: only their verdicts decide. -/
theorem process_alike {s s' : Stage} (h : s.condition.silent = s'.condition.silent) :
    s.process = s'.process := by
  funext b
  unfold process kept
  have hverdict : ∀ p : Part, s.condition.holds ⟨p⟩ = s'.condition.holds ⟨p⟩ := by
    intro p
    rw [← Condition.holds_silent, h, Condition.holds_silent]
  simp only [hverdict]

end Stage

/-- What comes of settings that are started in a ledger and handle batches:
    the outcomes, or the error that stopped the start. -/
def Settings.answers (s : Settings) (r : Registry) (l : Ledger) (bs : List Batch) :
    Except Error (List Outcome) :=
  match s.start r l with
  | (_, .error e) => .error e
  | (l, .ok stage) => .ok (stage.serve l bs).2

/-- What comes of settings is what is built, and what that does. -/
theorem Settings.answers_eq (s : Settings) (r : Registry) (l : Ledger) (bs : List Batch) :
    s.answers r l bs = (s.build r).result.map fun stage => bs.map stage.process := by
  unfold answers start
  cases h : (s.build r).result with
  | error e => simp only [h, Except.map]
  | ok stage => simp only [h, Except.map, stage.serve_outcomes]

/-- The same comes of settings with any two registries. -/
theorem Settings.answers_congr (s : Settings) (r r' : Registry) (l l' : Ledger)
    (bs : List Batch) : s.answers r l bs = s.answers r' l' bs := by
  have halike := s.build_alike r r'
  unfold Attempt.Alike at halike
  rw [answers_eq, answers_eq]
  cases h : (s.build r).result <;> cases h' : (s.build r').result <;>
    simp only [h, h', Except.map, Except.error.injEq, Except.ok.injEq, reduceCtorEq] at halike
  · rw [halike]
  · simp only [Except.map, Stage.process_alike halike]

/-! ## Section 5: Checking a config, and running with it -/

namespace World

variable {α β : Type}

/-- One action after another: the second is taken if the first succeeds, in
    the world that the first leaves. -/
theorem run_bind (x : ExceptT Error (StateM World) α) (f : α → ExceptT Error (StateM World) β)
    (w : World) : (x >>= f).run.run w = match x.run.run w with
      | (.error e, w) => (.error e, w)
      | (.ok a, w) => (f a).run.run w := by
  rw [ExceptT.run_bind, StateT.run_bind]
  cases h : x.run.run w with
  | mk r w' => cases r <;> rfl

/-- Actions that only look at the system, and leave it as it is. -/
def OnlyLooks (x : ExceptT Error (StateM World) α) : Prop :=
  ∀ w : World, (x.run.run w).2 = w

theorem onlyLooks_bind {x : ExceptT Error (StateM World) α}
    {f : α → ExceptT Error (StateM World) β} (hx : OnlyLooks x) (hf : ∀ a, OnlyLooks (f a)) :
    OnlyLooks (x >>= f) := by
  intro w
  have hw := hx w
  rw [run_bind]
  cases h : x.run.run w with
  | mk r w' =>
    rw [h] at hw
    subst hw
    cases r with
    | error e => rfl
    | ok a => exact hf a w'

/-- Looking for a config file and reading it leaves everything as it is. -/
theorem onlyLooks_load (config : String) : OnlyLooks (World.host.load config) := by
  refine onlyLooks_bind ?_ fun real => onlyLooks_bind (fun _ => rfl) ?_
  · refine onlyLooks_bind (fun _ => rfl) ?_
    rintro (e | real)
    · exact fun _ => rfl
    · refine onlyLooks_bind (fun _ => rfl) ?_
      intro status
      split
      · split <;> exact fun _ => rfl
      · exact fun _ => rfl
  · rintro (e | content) <;> exact fun _ => rfl

/-- A step that depends on nothing but an outcome. -/
theorem run_ofExcept (x : Except Error α) (w : World) :
    ((do let _ ← ExceptT.mk (pure x); pure ()) : ExceptT Error (StateM World) Unit).run.run w
      = (x.map fun _ => (), w) := by
  cases x <;> rfl

variable (w : World) (config : String)

/-- The settings in a config file, or why there are none. -/
def settings : Except Error Settings :=
  ((World.host.load config).run.run w).1

theorem load_eq : (World.host.load config).run.run w = (w.settings config, w) :=
  Prod.ext rfl (onlyLooks_load config w)

/-- Why a run with a config does not start, or the stage that it starts with. -/
def started : Except Error Stage :=
  match w.settings config with
  | .error e => .error e
  | .ok s => (s.build (.table 0)).result

variable {w config} in
theorem started_ok {stage : Stage} (h : w.started config = .ok stage) :
    ∃ s, w.settings config = .ok s ∧ (s.build (.table 0)).result = .ok stage := by
  unfold started at h
  cases hs : w.settings config with
  | error e => simp [hs] at h
  | ok s => exact ⟨s, rfl, by simpa only [hs] using h⟩

/-- What a config is checked for is what a run needs to start. -/
theorem lint_of_started (json : Bool) :
    match w.started config with
    | .error e => (World.host.lint json config).run.run w = (.error e, w)
    | .ok _ => ((World.host.lint json config).run.run w).1 = .ok () := by
  unfold started Host.lint
  rw [run_bind, load_eq]
  cases w.settings config with
  | error e => rfl
  | ok s =>
    have halike := s.build_alike .discard (.table 0)
    unfold Attempt.Alike at halike
    dsimp only
    rw [run_bind]
    cases h : (s.build (.table 0)).result <;> cases h' : (s.build .discard).result <;>
      simp only [h, h', Except.map, Except.error.injEq, Except.ok.injEq, reduceCtorEq] at halike
    · rw [← halike]
      rfl
    · rfl

/-- A run with a config fails at once, or gets to what it reads and writes. -/
theorem runStage_of_started (workers : Nat) :
    match w.started config with
    | .error e => ∀ (input output : Option String) (metrics : Bool),
        (World.host.runStage config input output workers metrics).run.run w = (.error e, w)
    | .ok stage =>
        let finished := Run.perform stage.processor workers Limits.lineBytes (w.source none) {}
        (World.host.runStage config none none workers false).run.run w
          = (finished.result.map fun _ => (),
              { w with output := w.output ++ finished.sink.bytes }) := by
  unfold started
  cases hsettings : w.settings config with
  | error e =>
    intro input output metrics
    unfold Host.runStage
    rw [run_bind, load_eq, hsettings]
  | ok s =>
    dsimp only
    cases hbuilt : (s.build (.table 0)).result with
    | error e =>
      intro input output metrics
      unfold Host.runStage
      rw [run_bind, load_eq, hsettings]
      dsimp only
      rw [run_bind, hbuilt]
      rfl
    | ok stage =>
      unfold Host.runStage
      rw [run_bind, load_eq, hsettings]
      dsimp only
      rw [run_bind, hbuilt]
      exact run_ofExcept _ _

end World

/-- **No registry makes a difference.**  With any two registries, in any
    ledgers, the same comes of settings: the same error stops the start, or
    the same outcomes answer the same batches.  So what stops a check of a
    config stops a run with it, before anything is touched; and if the check
    finds nothing, a run is under way: all that is left to it is to read its
    input to the end and write what its stage makes of it. -/
theorem Settings.registries_indifferent :
    (∀ (s : Settings) (r r' : Registry) (l l' : Ledger) (bs : List Batch),
      s.answers r l bs = s.answers r' l' bs) ∧
    ∀ (w : World) (config : String) (json : Bool) (workers : Nat),
      match ((World.host.lint json config).run.run w).1 with
      | .error e =>
          ((World.host.lint json config).run.run w).2 = w ∧
          ∀ (input output : Option String) (metrics : Bool),
            (World.host.runStage config input output workers metrics).run.run w = (.error e, w)
      | .ok () => ∃ s stage, w.settings config = .ok s ∧
          (s.build (.table 0)).result = .ok stage ∧
          let finished := Run.perform stage.processor workers Limits.lineBytes (w.source none) {}
          (World.host.runStage config none none workers false).run.run w
            = (finished.result.map fun _ => (),
                { w with output := w.output ++ finished.sink.bytes }) := by
  refine ⟨answers_congr, ?_⟩
  intro w config json workers
  have hlint := w.lint_of_started config json
  have hrun := w.runStage_of_started config workers
  cases hstarted : w.started config with
  | error e =>
    simp only [hstarted] at hlint hrun
    rw [hlint]
    exact ⟨rfl, hrun⟩
  | ok stage =>
    simp only [hstarted] at hlint hrun
    rw [hlint]
    obtain ⟨s, hs, hbuilt⟩ := World.started_ok hstarted
    exact ⟨s, stage, hs, hbuilt, hrun⟩

end BatchFilter
