import BatchFilter.Proofs.Confluence
import BatchFilter.Proofs.Visits
import BatchFilter.Session

/-! # What Sessions Keep

    A session may declare named conditions all at once, or add them one by one
    in any order in which each comes after those it refers to: it is the same
    session then.  Whoever holds a condition holds it for good.  It answers
    what its config says with the names as they were when it was built,
    whatever these names are given to later.

    * `Session.run_adds`: adding one by one is building in that order.
    * `Session.step_held`, `Session.run_held`: nothing that is held is lost.
    * `Session.add_verdict`: what names say after one was added.
    * `Session.adds_declare_and_held_stays`: both together. -/

namespace BatchFilter

/-! ## Section 1: Ledgers that have the same counters -/

namespace Ledger

theorem registerAll_append (l : Ledger) (ks ks' : List Counter) :
    l.registerAll (ks ++ ks') = (l.registerAll ks).registerAll ks' :=
  List.foldl_append

theorem table?_registerAll (l : Ledger) (ks : List Counter) (id : Nat) :
    ((l.registerAll ks).table? id).isSome = (l.table? id).isSome := by
  induction ks generalizing l with
  | nil => rfl
  | cons k ks ih =>
    show (((l.register k).registerAll ks).table? id).isSome = _
    rw [ih, table?_register]

/-- A ledger is told by its tables and by the sums in them. -/
theorem ext_value? {l l' : Ledger} (htable : ∀ id, (l.table? id).isSome = (l'.table? id).isSome)
    (hvalue : ∀ id path, l.value? id path = l'.value? id path) : l = l' := by
  have htables : l.tables = l'.tables := by
    apply List.ext_getElem?
    intro id
    have hsome := htable id
    have hsums := hvalue id
    unfold value? table? at *
    cases ht : l.tables[id]? with
    | none =>
      rw [ht] at hsome
      have hnone : l'.tables[id]? = none := by simpa using hsome.symm
      rw [hnone]
    | some t =>
      rw [ht] at hsome hsums
      obtain ⟨t', ht'⟩ := Option.isSome_iff_exists.mp hsome.symm
      rw [ht'] at hsums ⊢
      exact congrArg some (Dictionary.ext_find? hsums)
  exact congrArg Ledger.mk htables

/-- In which order counters are registered, and how often, does not matter. -/
theorem registerAll_congr (l : Ledger) {ks ks' : List Counter} (h : ∀ k, k ∈ ks ↔ k ∈ ks') :
    l.registerAll ks = l.registerAll ks' := by
  apply ext_value?
  · intro id
    rw [table?_registerAll, table?_registerAll]
  · intro id path
    by_cases htable : (l.table? id).isSome
    · simp only [value?_registerAll htable, h]
    · -- Without a table there are no sums.
      have hnone : ∀ ks, (l.registerAll ks).value? id path = none := by
        intro ks
        have hmissing : (l.registerAll ks).table? id = none := by
          rw [← Option.not_isSome_iff_eq_none, table?_registerAll]
          exact htable
        rw [value?, hmissing]
        rfl
      rw [hnone, hnone]

end Ledger

/-! ## Section 2: Adding one by one -/

namespace Session

variable {σ : Session}

section
variable {α : Type} {x : Attempt α} {use : Session → α → Session}

theorem attempt_ok (σ : Session) {a : α} (h : x.result = .ok a) :
    σ.attempt x use = (use { σ with ledger := σ.ledger.registerAll x.registered } a, .done) := by
  unfold attempt
  rw [h]

theorem attempt_error (σ : Session) {e : Error} (h : x.result = .error e) :
    σ.attempt x use = ({ σ with ledger := σ.ledger.registerAll x.registered }, .failed e) := by
  unfold attempt
  rw [h]

/-- An attempt that was done succeeded, and what came of it was used. -/
theorem attempt_done (h : (σ.attempt x use).2 = .done) :
    ∃ a, x.result = .ok a ∧
      (σ.attempt x use).1 = use { σ with ledger := σ.ledger.registerAll x.registered } a := by
  cases hx : x.result with
  | ok a => exact ⟨a, rfl, congrArg Prod.fst (σ.attempt_ok hx)⟩
  | error e =>
    rw [σ.attempt_error hx] at h
    cases h

end

theorem run_cons (σ : Session) (q : Request) (qs : List Request) :
    σ.run (q :: qs)
      = (((σ.step q).1.run qs).1, (σ.step q).2 :: ((σ.step q).1.run qs).2) := rfl

/-- Requests that add declared conditions one by one. -/
def adds (d : Declarations) (r : Registry) (names : List String) : List Request :=
  names.filterMap fun name => (d.conditions.find? name).map (.add r name)

theorem adds_cons {d : Declarations} {r : Registry} {name : String} {c : Config}
    (h : d.conditions.find? name = some c) (names : List String) :
    adds d r (name :: names) = .add r name c :: adds d r names := by
  unfold adds
  rw [List.filterMap_cons, h]
  rfl

/-- **Adding declared conditions one by one** is building them in that order. -/
theorem run_adds {d : Declarations} {r : Registry} {names : List String}
    (hnames : ∀ name ∈ names, name ∈ d.conditions.keys) :
    ∀ {σ : Session} {pool : Pool}, (d.addAll r σ.pool names).result = .ok pool →
      σ.run (adds d r names)
        = (⟨pool, σ.held, σ.ledger.registerAll (d.addAll r σ.pool names).registered⟩,
            List.replicate names.length .done) := by
  induction names with
  | nil =>
    intro σ pool h
    obtain rfl := Attempt.pure_ok h
    rfl
  | cons name names ih =>
    intro σ pool h
    obtain ⟨c, hc⟩ := Dictionary.find?_of_mem_keys (hnames name List.mem_cons_self)
    obtain ⟨pool₁, hpool₁, hrest⟩ := Attempt.bind_ok h
    have hadded : d.addNamed r σ.pool name
        = (σ.pool.add r name c).mapError (.resourceConstruction name) := by
      unfold Declarations.addNamed
      rw [hc]
    have hregistered : (d.addNamed r σ.pool name).registered
        = (σ.pool.add r name c).registered := by
      rw [hadded, Attempt.registered_mapError]
    have hadd : (σ.pool.add r name c).result = .ok pool₁ := by
      rw [hadded] at hpool₁
      exact Attempt.mapError_ok hpool₁
    have hothers : ∀ name ∈ names, name ∈ d.conditions.keys :=
      fun n hn => hnames n (List.mem_cons_of_mem name hn)
    -- The first request leads to a session that has the others to go.
    let σ₁ : Session :=
      ⟨pool₁, σ.held, σ.ledger.registerAll (σ.pool.add r name c).registered⟩
    have hstep : σ.step (.add r name c) = (σ₁, .done) := σ.attempt_ok hadd
    have hgoesOn : (d.addAll r σ₁.pool names).result = .ok pool := hrest
    rw [adds_cons hc, run_cons, hstep, ih hothers hgoesOn, Declarations.addAll,
      Attempt.registered_bind hpool₁, hregistered, Ledger.registerAll_append]
    rfl

/-! ## Section 3: What is held -/

/-- What an attempt leaves held, if its use loses nothing. -/
theorem attempt_held {α : Type} (x : Attempt α) {use : Session → α → Session}
    (h : ∀ σ a, σ.held <+: (use σ a).held) (σ : Session) :
    σ.held <+: (σ.attempt x use).1.held := by
  cases hx : x.result with
  | ok a =>
    rw [σ.attempt_ok hx]
    exact h { σ with ledger := σ.ledger.registerAll x.registered } a
  | error e =>
    have hsame : (σ.attempt x use).1.held = σ.held := by rw [σ.attempt_error hx]
    exact hsame ▸ List.prefix_refl σ.held

/-- **A request loses nothing that is held**: conditions keep their numbers. -/
theorem step_held (σ : Session) (q : Request) : σ.held <+: (σ.step q).1.held := by
  have hrename : ∀ (σ : Session) (pool : Pool), σ.held <+: (σ.rename pool).held :=
    fun σ _ => List.prefix_refl σ.held
  have hkeep : ∀ (σ : Session) (c : Condition), σ.held <+: (σ.keep c).held :=
    fun σ c => List.prefix_append σ.held [c]
  cases q with
  | declare r d => exact attempt_held _ hrename σ
  | add r name c => exact attempt_held _ hrename σ
  | build r c => exact attempt_held _ hkeep σ
  | hold name => exact attempt_held _ hkeep σ
  | check name s =>
    rw [step]
    cases σ.pool.resolve name with
    | ok c => exact List.prefix_refl σ.held
    | error e => exact List.prefix_refl σ.held
  | checkHeld i s =>
    rw [step]
    cases σ.held[i]? with
    | some c => exact List.prefix_refl σ.held
    | none => exact List.prefix_refl σ.held

/-- **Requests lose nothing that is held.** -/
theorem run_held (qs : List Request) (σ : Session) : σ.held <+: (σ.run qs).1.held := by
  induction qs generalizing σ with
  | nil => exact List.prefix_refl σ.held
  | cons q qs ih => exact (σ.step_held q).trans (ih (σ.step q).1)

/-- What is held answers what it is. -/
theorem checkHeld_answer {i : Nat} {c : Condition} (h : σ.held[i]? = some c) (s : SinglePart) :
    (σ.step (.checkHeld i s)).2 = .verdict (c.holds s) := by
  rw [step, h]
  rfl

/-- What is held answers the same after any requests. -/
theorem checkHeld_later {i : Nat} {c : Condition} (h : σ.held[i]? = some c)
    (later : List Request) (s : SinglePart) :
    ((σ.run later).1.step (.checkHeld i s)).2 = .verdict (c.holds s) := by
  apply checkHeld_answer
  obtain ⟨hlt, _⟩ := List.getElem?_eq_some_iff.mp h
  obtain ⟨more, hmore⟩ := run_held later σ
  rw [← hmore, List.getElem?_append_left hlt, h]

/-- What was got last has the next number. -/
theorem keep_held (σ : Session) (c : Condition) : (σ.keep c).held[σ.held.length]? = some c :=
  List.getElem?_concat_length

/-! ## Section 4: What names say -/

/-- What names say after one was added: the new one says what its config says
    with the names as they were, its own name among them, and no other one
    says anything else than before. -/
theorem add_verdict {pool pool' : Pool} {r : Registry} {name : String} {c : Config}
    (h : (pool.add r name c).result = .ok pool') (p : Part) (n : String) :
    pool'.verdict p n
      = if n = name then c.eval (pool.verdict p) p else pool.verdict p n := by
  obtain ⟨cond, hcond, hpure⟩ := Attempt.bind_ok h
  obtain rfl := Attempt.pure_ok hpure
  unfold Pool.verdict
  rw [Pool.find?_insert]
  by_cases hn : n = name
  · rw [if_pos hn, if_pos hn]
    exact Config.build_eval (pool.agrees_verdict p) c (Config.built hcond)
  · rw [if_neg hn, if_neg hn]

theorem resolve_ok {pool : Pool} {name : String} {c : Condition} (h : pool.resolve name = .ok c) :
    pool.find? name = some c := by
  unfold Pool.resolve at h
  cases hfind : pool.find? name with
  | none =>
    rw [hfind] at h
    cases h
  | some c' =>
    rw [hfind] at h
    cases h
    rfl

/-! ## Section 5: Sessions -/

/-- **Adding is declaring**: in every order in which each name comes after those
    it refers to, every request is done, and the session is left as declaring
    all at once leaves it. -/
theorem run_adds_declare {d : Declarations} {r : Registry} {pool : Pool}
    (h : (d.build r).result = .ok pool) {names : List String}
    (hperm : names.Perm d.conditions.keys) (hsettled : d.Settled names.reverse) {σ : Session}
    (hempty : σ.pool = .empty) :
    (σ.step (.declare r d)).1.pool = pool ∧
      σ.run (adds d r names) = ((σ.step (.declare r d)).1, List.replicate names.length .done) := by
  have hall : ∀ name ∈ d.conditions.keys, name ∈ names := fun _ hname => hperm.mem_iff.mpr hname
  have hadd := Declarations.addAll_eq h hsettled hall
  have hregistered := Declarations.mem_registered_addAll h hall hadd
  have hstep : σ.step (.declare r d)
      = (⟨pool, σ.held, σ.ledger.registerAll (d.build r).registered⟩, .done) :=
    σ.attempt_ok h
  rw [hstep]
  refine ⟨rfl, ?_⟩
  -- Both build the same pool; that they register in another order is nothing to a ledger.
  rw [← hempty] at hadd hregistered
  rw [run_adds (fun _ hname => hperm.mem_iff.mp hname) hadd,
    σ.ledger.registerAll_congr hregistered]

/-- A condition that was built answers what its config says with the names as
    they were then. -/
theorem built_stays {r : Registry} {c : Config} (h : (σ.step (.build r c)).2 = .done)
    (later : List Request) (p : Part) :
    (((σ.step (.build r c)).1.run later).1.step (.checkHeld σ.held.length ⟨p⟩)).2
      = .verdict (c.eval (σ.pool.verdict p) p) := by
  obtain ⟨cond, hcond, hafter⟩ := attempt_done h
  -- Whatever the names are given to later, this very condition stays under its number.
  have hheld : (σ.step (.build r c)).1.held[σ.held.length]? = some cond := by
    rw [step, hafter]
    exact keep_held _ cond
  have hsays : cond.holds ⟨p⟩ = c.eval (σ.pool.verdict p) p :=
    Config.build_eval (σ.pool.agrees_verdict p) c (Config.built hcond)
  rw [checkHeld_later hheld, hsays]

/-- A condition that was looked up answers what its name said then. -/
theorem looked_up_stays {name : String} (h : (σ.step (.hold name)).2 = .done)
    (later : List Request) (p : Part) :
    (((σ.step (.hold name)).1.run later).1.step (.checkHeld σ.held.length ⟨p⟩)).2
      = .verdict (σ.pool.verdict p name) := by
  obtain ⟨cond, hcond, hafter⟩ := attempt_done h
  have hheld : (σ.step (.hold name)).1.held[σ.held.length]? = some cond := by
    rw [step, hafter]
    exact keep_held _ cond
  have hsays : cond.holds ⟨p⟩ = σ.pool.verdict p name :=
    σ.pool.agrees_verdict p name cond (resolve_ok hcond)
  rw [checkHeld_later hheld, hsays]

/-- A request to add that fails leaves all names as they were. -/
theorem failed_add_pool {r : Registry} {name : String} {c : Config} {e : Error}
    (h : (σ.step (.add r name c)).2 = .failed e) : (σ.step (.add r name c)).1.pool = σ.pool := by
  cases hadd : (σ.pool.add r name c).result with
  | ok pool =>
    rw [step, σ.attempt_ok hadd] at h
    cases h
  | error e' => rw [step, σ.attempt_error hadd]

/-- **Adding and holding.**  If declarations can be built, adding their
    conditions one by one to a session without names, each after those it
    refers to, succeeds at every step, registers the same counters as
    declaring them all, and leaves the very same session: its names stand for
    the conditions that were built.

    What is held at any time answers the same after any requests.  A condition
    that was built answers what its config says with the names as they were,
    and one that was looked up what its name said.  A request to add changes
    what its own name says and no other; the config may refer to the old one
    of the same name.  If it fails all names are as before. -/
theorem adds_declare_and_held_stays :
    (∀ (d : Declarations) (r : Registry) (pool : Pool), (d.build r).result = .ok pool →
      ∀ names : List String, names.Perm d.conditions.keys → d.Settled names.reverse →
        (∀ k, k ∈ (d.addAll r .empty names).registered ↔ k ∈ (d.build r).registered) ∧
        ∀ σ : Session, σ.pool = .empty →
          (σ.step (.declare r d)).1.pool = pool ∧
          σ.run (adds d r names)
            = ((σ.step (.declare r d)).1, List.replicate names.length .done)) ∧
    ∀ (σ : Session) (later : List Request),
      (∀ i c, σ.held[i]? = some c → ∀ s,
        ((σ.run later).1.step (.checkHeld i s)).2 = (σ.step (.checkHeld i s)).2) ∧
      (∀ r c, (σ.step (.build r c)).2 = .done → ∀ p,
        (((σ.step (.build r c)).1.run later).1.step (.checkHeld σ.held.length ⟨p⟩)).2
          = .verdict (c.eval (σ.pool.verdict p) p)) ∧
      (∀ name, (σ.step (.hold name)).2 = .done → ∀ p,
        (((σ.step (.hold name)).1.run later).1.step (.checkHeld σ.held.length ⟨p⟩)).2
          = .verdict (σ.pool.verdict p name)) ∧
      ∀ r name c,
        ((σ.step (.add r name c)).2 = .done → ∀ p n,
          (σ.step (.add r name c)).1.pool.verdict p n
            = if n = name then c.eval (σ.pool.verdict p) p else σ.pool.verdict p n) ∧
        ∀ e, (σ.step (.add r name c)).2 = .failed e →
          (σ.step (.add r name c)).1.pool = σ.pool := by
  refine ⟨?_, ?_⟩
  · intro d r pool hbuild names hperm hsettled
    have hall : ∀ name ∈ d.conditions.keys, name ∈ names :=
      fun _ hname => hperm.mem_iff.mpr hname
    have hadd := Declarations.addAll_eq hbuild hsettled hall
    exact ⟨Declarations.mem_registered_addAll hbuild hall hadd,
      fun σ hempty => run_adds_declare hbuild hperm hsettled hempty⟩
  · intro σ later
    refine ⟨?_, fun r c hdone => built_stays hdone later,
      fun name hdone => looked_up_stays hdone later, ?_⟩
    · intro i c hheld s
      rw [checkHeld_later hheld, checkHeld_answer hheld]
    · intro r name c
      refine ⟨?_, fun e => failed_add_pool⟩
      intro hdone p n
      obtain ⟨pool, hpool, hafter⟩ := attempt_done hdone
      rw [step, hafter]
      exact add_verdict hpool p n

/-- A name is looked up, and then both names are given to other conditions, one
    of them to the negation of what it was; the last request fails. -/
theorem adds_declare_and_held_stays_renamed :
    let r : Registry := .table 0
    let d := Declarations.reference
    let σ : Session := ⟨.empty, [], Ledger.empty.addTable⟩
    let declared := (σ.step (.declare r d)).1
    let others : List Request :=
      [.add r "b" { kind := "static" },
        .add r "a" { kind := "not", not := some { kind := "resource", resource := "a" } },
        .add r "b" { kind := "resource", resource := "c" }]
    σ.run (adds d r ["b", "a"]) = (declared, [.done, .done]) ∧
      ∀ p, (((declared.step (.hold "a")).1.run others).1.step (.checkHeld 0 ⟨p⟩)).2
        = .verdict false := by
  intro r d σ declared others
  have horder : d.order = .ok ["b", "a"] := by
    have hkeys : d.conditions.keys = ["a", "b"] := rfl
    have ha : d.clauses.find? "a" = some (.resource "b") := rfl
    have hb : d.clauses.find? "b" = some (.static false) := rfl
    show (Declarations.visitAll d.clauses [] [] d.conditions.keys).map List.reverse = _
    simp [hkeys, Declarations.visitAll_cons, Declarations.visitAll_nil, Declarations.visit_eq, ha,
      hb, Clause.references, Except.map, Except.bind]
  have hbuild : ∃ pool cond, (d.build r).result = .ok pool ∧ pool.find? "a" = some cond ∧
      ∀ p, cond.holds ⟨p⟩ = false := by
    unfold Declarations.build
    rw [horder]
    exact ⟨_, _, rfl, rfl, fun _ => rfl⟩
  have hperm : ["b", "a"].Perm d.conditions.keys := List.Perm.swap "a" "b" []
  have hsettled : d.Settled ["b", "a"].reverse := by
    refine ⟨?_, ?_, trivial⟩
    · rintro target ⟨c, hc, hname, _⟩
      cases hc
      exact hname
    · rintro target ⟨c, hc, hname, _⟩
      cases hc
      cases hname
  obtain ⟨pool, cond, hpool, hcond, hsays⟩ := hbuild
  obtain ⟨horders, hsessions⟩ := adds_declare_and_held_stays
  obtain ⟨_, hsame⟩ := horders d r pool hpool ["b", "a"] hperm hsettled
  obtain ⟨_, hrun⟩ := hsame σ rfl
  refine ⟨hrun, ?_⟩
  intro p
  have hdeclared : declared
      = ⟨pool, [], Ledger.empty.addTable.registerAll (d.build r).registered⟩ :=
    congrArg Prod.fst (σ.attempt_ok hpool)
  have hresolve : pool.resolve "a" = .ok cond := by
    rw [Pool.resolve, hcond]
  have hdone : (declared.step (.hold "a")).2 = .done := by
    rw [hdeclared]
    exact congrArg Prod.snd (attempt_ok _ hresolve)
  obtain ⟨_, _, hlooked, _⟩ := hsessions declared others
  have hanswer := hlooked "a" hdone p
  have hfalse : pool.verdict p "a" = false := by
    rw [← pool.agrees_verdict p "a" cond hcond, hsays p]
  rw [hdeclared] at hanswer ⊢
  rw [← hfalse]
  exact hanswer

end Session

end BatchFilter
