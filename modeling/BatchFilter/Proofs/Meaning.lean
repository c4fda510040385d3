import BatchFilter.Proofs.Building
import Mathlib.Data.List.Infix

/-! # What Conditions Mean

    A config says of every part whether it holds, if one knows what the
    names it refers to say: this is a recursion over configs that never
    looks at anything that was built (`Config.eval`).  Declarations give
    every name the value of its config.  If they can be built there is
    exactly one way to do so, and what was built answers just that.

    * `Config.eval`: what a config says of a part.
    * `Declarations.Solution`: values of names that fit their configs.
    * `Config.build_eval`: a built condition says what its config says.
    * `Declarations.check_eval`: the same for names that were declared. -/

namespace BatchFilter

/-! ## Section 1: What leaves say -/

/-- A part that is seen alone has an index from the start and one from the
    end. -/
def namesPart (i : Int64) : Bool :=
  i == 0 || i == -1

/-- What a text section says of a part: raw content is compared by operators
    that regard case, lowercase text by the others. -/
def TextSection.eval (s : TextSection) (p : Part) : Bool :=
  let raw := p.content
  let arg := Utf8.ofString s.arg
  let lower := Utf8.encode (Lowercase.map p.text)
  let lowerArg := Utf8.encode (Lowercase.map s.arg.toList)
  namesPart s.part &&
    match s.operator with
    | "equals_cs" => decide (raw = arg)
    | "equals" => decide (lower = lowerArg)
    | "contains_cs" => decide (arg <:+: raw)
    | "contains" => decide (lowerArg <:+: lower)
    | "prefix_cs" => decide (arg <+: raw)
    | "prefix" => decide (lowerArg <+: lower)
    | "suffix_cs" => decide (arg <:+ raw)
    | "suffix" => decide (lowerArg <:+ lower)
    | _ => false

/-- Do both texts denote integers, and do these compare? -/
def comparesAs (compare : Int64 → Int64 → Bool) (value arg : String) : Bool :=
  match Integer.ofString? value, Integer.ofString? arg with
  | some v, some n => compare v n
  | _, _ => false

/-- What a metadata section says of the value under its key. -/
def MetadataSection.compares (s : MetadataSection) (value : String) : Bool :=
  match s.operator with
  | "equals_cs" => decide (value = s.arg)
  | "equals" => decide (Lowercase.string value = Lowercase.string s.arg)
  | "exists" => true
  | "has_prefix" => decide (s.arg.toList <+: value.toList)
  | "greater_than" => comparesAs (fun v n => decide (n < v)) value s.arg
  | "less_than" => comparesAs (fun v n => decide (v < n)) value s.arg
  | _ => false

/-- What a metadata section says of a part. -/
def MetadataSection.eval (s : MetadataSection) (p : Part) : Bool :=
  namesPart s.part &&
    match p.metadata.find? s.key with
    | none => false
    | some value => s.compares value

/-! ## Section 2: What configs say -/

namespace Config

mutual

/-- What a config says of a part, where names have the values `named`. -/
def eval (named : String → Bool) (p : Part) : Config → Bool
  | ⟨kind, static, text, metadata, all, any, not, resource⟩ =>
      match kind with
      | "static" => static
      | "text" => text.eval p
      | "metadata" => metadata.eval p
      | "and" => evalAll named p all
      | "or" => evalAny named p any
      | "not" => !eval? named p not
      | "resource" => named resource
      | _ => false

/-- Do all configs say yes? -/
def evalAll (named : String → Bool) (p : Part) : List Config → Bool
  | [] => true
  | c :: rest => c.eval named p && evalAll named p rest

/-- Does any config say yes? -/
def evalAny (named : String → Bool) (p : Part) : List Config → Bool
  | [] => false
  | c :: rest => c.eval named p || evalAny named p rest

/-- What a config says, if there is one. -/
def eval? (named : String → Bool) (p : Part) : Option Config → Bool
  | none => false
  | some c => c.eval named p

end

end Config

/-- Values of names, for a part, that give every declared name the value of
    its config. -/
def Declarations.Solution (d : Declarations) (p : Part) (named : String → Bool) : Prop :=
  ∀ name c, d.conditions.find? name = some c → named name = c.eval named p

/-! ## Section 3: Leaves are what they say -/

theorem get?_namesPart (p : Part) (i : Int64) :
    SinglePart.get? ⟨p⟩ i = if namesPart i = true then some p else none := by
  unfold SinglePart.get? namesPart
  simp only [Bool.or_eq_true, beq_iff_eq]

namespace Search

variable {α : Type} [DecidableEq α]

theorem contains_eq (needle hay : List α) :
    contains needle hay = decide (needle <:+: hay) := by
  rw [Bool.eq_iff_iff, decide_eq_true_iff]
  induction hay with
  | nil => simp [contains]
  | cons x hay ih =>
    rw [contains, Bool.or_eq_true, ih, List.isPrefixOf_iff_prefix, List.infix_cons_iff]

theorem startsWith_eq (needle hay : List α) :
    startsWith needle hay = decide (needle <+: hay) := by
  rw [Bool.eq_iff_iff, decide_eq_true_iff]
  exact List.isPrefixOf_iff_prefix

theorem endsWith_eq (needle hay : List α) :
    endsWith needle hay = decide (needle <:+ hay) := by
  rw [Bool.eq_iff_iff, decide_eq_true_iff]
  exact List.isSuffixOf_iff_suffix

end Search

/-- The test of a text section says what the section says. -/
theorem TextSection.test_eval {s : TextSection} {test : Test} (h : s.test = .ok test) (p : Part) :
    test.holds ⟨p⟩ = s.eval p := by
  obtain ⟨operator, part, arg⟩ := s
  unfold TextSection.test TextOperator.parse at h
  cases hop : TextOperator.ofName? operator with
  | none => simp only [hop] at h; cases h
  | some op =>
    simp only [hop] at h
    cases h
    unfold Test.holds TextSection.eval
    simp only [get?_namesPart]
    cases namesPart part with
    | false => rfl
    | true =>
      -- The name of the operator decides which of the eight comparisons it is.
      unfold TextOperator.ofName? at hop
      split at hop <;> cases hop <;>
        simp [TextOperator.holds, TextOperator.subject, TextOperator.prepare, Comparison.holds,
          Search.contains_eq, Search.startsWith_eq, Search.endsWith_eq,
          Bool.beq_eq_decide_eq]

/-- An operator that compares integers was only parsed with an integer. -/
theorem MetadataOperator.bound_ok {α : Type} {name arg : String} {f : Int64 → α} {a : α}
    (h : (bound name arg).map f = .ok a) : ∃ n, Integer.ofString? arg = some n ∧ a = f n := by
  unfold bound at h
  cases hi : Integer.ofString? arg with
  | none =>
    simp only [hi] at h
    cases h
  | some n =>
    simp only [hi] at h
    cases h
    exact ⟨n, rfl, rfl⟩

theorem comparesAs_bound (compare : Int64 → Int64 → Bool) (value : String) {arg : String}
    {n : Int64} (h : Integer.ofString? arg = some n) :
    comparesAs compare value arg = (Integer.ofString? value).any (compare · n) := by
  unfold comparesAs
  rw [h]
  cases Integer.ofString? value <;> rfl

/-- The operator of a metadata section compares as the section says. -/
theorem MetadataSection.holds_compares {s : MetadataSection} {op : MetadataOperator}
    (h : MetadataOperator.parse s.operator s.arg = .ok op) (value : String) :
    op.holds value = s.compares value := by
  obtain ⟨operator, part, key, arg⟩ := s
  -- The name of the operator decides which of the six comparisons it is.
  dsimp only at h
  unfold MetadataOperator.parse at h
  split at h
  case h_5 =>
    obtain ⟨n, hn, rfl⟩ := MetadataOperator.bound_ok h
    exact (comparesAs_bound (fun v n => decide (n < v)) value hn).symm
  case h_6 =>
    obtain ⟨n, hn, rfl⟩ := MetadataOperator.bound_ok h
    exact (comparesAs_bound (fun v n => decide (v < n)) value hn).symm
  all_goals cases h <;>
    simp [compares, MetadataOperator.holds, Search.startsWith_eq, Bool.beq_eq_decide_eq]

/-- The test of a metadata section says what the section says. -/
theorem MetadataSection.test_eval {s : MetadataSection} {test : Test} (h : s.test = .ok test)
    (p : Part) : test.holds ⟨p⟩ = s.eval p := by
  unfold MetadataSection.test at h
  split at h
  · cases h
  cases hop : MetadataOperator.parse s.operator s.arg with
  | error e => simp only [hop] at h; cases h
  | ok op =>
    simp only [hop] at h
    cases h
    unfold Test.holds MetadataSection.eval
    simp only [get?_namesPart]
    cases namesPart s.part with
    | false => rfl
    | true =>
      simp only [if_true, Bool.true_and]
      cases p.metadata.find? s.key with
      | none => rfl
      | some value => exact MetadataSection.holds_compares hop value

/-! ## Section 4: Conditions are what their configs say -/

/-- Names have the values that the conditions of a pool have for a part. -/
def Pool.Agrees (pool : Pool) (p : Part) (named : String → Bool) : Prop :=
  ∀ name c, pool.find? name = some c → c.holds ⟨p⟩ = named name

namespace Config

mutual

/-- **A condition that was built says what its config says**, if names have
    the values of the conditions that it was built with. -/
theorem build_eval {pool : Pool} {p : Part} {named : String → Bool}
    (hpool : pool.Agrees p named) : ∀ (c : Config) {r : Registry} {cond : Condition},
    (c.clause.build pool r).result = .ok cond → cond.holds ⟨p⟩ = c.eval named p
  | ⟨kind, static, text, metadata, all, any, child, resource⟩, r, cond, h => by
      rw [clause] at h
      cases hk : Kind.ofName? kind with
      | none => rw [hk] at h; cases h
      | some k =>
        obtain rfl := Kind.ofName?_eq hk
        rw [hk] at h
        cases k with
        | static =>
          rw [Clause.built_static h, Condition.holds_leaf]
          rfl
        | text =>
          obtain ⟨test, htest, rfl⟩ := Clause.built_text h
          rw [Condition.holds_leaf]
          exact TextSection.test_eval htest p
        | metadata =>
          obtain ⟨test, htest, rfl⟩ := Clause.built_metadata h
          rw [Condition.holds_leaf]
          exact MetadataSection.test_eval htest p
        | all =>
          obtain ⟨cs, hcs, rfl⟩ := Clause.built_all h
          rw [Condition.holds_all]
          exact (buildAll_eval hpool all hcs).1
        | any =>
          obtain ⟨cs, hcs, rfl⟩ := Clause.built_any h
          rw [Condition.holds_any]
          exact (buildAll_eval hpool any hcs).2
        | not =>
          obtain ⟨c, built, hc, hbuilt, rfl⟩ := Clause.built_not h
          -- The config of a negation has its child as an option.
          rw [Condition.holds_not]
          exact congrArg (!·) (build?_eval hpool child hc hbuilt)
        | resource =>
          obtain ⟨target, htarget, rfl⟩ := Clause.built_resource h
          rw [Condition.holds_shared]
          exact hpool resource target htarget

theorem buildAll_eval {pool : Pool} {p : Part} {named : String → Bool}
    (hpool : pool.Agrees p named) : ∀ (cs : List Config) {r : Registry} {kind : Kind} {i : Nat}
    {conds : List Condition}, (Clause.buildAll pool r kind i (clauses cs)).result = .ok conds →
    conds.all (·.holds ⟨p⟩) = evalAll named p cs ∧ conds.any (·.holds ⟨p⟩) = evalAny named p cs
  | [], r, kind, i, conds, h => by
      cases h
      exact ⟨rfl, rfl⟩
  | c :: rest, r, kind, i, conds, h => by
      obtain ⟨first, others, hfirst, hothers, rfl⟩ := Clause.built_cons h
      obtain ⟨hall, hany⟩ := buildAll_eval hpool rest hothers
      have hhead := build_eval hpool c hfirst
      constructor
      · rw [List.all_cons, hhead, hall, evalAll]
      · rw [List.any_cons, hhead, hany, evalAny]

theorem build?_eval {pool : Pool} {p : Part} {named : String → Bool}
    (hpool : pool.Agrees p named) : ∀ (child : Option Config) {c : Clause} {r : Registry}
    {built : Condition}, clause? child = some c → (c.build pool r).result = .ok built →
    built.holds ⟨p⟩ = eval? named p child
  | none, _, _, _, hc, _ => nomatch hc
  | some c, _, _, _, hc, hbuilt => by
      obtain rfl := Option.some.inj hc
      exact build_eval hpool c hbuilt

end

end Config

/-! ## Section 5: Names are what their configs say -/

/-- The values that the conditions of a pool give to names. -/
def Pool.verdict (pool : Pool) (p : Part) (name : String) : Bool :=
  (pool.find? name).any (·.holds ⟨p⟩)

/-- These values agree with the pool. -/
theorem Pool.agrees_verdict (pool : Pool) (p : Part) : pool.Agrees p (pool.verdict p) := by
  intro name c hfind
  rw [verdict, hfind]
  rfl

namespace Declarations

variable {d : Declarations} {r : Registry} {p : Part}

/-- A config tells the verdict of the condition that is built from it. -/
theorem determines_holds (p : Part) :
    Determines (·.holds ⟨p⟩) fun named _ c => c.eval named p :=
  fun _ _ hpool _ c _ hcond => Config.build_eval hpool c (Config.built hcond)

/-- The pool that was built gives every declared name the value of its
    config. -/
theorem verdict_solution {pool : Pool} (h : (d.build r).result = .ok pool) :
    d.Solution p (pool.verdict p) :=
  gives_fits (determines_holds p) h (pool.agrees_verdict p)

/-- Whatever gives every declared name the value of its config agrees with the
    pool that was built. -/
theorem solution_agrees {pool : Pool} (h : (d.build r).result = .ok pool)
    {named : String → Bool} (hsolution : d.Solution p named) : pool.Agrees p named :=
  fits_gives (determines_holds p) h hsolution

/-- **Checks answer what configs say.**  If declarations can be built there are
    values of their names that fit the configs, and only one value for each
    name.  A condition that was built with them answers what its config says
    with these values, whatever was checked and counted before. -/
theorem check_eval (d : Declarations) (r : Registry) (pool : Pool)
    (h : (d.build r).result = .ok pool) (p : Part) :
    (∃ named, d.Solution p named) ∧
    (∀ named named', d.Solution p named → d.Solution p named' →
      ∀ name ∈ d.conditions.keys, named name = named' name) ∧
    ∀ (c : Config) (r' : Registry) (cond : Condition), (c.build pool r').result = .ok cond →
      ∀ named, d.Solution p named →
        ∀ (l : Ledger) (earlier : List (Condition × SinglePart)),
          ((l.afterChecks earlier).check cond ⟨p⟩).2 = c.eval named p := by
  refine ⟨⟨_, verdict_solution h⟩, ?_, ?_⟩
  · intro named named' hnamed hnamed' name hname
    obtain ⟨cond, hcond⟩ := build_mem h hname
    rw [← solution_agrees h hnamed name cond hcond, ← solution_agrees h hnamed' name cond hcond]
  · intro c r' cond hcond named hnamed l earlier
    exact Config.build_eval (solution_agrees h hnamed) c (Config.built hcond)

/-- Two names of which the first refers to the second. -/
def reference : Declarations where
  conditions := .ofList
    [("a", { kind := "resource", resource := "b" }), ("b", { kind := "static", static := false })]

/-- The negation of a reference to a reference. -/
theorem check_eval_reference :
    let c : Config := { kind := "not", not := some { kind := "resource", resource := "a" } }
    ∃ pool cond, (reference.build .discard).result = .ok pool ∧
      (c.build pool .discard).result = .ok cond ∧
      ∀ earlier, ((Ledger.empty.afterChecks earlier).check cond ⟨⟨[], ∅⟩⟩).2 = true := by
  intro c
  have horder : reference.order = .ok ["b", "a"] := by
    have hkeys : reference.conditions.keys = ["a", "b"] := rfl
    have ha : reference.clauses.find? "a" = some (.resource "b") := rfl
    have hb : reference.clauses.find? "b" = some (.static false) := rfl
    show (visitAll reference.clauses [] [] reference.conditions.keys).map List.reverse = _
    simp [hkeys, visitAll_cons, visitAll_nil, visit_eq, ha, hb, Clause.references, Except.map,
      Except.bind]
  have hbuild : ∃ pool cond, (reference.build .discard).result = .ok pool ∧
      (c.build pool .discard).result = .ok cond := by
    unfold build
    rw [horder]
    exact ⟨_, _, rfl, rfl⟩
  obtain ⟨pool, cond, hpool, hcond⟩ := hbuild
  obtain ⟨⟨named, hnamed⟩, _, hcheck⟩ := check_eval reference .discard pool hpool ⟨[], ∅⟩
  refine ⟨pool, cond, hpool, hcond, ?_⟩
  intro earlier
  rw [hcheck c .discard cond hcond named hnamed .empty earlier]
  have ha : named "a" = named "b" := hnamed "a" _ rfl
  have hb : named "b" = false := hnamed "b" _ rfl
  show (!named "a") = true
  rw [ha, hb]
  rfl

end Declarations

end BatchFilter
