import BatchFilter.Proofs.Meaning

/-! # Whom Conditions Ask

    To answer for a part a condition asks its leaves, and stops asking as soon
    as the answer is known.  Whom it asks is told by its config, if one knows
    what the names it refers to answer and whom they ask for that: again a
    recursion over configs that never looks at anything that was built
    (`Config.answer`).

    * `Checked.askUntil`: answers in order, up to the first that decides.
    * `Config.answer`: what a config answers, and whom it asks.
    * `Declarations.Answers`: answers of names that fit their configs.
    * `Config.build_answer`: a built condition answers and asks just that. -/

namespace BatchFilter

/-! ## Section 1: What configs answer -/

namespace Checked

/-- The answer of a leaf, which is visited once. -/
def ofLeaf (tally : Tally) (verdict : Bool) : Checked :=
  ⟨verdict, [⟨tally, verdict⟩]⟩

/-- Ask one after another until an answer is `b`.  That is then the answer of
    all, and else it is the opposite. -/
def askUntil (b : Bool) (answers : List Checked) : Checked where
  verdict := if answers.any (·.verdict == b) then b else !b
  visits := (answers.take (answers.findIdx (·.verdict == b) + 1)).flatMap visits

theorem askUntil_decided {b : Bool} {a : Checked} (h : a.verdict = b) (rest : List Checked) :
    askUntil b (a :: rest) = a := by
  have hb : (a.verdict == b) = true := beq_iff_eq.mpr h
  unfold askUntil
  rw [List.any_cons, List.findIdx_cons, hb, Bool.true_or, if_pos rfl, cond_true, Nat.zero_add,
    List.take_succ_cons, List.take_zero, List.flatMap_singleton, ← h]

theorem askUntil_open {b : Bool} {a : Checked} (h : a.verdict ≠ b) (rest : List Checked) :
    askUntil b (a :: rest)
      = ⟨(askUntil b rest).verdict, a.visits ++ (askUntil b rest).visits⟩ := by
  have hb : (a.verdict == b) = false := beq_eq_false_iff_ne.mpr h
  unfold askUntil
  rw [List.any_cons, List.findIdx_cons, hb, Bool.false_or, cond_false, List.take_succ_cons,
    List.flatMap_cons]

end Checked

namespace Config

mutual

/-- What a config answers for a part, and which leaves are asked for that, in
    order.  The names it refers to answer as `named` says, and the counters of
    its leaves are those of a registry. -/
def answer (named : String → Checked) (p : Part) (r : Registry) : Config → Checked
  | ⟨kind, static, text, metadata, all, any, not, resource⟩ =>
      match kind with
      | "static" => .ofLeaf (.ofKind r "static") static
      | "text" => .ofLeaf (.ofKind r "text") (text.eval p)
      | "metadata" => .ofLeaf (.ofKind r "metadata") (metadata.eval p)
      | "and" => .askUntil false (answers named p r .all 0 all)
      | "or" => .askUntil true (answers named p r .any 0 any)
      | "not" =>
          let child := answer? named p (.within "not" r) not
          ⟨!child.verdict, child.visits⟩
      | "resource" => named resource
      | _ => ⟨false, []⟩

/-- What each of the children of a combination answers if it is asked, where
    the first has number `i`. -/
def answers (named : String → Checked) (p : Part) (r : Registry) (kind : Kind) (i : Nat) :
    List Config → List Checked
  | [] => []
  | c :: rest => c.answer named p (r.child kind i) :: answers named p r kind (i + 1) rest

/-- What a config answers, if there is one. -/
def answer? (named : String → Checked) (p : Part) (r : Registry) : Option Config → Checked
  | none => ⟨false, []⟩
  | some c => c.answer named p r

end

end Config

/-! ## Section 2: Conditions answer what their configs do -/

namespace Condition

/-- Children that all have to hold are asked until one does not. -/
theorem checkAll_eq (cs : List Condition) (s : SinglePart) :
    checkAll cs s = .askUntil false (cs.map fun c => c.check s) := by
  induction cs with
  | nil => rfl
  | cons c cs ih =>
    rw [checkAll, List.map_cons, ih]
    cases h : (c.check s).verdict with
    | true => exact (Checked.askUntil_open (by rw [h]; decide) _).symm
    | false => exact (Checked.askUntil_decided h _).symm

/-- Children of which one has to hold are asked until one does. -/
theorem checkAny_eq (cs : List Condition) (s : SinglePart) :
    checkAny cs s = .askUntil true (cs.map fun c => c.check s) := by
  induction cs with
  | nil => rfl
  | cons c cs ih =>
    rw [checkAny, List.map_cons, ih]
    cases h : (c.check s).verdict with
    | true => exact (Checked.askUntil_decided h _).symm
    | false => exact (Checked.askUntil_open (by rw [h]; decide) _).symm

end Condition

namespace Config

mutual

/-- **A condition that was built asks whom its config says**, and so answers
    what it says, if names answer like the conditions that it was built
    with. -/
theorem build_answer {pool : Pool} {p : Part} {named : String → Checked}
    (hpool : pool.Gives (·.check ⟨p⟩) named) : ∀ (c : Config) {r : Registry} {cond : Condition},
    (c.clause.build pool r).result = .ok cond → cond.check ⟨p⟩ = c.answer named p r
  | ⟨kind, static, text, metadata, all, any, child, resource⟩, r, cond, h => by
      rw [clause] at h
      cases hk : Kind.ofName? kind with
      | none => rw [hk] at h; cases h
      | some k =>
        obtain rfl := Kind.ofName?_eq hk
        rw [hk] at h
        cases k with
        | static =>
          rw [Clause.built_static h, Condition.check]
          rfl
        | text =>
          obtain ⟨test, htest, rfl⟩ := Clause.built_text h
          rw [Condition.check, TextSection.test_eval htest p]
          rfl
        | metadata =>
          obtain ⟨test, htest, rfl⟩ := Clause.built_metadata h
          rw [Condition.check, MetadataSection.test_eval htest p]
          rfl
        | all =>
          obtain ⟨cs, hcs, rfl⟩ := Clause.built_all h
          rw [Condition.check, Condition.checkAll_eq, buildAll_answers hpool all hcs]
          rfl
        | any =>
          obtain ⟨cs, hcs, rfl⟩ := Clause.built_any h
          rw [Condition.check, Condition.checkAny_eq, buildAll_answers hpool any hcs]
          rfl
        | not =>
          obtain ⟨c, built, hc, hbuilt, rfl⟩ := Clause.built_not h
          rw [Condition.check, build?_answer hpool child hc hbuilt]
          rfl
        | resource =>
          obtain ⟨target, htarget, rfl⟩ := Clause.built_resource h
          rw [Condition.check]
          exact hpool resource target htarget

theorem buildAll_answers {pool : Pool} {p : Part} {named : String → Checked}
    (hpool : pool.Gives (·.check ⟨p⟩) named) : ∀ (cs : List Config) {r : Registry} {kind : Kind}
    {i : Nat} {conds : List Condition},
    (Clause.buildAll pool r kind i (clauses cs)).result = .ok conds →
    (conds.map fun c => c.check ⟨p⟩) = answers named p r kind i cs
  | [], r, kind, i, conds, h => by
      cases h
      rfl
  | c :: rest, r, kind, i, conds, h => by
      obtain ⟨first, others, hfirst, hothers, rfl⟩ := Clause.built_cons h
      rw [List.map_cons, build_answer hpool c hfirst, buildAll_answers hpool rest hothers,
        answers]

theorem build?_answer {pool : Pool} {p : Part} {named : String → Checked}
    (hpool : pool.Gives (·.check ⟨p⟩) named) : ∀ (child : Option Config) {c : Clause}
    {r : Registry} {built : Condition}, clause? child = some c →
    (c.build pool r).result = .ok built → built.check ⟨p⟩ = answer? named p r child
  | none, _, _, _, hc, _ => nomatch hc
  | some c, _, _, _, hc, hbuilt => by
      obtain rfl := Option.some.inj hc
      exact build_answer hpool c hbuilt

end

/-- A config tells what the condition that is built from it answers. -/
theorem determines_check (p : Part) :
    Determines (·.check ⟨p⟩) fun named r c => c.answer named p r :=
  fun _ _ hpool _ c _ hcond => build_answer hpool c (built hcond)

end Config

/-- What the conditions of a pool answer for a part, by name. -/
def Pool.answer (pool : Pool) (p : Part) (name : String) : Checked :=
  match pool.find? name with
  | none => ⟨false, []⟩
  | some c => c.check ⟨p⟩

theorem Pool.gives_answer (pool : Pool) (p : Part) :
    pool.Gives (·.check ⟨p⟩) (pool.answer p) := by
  intro name c hfind
  rw [answer, hfind]

instance : Nonempty Checked := ⟨⟨false, []⟩⟩

/-- Answers of names, for a part, that are for every declared name those of
    its config. -/
def Declarations.Answers (d : Declarations) (r : Registry) (p : Part)
    (named : String → Checked) : Prop :=
  ∀ name c, d.conditions.find? name = some c → named name = c.answer named p (r.named name)

end BatchFilter
