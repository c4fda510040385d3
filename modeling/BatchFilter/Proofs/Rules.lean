import BatchFilter.Proofs.Building

/-! # The Rules of Configs

    Every type of condition has a rule for its own section.  A config can be
    built if it does not nest too deep and every config that it reaches
    through the sections that are read follows its rule; otherwise the first
    fault, a config's own before those of what is below it, is the error.

    * `Config.nodes`: what a config reaches, in this order.
    * `Config.ownFault?`: how a config breaks the rule of its type.
    * `Config.fault?`: the first fault of a whole config.
    * `Config.build_error?`: it is what building fails with. -/

namespace BatchFilter

/-! ## Section 1: Faults -/

/-- The names of the text operators. -/
def TextSection.operators : List String :=
  ["equals_cs", "equals", "contains_cs", "contains", "prefix_cs", "prefix", "suffix_cs",
    "suffix"]

/-- How a text section breaks its rule. -/
def TextSection.fault? (s : TextSection) : Option ConfigFault :=
  if s.operator ∈ operators then none else some (.unknownTextOperator s.operator)

/-- The names of the metadata operators that compare texts, or nothing. -/
def MetadataSection.textOperators : List String :=
  ["equals_cs", "equals", "exists", "has_prefix"]

/-- The names of the metadata operators that compare integers. -/
def MetadataSection.integerOperators : List String :=
  ["greater_than", "less_than"]

/-- How a metadata section breaks its rule. -/
def MetadataSection.fault? (s : MetadataSection) : Option ConfigFault :=
  if s.key = "" then some .keyRequired
  else if s.operator ∈ textOperators then none
  else if s.operator ∈ integerOperators then
    if (Integer.ofString? s.arg).isSome then none
    else some (.integerRequired s.operator s.arg)
  else some (.unknownMetadataOperator s.operator)

/-- Why a combination must not have so many children. -/
def countFault? (kind : String) (count : Nat) : Option ConfigFault :=
  if count = 0 then some (.childrenRequired kind)
  else if count ≤ Limits.conditionChildren then none
  else some (.tooManyChildren kind count Limits.conditionChildren)

namespace Config

/-- How a config breaks the rule of its type, where some names are known.
    What its children do is their own matter. -/
def ownFault? (known : String → Bool) (c : Config) : Option Error :=
  match c.kind with
  | "static" => none
  | "text" => c.text.fault?.map .invalidConfig
  | "metadata" => c.metadata.fault?.map .invalidConfig
  | "and" => (countFault? "and" c.all.length).map .invalidConfig
  | "or" => (countFault? "or" c.any.length).map .invalidConfig
  | "not" => if c.not.isSome then none else some (.invalidConfig .childRequired)
  | "resource" =>
      if c.resource = "" then some (.invalidConfig .nameRequired)
      else if known c.resource then none
      else some (.resourceNotFound c.resource)
  | kind => some (.unknownConditionType kind)

mutual

/-- A config and all that is below it, as far as it is read: from left to
    right, and each in front of what is below it. -/
def nodes : Config → List Config
  | ⟨kind, static, text, metadata, all, any, not, resource⟩ =>
      ⟨kind, static, text, metadata, all, any, not, resource⟩ ::
        match kind with
        | "and" => nodesAll all
        | "or" => nodesAll any
        | "not" => nodes? not
        | _ => []

/-- The nodes of configs. -/
def nodesAll : List Config → List Config
  | [] => []
  | c :: rest => c.nodes ++ nodesAll rest

/-- The nodes of a config, if there is one. -/
def nodes? : Option Config → List Config
  | none => []
  | some c => c.nodes

end

/-- The first fault of a config: that it nests too deep, or else the first
    one of its nodes. -/
def fault? (known : String → Bool) (c : Config) : Option Error :=
  if c.depth ≤ Limits.conditionDepth then c.nodes.findSome? (ownFault? known)
  else some (.invalidConfig (.tooDeep c.depth Limits.conditionDepth))

end Config

/-! ## Section 2: What an attempt fails with -/

/-- The error of a result. -/
def Error.of? {α : Type} : Except Error α → Option Error
  | .ok _ => none
  | .error e => some e

namespace Error

variable {α β : Type}

theorem of?_eq_none {x : Except Error α} : of? x = none ↔ ∃ a, x = .ok a := by
  cases x <;> simp [of?]

theorem of?_eq_some {x : Except Error α} {e : Error} : of? x = some e ↔ x = .error e := by
  cases x <;> simp [of?]

theorem of?_map (x : Except Error α) (f : α → β) : of? (x.map f) = of? x := by
  cases x <;> rfl

end Error

namespace Attempt

variable {α β : Type}

/-- What an attempt fails with. -/
def error? (x : Attempt α) : Option Error :=
  Error.of? x.result

@[simp] theorem error?_fail (e : Error) : (fail e : Attempt α).error? = some e := rfl

@[simp] theorem error?_ofExcept (x : Except Error α) : (ofExcept x).error? = Error.of? x := rfl

/-- Of two steps the first that fails is what fails, if how the second fails
    does not depend on what came of the first. -/
theorem error?_bind {x : Attempt α} {f : α → Attempt β} {e : Option Error}
    (h : ∀ a, x.result = .ok a → (f a).error? = e) : (x.bind f).error? = x.error?.or e := by
  unfold Attempt.bind error?
  cases hx : x.result with
  | error e' => rfl
  | ok a => exact h a hx

/-- A step that cannot fail. -/
theorem error?_bind_none {x : Attempt α} {f : α → Attempt β}
    (h : ∀ a, (f a).error? = none) : (x.bind f).error? = x.error? := by
  rw [error?_bind fun a _ => h a, Option.or_none]

theorem error?_mapError (x : Attempt α) (f : Error → Error) :
    (x.mapError f).error? = x.error?.map f := by
  unfold mapError error?
  cases x.result <;> rfl

end Attempt

/-! ## Section 3: Building fails with the first fault -/

theorem TextSection.of?_test (s : TextSection) :
    Error.of? s.test = s.fault?.map .invalidConfig := by
  obtain ⟨operator, part, arg⟩ := s
  unfold test TextOperator.parse fault?
  cases hop : TextOperator.ofName? operator with
  | none =>
    have hunknown : operator ∉ operators := by
      intro hmem
      simp only [operators, List.mem_cons, List.not_mem_nil, or_false] at hmem
      rcases hmem with rfl | rfl | rfl | rfl | rfl | rfl | rfl | rfl <;> cases hop
    rw [if_neg hunknown]
    rfl
  | some op =>
    have hknown : operator ∈ operators := by
      unfold TextOperator.ofName? at hop
      split at hop <;> first | decide | cases hop
    rw [if_pos hknown]
    rfl

theorem MetadataOperator.of?_bound (name arg : String) :
    Error.of? (bound name arg)
      = if (Integer.ofString? arg).isSome then none
        else some (.invalidConfig (.integerRequired name arg)) := by
  unfold bound
  cases Integer.ofString? arg <;> rfl

theorem MetadataSection.of?_test (s : MetadataSection) :
    Error.of? s.test = s.fault?.map .invalidConfig := by
  obtain ⟨operator, part, key, arg⟩ := s
  unfold test fault?
  by_cases hkey : key = ""
  · rw [if_pos hkey, if_pos hkey]
    rfl
  rw [if_neg hkey, if_neg hkey, Error.of?_map]
  -- The name of the operator decides whether the argument matters.
  unfold MetadataOperator.parse
  dsimp only
  split
  case h_5 =>
    rw [Error.of?_map, MetadataOperator.of?_bound]
    cases (Integer.ofString? arg).isSome <;> rfl
  case h_6 =>
    rw [Error.of?_map, MetadataOperator.of?_bound]
    cases (Integer.ofString? arg).isSome <;> rfl
  case h_7 h₁ h₂ h₃ h₄ h₅ h₆ =>
    have htext : operator ∉ textOperators := by
      simpa [textOperators] using ⟨h₁, h₂, h₃, h₄⟩
    have hinteger : operator ∉ integerOperators := by
      simpa [integerOperators] using ⟨h₅, h₆⟩
    rw [if_neg htext, if_neg hinteger]
    rfl
  all_goals rfl

theorem of?_checkCount (kind : Kind) (count : Nat) :
    Error.of? (checkCount kind count) = (countFault? kind.name count).map .invalidConfig := by
  unfold checkCount countFault?
  by_cases hzero : count = 0
  · rw [if_pos hzero, if_pos hzero]
    rfl
  by_cases hmany : count ≤ Limits.conditionChildren
  · rw [if_neg hzero, if_neg hzero, if_neg (Nat.not_lt_of_le hmany), if_pos hmany]
    rfl
  · rw [if_neg hzero, if_neg hzero, if_pos (Nat.lt_of_not_le hmany), if_neg hmany]
    rfl

/-- Does a pool have a condition of the name? -/
def Pool.knows (pool : Pool) (name : String) : Bool :=
  (pool.find? name).isSome

theorem Pool.of?_resolve (pool : Pool) (name : String) :
    Error.of? (pool.resolve name)
      = if pool.knows name then none else some (.resourceNotFound name) := by
  unfold resolve knows
  cases pool.find? name <;> rfl

namespace Config

theorem clauses_length (cs : List Config) : (clauses cs).length = cs.length := by
  induction cs with
  | nil => rfl
  | cons c cs ih => rw [clauses, List.length_cons, List.length_cons, ih]

theorem findSome?_cons_or {α β : Type} (f : α → Option β) (a : α) (l : List α) :
    (a :: l).findSome? f = (f a).or (l.findSome? f) := by
  rw [List.findSome?_cons]
  cases f a <;> rfl

theorem ofName?_eq_none {kind : String} (h : Kind.ofName? kind = none) :
    kind ≠ "static" ∧ kind ≠ "text" ∧ kind ≠ "metadata" ∧ kind ≠ "and" ∧ kind ≠ "or" ∧
      kind ≠ "not" ∧ kind ≠ "resource" := by
  refine ⟨?_, ?_, ?_, ?_, ?_, ?_, ?_⟩ <;> rintro rfl <;> cases h

mutual

/-- **Building fails with the first fault of the nodes**, and only then. -/
theorem build_nodes (pool : Pool) : ∀ (c : Config) (r : Registry),
    (c.clause.build pool r).error? = c.nodes.findSome? (ownFault? pool.knows)
  | ⟨kind, static, text, metadata, all, any, child, resource⟩, r => by
      rw [clause]
      cases hk : Kind.ofName? kind with
      | none =>
        obtain ⟨h₁, h₂, h₃, h₄, h₅, h₆, h₇⟩ := ofName?_eq_none hk
        simp [Clause.build, nodes, ownFault?]
      | some k =>
        obtain rfl := Kind.ofName?_eq hk
        cases k with
        | static => rfl
        | text =>
          show ((Attempt.ofExcept text.test).bind _).error? = List.findSome? _ (_ :: [])
          rw [findSome?_cons_or, Attempt.error?_bind_none fun _ => rfl, Attempt.error?_ofExcept,
            TextSection.of?_test]
          exact (Option.or_none).symm
        | metadata =>
          show ((Attempt.ofExcept metadata.test).bind _).error? = List.findSome? _ (_ :: [])
          rw [findSome?_cons_or, Attempt.error?_bind_none fun _ => rfl, Attempt.error?_ofExcept,
            MetadataSection.of?_test]
          exact (Option.or_none).symm
        | all =>
          show (Clause.build pool r (.all (clauses all))).error?
            = List.findSome? _ (_ :: nodesAll all)
          rw [findSome?_cons_or, Clause.build,
            Attempt.error?_bind fun _ _ => Attempt.error?_bind_none fun _ => rfl,
            Attempt.error?_ofExcept, of?_checkCount, clauses_length, buildAll_nodes pool all]
          rfl
        | any =>
          show (Clause.build pool r (.any (clauses any))).error?
            = List.findSome? _ (_ :: nodesAll any)
          rw [findSome?_cons_or, Clause.build,
            Attempt.error?_bind fun _ _ => Attempt.error?_bind_none fun _ => rfl,
            Attempt.error?_ofExcept, of?_checkCount, clauses_length, buildAll_nodes pool any]
          rfl
        | not =>
          show (Clause.build pool r (.not (clause? child))).error?
            = List.findSome? _ (_ :: nodes? child)
          rw [findSome?_cons_or, Clause.build, Attempt.error?_bind_none fun _ => rfl,
            build?_nodes pool child]
          rfl
        | resource =>
          show (Clause.build pool r (.resource resource)).error? = List.findSome? _ (_ :: [])
          rw [findSome?_cons_or, Clause.build, List.findSome?_nil, Option.or_none]
          show _ = if resource = "" then _ else _
          by_cases hname : resource = ""
          · rw [if_pos hname, if_pos hname, Attempt.error?_fail]
          · rw [if_neg hname, if_neg hname, Attempt.error?_bind_none fun _ => rfl,
              Attempt.error?_ofExcept, Pool.of?_resolve]

/-- Children are built from left to right. -/
theorem buildAll_nodes (pool : Pool) : ∀ (cs : List Config) {r : Registry} {kind : Kind} {i : Nat},
    (Clause.buildAll pool r kind i (clauses cs)).error?
      = (nodesAll cs).findSome? (ownFault? pool.knows)
  | [], _, _, _ => rfl
  | c :: rest, r, kind, i => by
      rw [clauses, Clause.buildAll, nodesAll, List.findSome?_append,
        Attempt.error?_bind fun _ _ => Attempt.error?_bind_none fun _ => rfl,
        build_nodes pool c, buildAll_nodes pool rest]

/-- The child of a negation must be there. -/
theorem build?_nodes (pool : Pool) : ∀ (c : Option Config) {r : Registry},
    (Clause.build? pool r (clause? c)).error?
      = (if c.isSome then none else some (.invalidConfig .childRequired) : Option Error).or
          ((nodes? c).findSome? (ownFault? pool.knows))
  | none, _ => rfl
  | some c, r => by
      rw [clause?, Clause.build?, build_nodes pool c]
      rfl

end

/-- **Building a config fails with its first fault**, and succeeds if it has
    none. -/
theorem build_error? (pool : Pool) (r : Registry) (c : Config) :
    (c.build pool r).error? = c.fault? pool.knows := by
  unfold build fault?
  by_cases hdepth : c.depth ≤ Limits.conditionDepth
  · rw [if_neg (Nat.not_lt_of_le hdepth), if_pos hdepth, build_nodes pool c r]
  · rw [if_pos (Nat.lt_of_not_le hdepth), if_neg hdepth, Attempt.error?_fail]

end Config

end BatchFilter
