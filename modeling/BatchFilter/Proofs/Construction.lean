import BatchFilter.Proofs.Rules

/-! # Building Node by Node

    Every config in a tree is a config of its own: it could be built alone,
    and then how deep it nests would be looked at once more, after its type
    is known and before anything below it is built.  Nothing comes of that:
    what is inside a config that does not nest too deep does not do so
    either.  So a whole config can be told from the rules of its nodes.

    * `Config.construct`: building every child like a config of its own.
    * `Config.construct_build`: it is no other way of building.
    * `Config.Obeys`: the rule of every type, as a condition on its section.
    * `Config.depth_eq`: how deep a config nests, told from its sections.
    * `Config.construct_first_violation`: which configs can be built, and
      what the others fail with. -/

namespace BatchFilter

namespace Config

/-! ## Section 1: Every child like a config of its own -/

mutual

/-- Build a condition from its config, and what is inside it in the same way:
    first its type has to be known, then it must not nest too deep, and then
    it is built from the section that its type reads. -/
def construct (pool : Pool) (r : Registry) : Config → Attempt Condition
  | ⟨kind, static, text, metadata, all, any, not, resource⟩ =>
      let depth := (Config.mk kind static text metadata all any not resource).depth
      match Kind.ofName? kind with
      | none => .fail (.unknownConditionType kind)
      | some k =>
          if depth > Limits.conditionDepth then
            .fail (.invalidConfig (.tooDeep depth Limits.conditionDepth))
          else
            match k with
            | .static => buildLeaf r .static (.static static)
            | .text => (Attempt.ofExcept text.test).bind (buildLeaf r .text)
            | .metadata => (Attempt.ofExcept metadata.test).bind (buildLeaf r .metadata)
            | .all =>
                (Attempt.ofExcept (checkCount .all all.length)).bind fun _ =>
                  (constructAll pool r .all 0 all).bind fun cs => pure (.all cs)
            | .any =>
                (Attempt.ofExcept (checkCount .any any.length)).bind fun _ =>
                  (constructAll pool r .any 0 any).bind fun cs => pure (.any cs)
            | .not =>
                (construct? pool (.within Kind.not.name r) not).bind fun c => pure (.not c)
            | .resource =>
                if resource = "" then .fail (.invalidConfig .nameRequired)
                else (Attempt.ofExcept (pool.resolve resource)).bind fun c => pure (.shared c)

/-- Build children, of which the first has number `i`. -/
def constructAll (pool : Pool) (r : Registry) (kind : Kind) (i : Nat) :
    List Config → Attempt (List Condition)
  | [] => pure []
  | c :: rest =>
      (c.construct pool (r.child kind i)).bind fun first =>
        (constructAll pool r kind (i + 1) rest).bind fun others => pure (first :: others)

/-- Build the child of a negation, which must be there. -/
def construct? (pool : Pool) (r : Registry) : Option Config → Attempt Condition
  | none => .fail (.invalidConfig .childRequired)
  | some c => c.construct pool r

end

/-- A config whose type nobody knows nests no deeper than 1. -/
theorem depth_unknown {c : Config} (h : Kind.ofName? c.kind = none) : c.depth = 1 := by
  obtain ⟨kind, static, text, metadata, all, any, not, resource⟩ := c
  unfold depth
  rw [clause]
  dsimp only at h
  rw [h]
  rfl

mutual

/-- **Looking at the depth again changes nothing** inside a config that does
    not nest too deep. -/
theorem construct_clause (pool : Pool) : ∀ (c : Config) (r : Registry),
    c.depth ≤ Limits.conditionDepth → c.construct pool r = c.clause.build pool r
  | ⟨kind, static, text, metadata, all, any, child, resource⟩, r, hdepth => by
      rw [construct, clause]
      rw [depth, clause] at hdepth
      cases hk : Kind.ofName? kind with
      | none => rfl
      | some k =>
        have hkept : ¬(Config.mk kind static text metadata all any child resource).depth
            > Limits.conditionDepth := by
          rw [depth, clause]
          exact Nat.not_lt_of_le hdepth
        simp only [if_neg hkept]
        rw [hk] at hdepth
        -- Only a combination has something inside, and it nests deeper than that.
        cases k with
        | static => rfl
        | text => rfl
        | metadata => rfl
        | resource => rfl
        | all =>
          have hinside : Clause.depthAll (clauses all) ≤ Limits.conditionDepth :=
            Nat.le_of_succ_le hdepth
          show _ = (Clause.all (clauses all)).build pool r
          rw [Clause.build, clauses_length, constructAll_clauses pool all hinside]
        | any =>
          have hinside : Clause.depthAll (clauses any) ≤ Limits.conditionDepth :=
            Nat.le_of_succ_le hdepth
          show _ = (Clause.any (clauses any)).build pool r
          rw [Clause.build, clauses_length, constructAll_clauses pool any hinside]
        | not =>
          have hinside : Clause.depth? (clause? child) ≤ Limits.conditionDepth :=
            Nat.le_of_succ_le hdepth
          show _ = (Clause.not (clause? child)).build pool r
          rw [Clause.build, construct?_clause? pool child hinside]

theorem constructAll_clauses (pool : Pool) : ∀ (cs : List Config) {r : Registry} {kind : Kind}
    {i : Nat}, Clause.depthAll (clauses cs) ≤ Limits.conditionDepth →
    constructAll pool r kind i cs = Clause.buildAll pool r kind i (clauses cs)
  | [], _, _, _, _ => rfl
  | c :: rest, r, kind, i, hdepth => by
      rw [clauses, Clause.depthAll] at hdepth
      have hfirst : c.depth ≤ Limits.conditionDepth := Nat.le_trans (Nat.le_max_left _ _) hdepth
      have hothers : Clause.depthAll (clauses rest) ≤ Limits.conditionDepth :=
        Nat.le_trans (Nat.le_max_right _ _) hdepth
      rw [constructAll, clauses, Clause.buildAll, construct_clause pool c _ hfirst,
        constructAll_clauses pool rest hothers]

theorem construct?_clause? (pool : Pool) : ∀ (c : Option Config) {r : Registry},
    Clause.depth? (clause? c) ≤ Limits.conditionDepth →
    construct? pool r c = Clause.build? pool r (clause? c)
  | none, _, _ => rfl
  | some c, r, hdepth => construct_clause pool c r hdepth

end

/-- Building every child like a config of its own is no other way of
    building: the depth of the whole is the only one that is ever too great. -/
theorem construct_build (pool : Pool) (r : Registry) (c : Config) :
    c.construct pool r = c.build pool r := by
  by_cases hdepth : c.depth ≤ Limits.conditionDepth
  · rw [construct_clause pool c r hdepth, build, if_neg (Nat.not_lt_of_le hdepth)]
  · have hdeep : c.depth > Limits.conditionDepth := Nat.lt_of_not_le hdepth
    rw [build, if_pos hdeep]
    cases hk : Kind.ofName? c.kind with
    | none =>
      -- It would nest too deep, and has no section that it reads.
      rw [depth_unknown hk] at hdeep
      exact absurd hdeep (by decide)
    | some k =>
      obtain ⟨kind, static, text, metadata, all, any, child, resource⟩ := c
      dsimp only at hk
      rw [construct]
      simp only [hk, if_pos hdeep]

/-! ## Section 2: The rules of the types -/

/-- A config follows the rule of its type, where some names are known.  The
    rule of a combination says nothing of what its children are. -/
def Obeys (known : String → Bool) (c : Config) : Prop :=
  match c.kind with
  | "static" => True
  | "text" => c.text.operator ∈ TextSection.operators
  | "metadata" =>
      c.metadata.key ≠ "" ∧
        (c.metadata.operator ∈ MetadataSection.textOperators ∨
          c.metadata.operator ∈ MetadataSection.integerOperators ∧
            ∃ n, Integer.ofString? c.metadata.arg = some n)
  | "and" => 1 ≤ c.all.length ∧ c.all.length ≤ Limits.conditionChildren
  | "or" => 1 ≤ c.any.length ∧ c.any.length ≤ Limits.conditionChildren
  | "not" => ∃ child, c.not = some child
  | "resource" => c.resource ≠ "" ∧ known c.resource = true
  | _ => False

end Config

theorem TextSection.fault?_eq_none {s : TextSection} :
    s.fault? = none ↔ s.operator ∈ operators := by
  unfold fault?
  split <;> simp_all

theorem MetadataSection.fault?_eq_none {s : MetadataSection} :
    s.fault? = none ↔ s.key ≠ "" ∧ (s.operator ∈ textOperators ∨
      s.operator ∈ integerOperators ∧ ∃ n, Integer.ofString? s.arg = some n) := by
  unfold fault?
  by_cases hkey : s.key = ""
  · simp [hkey]
  by_cases htext : s.operator ∈ textOperators
  · simp [hkey, htext]
  by_cases hinteger : s.operator ∈ integerOperators
  · simp [hkey, htext, hinteger, Option.isSome_iff_exists]
  · simp [hkey, htext, hinteger]

theorem countFault?_eq_none {kind : String} {count : Nat} :
    countFault? kind count = none ↔ 1 ≤ count ∧ count ≤ Limits.conditionChildren := by
  unfold countFault?
  by_cases hzero : count = 0
  · simp [hzero]
  by_cases hmany : count ≤ Limits.conditionChildren
  · simp [hzero, hmany, Nat.one_le_iff_ne_zero]
  · simp [hzero, hmany]

namespace Config

/-- A config has a fault of its own exactly if it breaks the rule of its
    type. -/
theorem ownFault?_eq_none {known : String → Bool} {c : Config} :
    c.ownFault? known = none ↔ c.Obeys known := by
  unfold ownFault? Obeys
  generalize c.kind = kind
  split
  case h_1 => simp
  case h_2 => simp [TextSection.fault?_eq_none]
  case h_3 => simp [MetadataSection.fault?_eq_none]
  case h_4 => simp [countFault?_eq_none]
  case h_5 => simp [countFault?_eq_none]
  case h_6 => simp [Option.isSome_iff_exists]
  case h_7 =>
    by_cases hname : c.resource = ""
    · simp [hname]
    · simp [hname]
  case h_8 => simp_all

/-- No config breaks the rule of its type by how deep it nests. -/
theorem ownFault?_ne_tooDeep {known : String → Bool} {c : Config} {depth limit : Nat} :
    c.ownFault? known ≠ some (.invalidConfig (.tooDeep depth limit)) := by
  unfold ownFault? TextSection.fault? MetadataSection.fault? countFault?
  split
  all_goals grind

/-! ## Section 3: How deep configs nest -/

theorem depthAll_clauses (cs : List Config) :
    Clause.depthAll (clauses cs) = (cs.map depth).foldr max 0 := by
  induction cs with
  | nil => rfl
  | cons c cs ih =>
    rw [clauses, Clause.depthAll, ih]
    rfl

/-- **How deep a config nests**: a combination nests one deeper than the deepest
    of its children, and whatever has no children has depth 1. -/
theorem depth_eq (c : Config) :
    c.depth =
      match c.kind with
      | "and" => (c.all.map depth).foldr max 0 + 1
      | "or" => (c.any.map depth).foldr max 0 + 1
      | "not" => (c.not.map depth).getD 0 + 1
      | _ => 1 := by
  cases hk : Kind.ofName? c.kind with
  | none =>
    -- A type that is not known is none of the three that have children.
    obtain ⟨_, _, _, hall, hany, hnot, _⟩ := ofName?_eq_none hk
    rw [depth_unknown hk]
    split
    case h_1 h => exact absurd h hall
    case h_2 h => exact absurd h hany
    case h_3 h => exact absurd h hnot
    case h_4 => rfl
  | some k =>
    obtain ⟨kind, static, text, metadata, all, any, child, resource⟩ := c
    obtain rfl := Kind.ofName?_eq hk
    cases k with
    | all => exact congrArg (· + 1) (depthAll_clauses all)
    | any => exact congrArg (· + 1) (depthAll_clauses any)
    | not => cases child <;> rfl
    | static => rfl
    | text => rfl
    | metadata => rfl
    | resource => rfl

/-! ## Section 4: The first violation -/

/-- What building a config fails with, where its type is known and it does not
    nest too deep: the fault of the first node that breaks its rule. -/
theorem fault?_eq_some {known : String → Bool} {c : Config} {e : Error}
    (hdepth : c.depth ≤ Limits.conditionDepth) :
    c.fault? known = some e ↔
      ∃ before n after, c.nodes = before ++ n :: after ∧ (∀ m ∈ before, m.Obeys known) ∧
        ¬n.Obeys known ∧ n.ownFault? known = some e := by
  rw [fault?, if_pos hdepth, List.findSome?_eq_some_iff]
  constructor
  · rintro ⟨before, n, after, hnodes, hfault, hbefore⟩
    refine ⟨before, n, after, hnodes, ?_, ?_, hfault⟩
    · intro m hm
      exact ownFault?_eq_none.mp (hbefore m hm)
    · intro hobeys
      rw [ownFault?_eq_none.mpr hobeys] at hfault
      cases hfault
  · rintro ⟨before, n, after, hnodes, hbefore, _, hfault⟩
    refine ⟨before, n, after, hnodes, hfault, ?_⟩
    intro m hm
    exact ownFault?_eq_none.mpr (hbefore m hm)

/-- A config is without fault exactly if it does not nest too deep and all its
    nodes follow their rules. -/
theorem fault?_eq_none {known : String → Bool} {c : Config} :
    c.fault? known = none ↔
      c.depth ≤ Limits.conditionDepth ∧ ∀ n ∈ c.nodes, n.Obeys known := by
  unfold fault?
  by_cases hdepth : c.depth ≤ Limits.conditionDepth
  · rw [if_pos hdepth, List.findSome?_eq_none_iff]
    simp only [hdepth, ownFault?_eq_none, true_and]
  · rw [if_neg hdepth]
    simp [hdepth]

/-- How deep a config nests is a fault of the whole only. -/
theorem fault?_tooDeep {known : String → Bool} {c : Config} {depth limit : Nat} :
    c.fault? known = some (.invalidConfig (.tooDeep depth limit)) ↔
      depth = c.depth ∧ limit = Limits.conditionDepth ∧ Limits.conditionDepth < c.depth := by
  by_cases hdepth : c.depth ≤ Limits.conditionDepth
  · constructor
    · intro hfault
      obtain ⟨_, n, _, _, _, _, hown⟩ := (fault?_eq_some hdepth).mp hfault
      exact absurd hown ownFault?_ne_tooDeep
    · rintro ⟨_, _, hdeep⟩
      exact absurd hdepth (Nat.not_le_of_lt hdeep)
  · have hdeep : Limits.conditionDepth < c.depth := Nat.lt_of_not_le hdepth
    rw [fault?, if_neg hdepth]
    simp only [Option.some.injEq, Error.invalidConfig.injEq, ConfigFault.tooDeep.injEq, hdeep,
      and_true]
    constructor
    · rintro ⟨rfl, rfl⟩
      exact ⟨rfl, rfl⟩
    · rintro ⟨rfl, rfl⟩
      exact ⟨rfl, rfl⟩

/-- A config whose type nobody knows is its own first fault. -/
theorem fault?_unknown {known : String → Bool} {c : Config} (h : Kind.ofName? c.kind = none) :
    c.fault? known = some (.unknownConditionType c.kind) := by
  have hshallow : c.depth ≤ Limits.conditionDepth := by
    rw [depth_unknown h]
    decide
  obtain ⟨h₁, h₂, h₃, h₄, h₅, h₆, h₇⟩ := ofName?_eq_none h
  obtain ⟨kind, static, text, metadata, all, any, child, resource⟩ := c
  rw [fault?, if_pos hshallow]
  simp [nodes, ownFault?]

/-- **Which configs can be built, and what the others fail with.**  Building
    looks at the depth of every node, and still only that of the root counts.
    A config can be built if and only if it does not nest too deep and every
    config that it reaches through the sections that are read follows the rule
    of its type, whatever the other sections hold.

    Otherwise the error is that of the first node, from left to right and each
    in front of what is below it, that breaks its rule; only that the type of
    the root is not known, and then that the root nests too deep, is told
    before anything below it.  The depth that is told is that of the root: one
    more than the greatest among its children, or 1 if it has none. -/
theorem construct_first_violation (pool : Pool) (r : Registry) (c : Config) :
    let built := (c.construct pool r).result
    c.construct pool r = c.build pool r ∧
    ((∃ cond, built = .ok cond) ↔
      c.depth ≤ Limits.conditionDepth ∧ ∀ n ∈ c.nodes, n.Obeys pool.knows) ∧
    (Kind.ofName? c.kind = none → built = .error (.unknownConditionType c.kind)) ∧
    (Kind.ofName? c.kind ≠ none → Limits.conditionDepth < c.depth →
      built = .error (.invalidConfig (.tooDeep c.depth Limits.conditionDepth))) ∧
    (c.depth ≤ Limits.conditionDepth → ∀ e, built = .error e ↔
      ∃ before n after, c.nodes = before ++ n :: after ∧ (∀ m ∈ before, m.Obeys pool.knows) ∧
        ¬n.Obeys pool.knows ∧ n.ownFault? pool.knows = some e) ∧
    (∀ depth limit, built = .error (.invalidConfig (.tooDeep depth limit)) ↔
      depth = c.depth ∧ limit = Limits.conditionDepth ∧ Limits.conditionDepth < c.depth) ∧
    c.depth =
      match c.kind with
      | "and" => (c.all.map depth).foldr max 0 + 1
      | "or" => (c.any.map depth).foldr max 0 + 1
      | "not" => (c.not.map depth).getD 0 + 1
      | _ => 1 := by
  intro built
  have hbuild : c.construct pool r = c.build pool r := construct_build pool r c
  -- What was built and what it fails with are told by the first fault.
  have hfault : Error.of? built = c.fault? pool.knows := by
    show (c.construct pool r).error? = _
    rw [hbuild, build_error?]
  have herror : ∀ e, built = .error e ↔ c.fault? pool.knows = some e := by
    intro e
    rw [← hfault, Error.of?_eq_some]
  refine ⟨hbuild, ?_, ?_, ?_, ?_, ?_, c.depth_eq⟩
  · rw [← Error.of?_eq_none, hfault, fault?_eq_none]
  · intro hunknown
    rw [herror, fault?_unknown hunknown]
  · intro _ hdeep
    rw [herror, fault?_tooDeep]
    exact ⟨rfl, rfl, hdeep⟩
  · intro hdepth e
    rw [herror, fault?_eq_some hdepth]
  · intro depth limit
    rw [herror, fault?_tooDeep]

end Config

end BatchFilter
