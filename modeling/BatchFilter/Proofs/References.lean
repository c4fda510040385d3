import BatchFilter.Proofs.Rules
import Mathlib.Logic.Relation

/-! # The Graph of References

    Declared names refer to one another.  A walk through them comes to its
    end if and only if no name refers to itself, directly or through others;
    it then leaves every declared name behind those it refers to, and
    otherwise it stops at a name that refers to itself.

    * `Declarations.Refers`: the graph, told from the configs.
    * `Declarations.Settled`: names of which each comes after those it refers to.
    * `Declarations.order_spec`: what the order is, or why there is none. -/

namespace BatchFilter

/-! ## Section 1: The names a config refers to -/

namespace Config

/-- The name that a config refers to itself. -/
def reference? (c : Config) : Option String :=
  if c.kind = "resource" then some c.resource else none

/-- The names that a config and all below it refer to. -/
def names (c : Config) : List String :=
  c.nodes.filterMap reference?

theorem filterMap_reference?_leaf {c : Config} (h : c.kind ≠ "resource") (rest : List Config) :
    (c :: rest).filterMap reference? = rest.filterMap reference? :=
  List.filterMap_cons_none (if_neg h)

mutual

/-- The references of a clause are the names of its config. -/
theorem references_nodes : ∀ c : Config, c.clause.references = c.nodes.filterMap reference?
  | ⟨kind, static, text, metadata, all, any, child, resource⟩ => by
      rw [clause]
      cases hk : Kind.ofName? kind with
      | none =>
        obtain ⟨h₁, h₂, h₃, h₄, h₅, h₆, h₇⟩ := ofName?_eq_none hk
        simp [Clause.references, nodes, reference?, h₇]
      | some k =>
        obtain rfl := Kind.ofName?_eq hk
        cases k with
        | static => rfl
        | text => rfl
        | metadata => rfl
        | all =>
          show (Clause.all (clauses all)).references = List.filterMap _ (_ :: nodesAll all)
          rw [filterMap_reference?_leaf (show Kind.all.name ≠ _ by decide), Clause.references,
            references_nodesAll all]
        | any =>
          show (Clause.any (clauses any)).references = List.filterMap _ (_ :: nodesAll any)
          rw [filterMap_reference?_leaf (show Kind.any.name ≠ _ by decide), Clause.references,
            references_nodesAll any]
        | not =>
          show (Clause.not (clause? child)).references = List.filterMap _ (_ :: nodes? child)
          rw [filterMap_reference?_leaf (show Kind.not.name ≠ _ by decide), Clause.references,
            references_nodes? child]
        | resource => rfl

theorem references_nodesAll : ∀ cs : List Config,
    Clause.referencesAll (clauses cs) = (nodesAll cs).filterMap reference?
  | [] => rfl
  | c :: rest => by
      rw [clauses, Clause.referencesAll, nodesAll, List.filterMap_append, references_nodes c,
        references_nodesAll rest]

theorem references_nodes? : ∀ c : Option Config,
    Clause.references? (clause? c) = (nodes? c).filterMap reference?
  | none => rfl
  | some c => references_nodes c

end

/-- What is known of other names than those it refers to is nothing to a
    config. -/
theorem ownFault?_congr {known known' : String → Bool} {c : Config}
    (h : ∀ name, c.reference? = some name → known name = known' name) :
    c.ownFault? known = c.ownFault? known' := by
  unfold ownFault?
  split
  case h_7 hkind =>
    rw [h c.resource (if_pos hkind)]
  all_goals rfl

theorem findSome?_congr {known known' : String → Bool} {cs : List Config}
    (h : ∀ name ∈ cs.filterMap reference?, known name = known' name) :
    cs.findSome? (ownFault? known) = cs.findSome? (ownFault? known') := by
  induction cs with
  | nil => rfl
  | cons c cs ih =>
    have hfirst : c.ownFault? known = c.ownFault? known' := by
      apply ownFault?_congr
      intro name hname
      exact h name (List.mem_filterMap.mpr ⟨c, List.mem_cons_self, hname⟩)
    have hrest : ∀ name ∈ cs.filterMap reference?, known name = known' name := by
      intro name hname
      obtain ⟨c', hc', hname⟩ := List.mem_filterMap.mp hname
      exact h name (List.mem_filterMap.mpr ⟨c', List.mem_cons_of_mem c hc', hname⟩)
    rw [findSome?_cons_or, findSome?_cons_or, hfirst, ih hrest]

theorem fault?_congr {known known' : String → Bool} {c : Config}
    (h : ∀ name ∈ c.names, known name = known' name) : c.fault? known = c.fault? known' := by
  unfold fault?
  rw [findSome?_congr h]

end Config

/-! ## Section 2: The graph -/

namespace Declarations

/-- A declared name refers to another: its config does, or what is below
    it. -/
def Refers (d : Declarations) (a b : String) : Prop :=
  ∃ c, d.conditions.find? a = some c ∧ b ∈ c.names ∧ b ∈ d.conditions.keys

/-- A name refers to another one, directly or through others. -/
def DependsOn (d : Declarations) : String → String → Prop :=
  Relation.TransGen d.Refers

/-- No name depends on itself. -/
def Acyclic (d : Declarations) : Prop :=
  ∀ name, ¬d.DependsOn name name

/-- Names, the newest first, of which each comes after those it refers to. -/
def Settled (d : Declarations) : List String → Prop
  | [] => True
  | name :: rest => (∀ target, d.Refers name target → target ∈ rest) ∧ d.Settled rest

theorem settled_append {d : Declarations} {front back : List String}
    (h : d.Settled (front ++ back)) : d.Settled back := by
  induction front with
  | nil => exact h
  | cons name front ih => exact ih h.2

/-- What settled names depend on is settled as well. -/
theorem settled_dependsOn {d : Declarations} {names : List String} (h : d.Settled names)
    {a b : String} (hdepends : d.DependsOn a b) (ha : a ∈ names) : b ∈ names := by
  have hstep : ∀ {a b : String}, d.Refers a b → a ∈ names → b ∈ names := by
    intro a b href ha
    obtain ⟨front, back, rfl⟩ := List.append_of_mem ha
    have hback := (settled_append h).1 b href
    exact List.mem_append_right front (List.mem_cons_of_mem a hback)
  induction hdepends with
  | single href => exact hstep href ha
  | tail _ href ih => exact hstep href ih

/-- **Settled names do not depend on themselves.** -/
theorem settled_acyclic {d : Declarations} {names : List String} (h : d.Settled names)
    {name : String} (hname : name ∈ names) : ¬d.DependsOn name name := by
  induction names with
  | nil => cases hname
  | cons first rest ih =>
    by_cases hrest : name ∈ rest
    · exact ih h.2 hrest
    · -- Whatever the first name refers to is behind it, and stays there.
      obtain rfl := (List.mem_cons.mp hname).resolve_right hrest
      intro hcycle
      obtain ⟨target, href, hback⟩ := Relation.TransGen.head'_iff.mp hcycle
      have htarget := h.1 target href
      rcases Relation.reflTransGen_iff_eq_or_transGen.mp hback with heq | hdepends
      · exact hrest (heq ▸ htarget)
      · exact hrest (settled_dependsOn h.2 hdepends htarget)

/-! ## Section 3: What a walk does -/

theorem find?_clauses (d : Declarations) (name : String) :
    d.clauses.find? name = (d.conditions.find? name).map Config.clause :=
  Dictionary.find?_map Config.clause d.conditions name

theorem keys_clauses (d : Declarations) : d.clauses.keys = d.conditions.keys :=
  Dictionary.keys_map Config.clause d.conditions

/-- The declared names that a clause of a name refers to are those that the
    name refers to. -/
theorem refers_iff {d : Declarations} {name : String} {clause : Clause}
    (h : d.clauses.find? name = some clause) (target : String) :
    d.Refers name target ↔ target ∈ clause.references ∧ target ∈ d.conditions.keys := by
  rw [find?_clauses] at h
  obtain ⟨c, hc, rfl⟩ := Option.map_eq_some_iff.mp h
  rw [Config.references_nodes]
  constructor
  · rintro ⟨c', hc', htarget⟩
    obtain rfl : c' = c := Option.some.inj (hc'.symm.trans hc)
    exact htarget
  · intro htarget
    exact ⟨c, hc, htarget⟩

/-- A walk that fails does so at one of its visits. -/
theorem visitAll_error {clauses : Dictionary Clause} {path names done : List String} {e : Error}
    (h : visitAll clauses path done names = .error e) :
    ∃ done₁, ∃ name ∈ names, visit clauses path done₁ name = .error e := by
  induction names generalizing done with
  | nil => cases h
  | cons name names ih =>
    rw [visitAll_cons] at h
    cases hvisit : visit clauses path done name with
    | error e' =>
      rw [hvisit] at h
      cases h
      exact ⟨done, name, List.mem_cons_self, hvisit⟩
    | ok done₁ =>
      rw [hvisit] at h
      obtain ⟨done₂, name', hname', hfail⟩ := ih h
      exact ⟨done₂, name', List.mem_cons_of_mem name hname', hfail⟩

/-- What a visit that failed did: it met a name of its path, or a visit from
    the longer path failed. -/
theorem visit_error {clauses : Dictionary Clause} {path done : List String} {name : String}
    {e : Error} (h : visit clauses path done name = .error e) :
    (name ∈ path ∧ e = .invalidConfig (.selfReference name)) ∨
      ∃ clause done₁, ∃ target ∈ clause.references, clauses.find? name = some clause ∧
        name ∉ path ∧ visit clauses (name :: path) done₁ target = .error e := by
  rw [visit_eq] at h
  by_cases hdone : name ∈ done
  · rw [if_pos hdone] at h
    cases h
  by_cases hpath : name ∈ path
  · rw [if_neg hdone, if_pos hpath] at h
    cases h
    exact Or.inl ⟨hpath, rfl⟩
  rw [if_neg hdone, if_neg hpath] at h
  cases hfind : clauses.find? name with
  | none =>
    rw [hfind] at h
    cases h
  | some clause =>
    simp only [hfind] at h
    cases hall : visitAll clauses (name :: path) done clause.references with
    | ok done₁ =>
      rw [hall] at h
      cases h
    | error e' =>
      rw [hall] at h
      cases h
      obtain ⟨done₁, target, htarget, hvisit⟩ := visitAll_error hall
      exact Or.inr ⟨clause, done₁, target, htarget, rfl, hpath, hvisit⟩

/-- A name that is visited is what all names of the path depend on, if it is
    declared. -/
def Leads (d : Declarations) (path : List String) (name : String) : Prop :=
  name ∈ d.conditions.keys → ∀ a ∈ path, d.DependsOn a name

/-- **A visit fails at a name that depends on itself.** -/
theorem visit_cycle (d : Declarations) (path : List String)
    (hpath : ∀ a ∈ path, a ∈ d.conditions.keys) :
    ∀ {done name e}, d.Leads path name → visit d.clauses path done name = .error e →
      ∃ n, e = .invalidConfig (.selfReference n) ∧ d.DependsOn n n := by
  induction hn : unvisited d.clauses path using Nat.strongRecOn generalizing path with
  | ind n ih =>
    intro done name e hleads h
    rcases visit_error h with ⟨hmem, rfl⟩ | ⟨clause, done₁, target, htarget, hfind, hnot, hvisit⟩
    · exact ⟨name, rfl, hleads (hpath name hmem) name hmem⟩
    · have hkey : name ∈ d.clauses.keys := Dictionary.mem_keys_of_find? hfind
      have hdeclared : name ∈ d.conditions.keys := d.keys_clauses ▸ hkey
      have hpath' : ∀ a ∈ name :: path, a ∈ d.conditions.keys := by
        intro a ha
        rcases List.mem_cons.mp ha with rfl | ha
        · exact hdeclared
        · exact hpath a ha
      -- The path goes on to the target through the name.
      have hleads' : d.Leads (name :: path) target := by
        intro hkey' a ha
        have href : d.Refers name target := (refers_iff hfind target).mpr ⟨htarget, hkey'⟩
        rcases List.mem_cons.mp ha with rfl | ha
        · exact .single href
        · exact (hleads hdeclared a ha).tail href
      exact ih _ (hn ▸ unvisited_lt hkey hnot) (name :: path) hpath' rfl hleads' hvisit

/-- **A visit keeps names settled.** -/
theorem visit_settled (d : Declarations) (path : List String) :
    ∀ {done name done'}, visit d.clauses path done name = .ok done' →
      d.Settled done → d.Settled done' := by
  induction hn : unvisited d.clauses path using Nat.strongRecOn generalizing path with
  | ind n ih =>
    intro done name done' h hdone
    rcases visit_ok h with ⟨rfl, _⟩ | ⟨clause, done₁, hclause, hpath, hall, rfl⟩
    · exact hdone
    · have hkey := Dictionary.mem_keys_of_find? hclause
      have hlt := hn ▸ unvisited_lt hkey hpath
      refine ⟨?_, ?_⟩
      · intro target href
        obtain ⟨htarget, hdeclared⟩ := (refers_iff hclause target).mp href
        exact mem_visitAll hall htarget (d.keys_clauses ▸ hdeclared)
      · exact visitAll_induct (P := fun done done' => d.Settled done → d.Settled done')
          (fun _ h => h) (fun h h' hs => h' (h hs))
          (fun hvisit => ih _ hlt (name :: path) rfl hvisit) hall hdone

/-! ## Section 4: The order -/

/-- **The order of building**: it has every declared name after those it
    refers to, and then no name depends on itself; or there is none, and the
    error names one that does. -/
theorem order_spec (d : Declarations) :
    (∃ names, d.order = .ok names ∧ d.Settled names.reverse ∧
      (∀ name ∈ d.conditions.keys, name ∈ names) ∧ d.Acyclic) ∨
    ∃ name, d.order = .error (.invalidConfig (.selfReference name)) ∧ d.DependsOn name name := by
  cases horder : d.order with
  | ok names =>
    refine Or.inl ⟨names, rfl, ?_⟩
    have hmem : ∀ name ∈ d.conditions.keys, name ∈ names := fun name => mem_order horder
    obtain ⟨done, hall, rfl⟩ := order_ok horder
    have hsettled : d.Settled done := visitAll_induct
      (P := fun done done' => d.Settled done → d.Settled done') (fun _ h => h)
      (fun h h' hs => h' (h hs)) (fun hvisit => visit_settled d [] hvisit) hall trivial
    refine ⟨by rwa [List.reverse_reverse], hmem, ?_⟩
    intro name hcycle
    obtain ⟨_, ⟨c, hc, _⟩, _⟩ := Relation.TransGen.head'_iff.mp hcycle
    have hname := hmem name (Dictionary.mem_keys_of_find? hc)
    exact settled_acyclic hsettled (List.mem_reverse.mp hname) hcycle
  | error e =>
    change (visitAll d.clauses [] [] d.conditions.keys).map List.reverse = .error e at horder
    cases hall : visitAll d.clauses [] [] d.conditions.keys with
    | ok done =>
      rw [hall] at horder
      cases horder
    | error e' =>
      rw [hall] at horder
      cases horder
      obtain ⟨done, name, _, hvisit⟩ := visitAll_error hall
      obtain ⟨n, rfl, hcycle⟩ := visit_cycle d [] nofun (fun _ _ ha => nomatch ha) hvisit
      exact Or.inr ⟨n, rfl, hcycle⟩

end Declarations

end BatchFilter
