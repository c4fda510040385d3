import BatchFilter.Proofs.Answers
import BatchFilter.Proofs.Registering

/-! # The Leaves of Conditions

    The leaves that a condition may ever ask are those of its config and those
    of the conditions in the pool it was built with.  These are also the ones
    whose counters were registered, so that whoever is asked finds its counters
    in place.

    * `Config.mem_answer`: the leaves of a config that may be asked.
    * `Pool.Made`: pools that come from adding conditions.
    * `Pool.Made.asked_built`: nobody is asked who was not registered.
    * `Declarations.made_build`: declarations make such a pool. -/

namespace BatchFilter

/-! ## Section 1: Leaves of configs -/

namespace Checked

theorem mem_ofLeaf {tally : Tally} {verdict : Bool} {v : Visit}
    (h : v ∈ (ofLeaf tally verdict).visits) : v.tally ∈ [tally] := by
  rw [List.mem_singleton.mp h]
  exact List.mem_singleton_self tally

/-- Nobody is visited but by one of those who may be asked. -/
theorem mem_askUntil {b : Bool} {answers : List Checked} {v : Visit}
    (h : v ∈ (askUntil b answers).visits) : ∃ a ∈ answers, v ∈ a.visits := by
  obtain ⟨a, ha, hv⟩ := List.mem_flatMap.mp h
  exact ⟨a, List.mem_of_mem_take ha, hv⟩

end Checked

namespace Config

variable {named : String → Checked} {p : Part}

mutual

/-- **Every leaf that is asked** is one of the config, or one that is asked for
    a name that the config refers to. -/
theorem mem_answer : ∀ (c : Config) {r : Registry} {v : Visit},
    v ∈ (c.answer named p r).visits →
      v.tally ∈ c.tallies r ∨ ∃ name ∈ c.clause.references, v ∈ (named name).visits
  | ⟨kind, static, text, metadata, all, any, child, resource⟩, r, v, h => by
      unfold answer at h
      unfold tallies
      split at h
      · exact Or.inl (Checked.mem_ofLeaf h)
      · exact Or.inl (Checked.mem_ofLeaf h)
      · exact Or.inl (Checked.mem_ofLeaf h)
      · obtain ⟨a, ha, hv⟩ := Checked.mem_askUntil h
        exact mem_answers all ha hv
      · obtain ⟨a, ha, hv⟩ := Checked.mem_askUntil h
        exact mem_answers any ha hv
      · exact mem_answer? child h
      · exact Or.inr ⟨resource, List.mem_singleton_self resource, h⟩
      · cases h

theorem mem_answers : ∀ (cs : List Config) {r : Registry} {kind : Kind} {i : Nat} {a : Checked}
    {v : Visit}, a ∈ answers named p r kind i cs → v ∈ a.visits →
      v.tally ∈ talliesAll r kind i cs ∨
        ∃ name ∈ Clause.referencesAll (clauses cs), v ∈ (named name).visits
  | [], _, _, _, _, _, ha, _ => by
      rw [answers] at ha
      cases ha
  | c :: rest, r, kind, i, a, v, ha, hv => by
      rw [answers] at ha
      rw [talliesAll, List.mem_append, clauses, Clause.referencesAll]
      rcases List.mem_cons.mp ha with rfl | ha
      · rcases mem_answer c hv with htally | ⟨name, hname, hv⟩
        · exact Or.inl (Or.inl htally)
        · exact Or.inr ⟨name, List.mem_append_left _ hname, hv⟩
      · rcases mem_answers rest ha hv with htally | ⟨name, hname, hv⟩
        · exact Or.inl (Or.inr htally)
        · exact Or.inr ⟨name, List.mem_append_right _ hname, hv⟩

theorem mem_answer? : ∀ (child : Option Config) {r : Registry} {v : Visit},
    v ∈ (answer? named p r child).visits →
      v.tally ∈ tallies? r child ∨
        ∃ name ∈ Clause.references? (clause? child), v ∈ (named name).visits
  | none, _, _, h => by
      rw [answer?] at h
      cases h
  | some c, r, v, h => by
      rw [answer?] at h
      rw [tallies?]
      exact mem_answer c h

end

end Config

/-! ## Section 2: Leaves are asked -/

/-- Pools that come from adding conditions, and the leaves that were registered
    for that. -/
inductive Pool.Made : Pool → List Tally → Prop where
  | empty : Made .empty []
  | add {pool pool' : Pool} {ts : List Tally} {r : Registry} {name : String} {c : Config}
      (hmade : Made pool ts) (hadd : (pool.add r name c).result = .ok pool') :
      Made pool' (ts ++ c.tallies (r.named name))

namespace Pool

variable {pool : Pool} {ts : List Tally}

/-- Who is asked by a condition that is built with a pool whose names ask certain
    leaves. -/
theorem asked_built {P : String → Tally → Prop}
    (hpool : ∀ name target, pool.find? name = some target → ∀ s, ∀ v ∈ (target.check s).visits,
      P name v.tally)
    {c : Config} {r : Registry} {cond : Condition} (h : (c.build pool r).result = .ok cond)
    {s : SinglePart} {v : Visit} (hv : v ∈ (cond.check s).visits) :
    v.tally ∈ c.tallies r ∨ ∃ name ∈ c.clause.references, P name v.tally := by
  obtain ⟨p⟩ := s
  rw [Config.build_answer (pool.gives_answer p) c (Config.built h)] at hv
  apply (Config.mem_answer c hv).imp_right
  rintro ⟨name, hname, hasked⟩
  refine ⟨name, hname, ?_⟩
  unfold Pool.answer at hasked
  cases hfind : pool.find? name with
  | none =>
    rw [hfind] at hasked
    cases hasked
  | some target =>
    rw [hfind] at hasked
    exact hpool name target hfind _ v hasked

/-- The conditions of a pool ask nobody but leaves that were registered. -/
theorem Made.asked (h : pool.Made ts) : ∀ name target, pool.find? name = some target →
    ∀ s, ∀ v ∈ (target.check s).visits, v.tally ∈ ts := by
  induction h with
  | empty => exact fun _ _ hfind => nomatch hfind
  | @add pool pool' ts r name c _ hadd ih =>
    obtain ⟨cond, hcond, hpure⟩ := Attempt.bind_ok hadd
    obtain rfl := Attempt.pure_ok hpure
    intro n target hfind s v hv
    rw [find?_insert] at hfind
    split at hfind
    · cases hfind
      rcases asked_built (P := fun _ t => t ∈ ts) ih hcond hv with hown | ⟨_, _, hnamed⟩
      · exact List.mem_append_right ts hown
      · exact List.mem_append_left _ hnamed
    · exact List.mem_append_left _ (ih n target hfind s v hv)

/-- **Nobody is asked but leaves that were registered**, for the condition or
    for the pool it was built with. -/
theorem Made.asked_built (h : pool.Made ts) {c : Config} {r : Registry} {cond : Condition}
    (hcond : (c.build pool r).result = .ok cond) {s : SinglePart} {v : Visit}
    (hv : v ∈ (cond.check s).visits) : v.tally ∈ c.tallies r ∨ v.tally ∈ ts :=
  (Pool.asked_built (P := fun _ t => t ∈ ts) h.asked hcond hv).imp_right
    fun ⟨_, _, hnamed⟩ => hnamed

end Pool

/-! ## Section 3: Leaves are declared -/

namespace Declarations

variable {d : Declarations} {r : Registry}

/-- The counters of the leaves of the config that is declared under a name. -/
def talliesOf (d : Declarations) (r : Registry) (name : String) : List Tally :=
  match d.conditions.find? name with
  | none => []
  | some c => c.tallies (r.named name)

theorem talliesOf_some {name : String} {c : Config} (h : d.conditions.find? name = some c) :
    d.talliesOf r name = c.tallies (r.named name) := by
  rw [talliesOf, h]

/-- Only a declared name has leaves. -/
theorem talliesOf_declared {name : String} {t : Tally} (h : t ∈ d.talliesOf r name) :
    name ∈ d.conditions.keys := by
  unfold talliesOf at h
  cases hfind : d.conditions.find? name with
  | none =>
    rw [hfind] at h
    cases h
  | some c => exact Dictionary.mem_keys_of_find? hfind

theorem made_addNamed {pool pool' : Pool} {ts : List Tally} {name : String}
    (hmade : pool.Made ts) (h : (d.addNamed r pool name).result = .ok pool') :
    pool'.Made (ts ++ d.talliesOf r name) := by
  unfold addNamed at h
  cases hfind : d.conditions.find? name with
  | none =>
    simp only [hfind] at h
    obtain rfl := Attempt.pure_ok h
    rw [talliesOf, hfind, List.append_nil]
    exact hmade
  | some c =>
    simp only [hfind] at h
    rw [talliesOf_some hfind]
    exact .add hmade (Attempt.mapError_ok h)

theorem made_addAll {names : List String} {pool pool' : Pool} {ts : List Tally}
    (hmade : pool.Made ts) (h : (d.addAll r pool names).result = .ok pool') :
    pool'.Made (ts ++ names.flatMap (d.talliesOf r)) := by
  induction names generalizing pool ts with
  | nil =>
    obtain rfl := Attempt.pure_ok h
    rw [List.flatMap_nil, List.append_nil]
    exact hmade
  | cons name names ih =>
    obtain ⟨pool₁, hpool₁, hrest⟩ := Attempt.bind_ok h
    have hmade' := ih (made_addNamed hmade hpool₁) hrest
    rw [List.append_assoc] at hmade'
    exact hmade'

/-- A declared condition registers the counters of its leaves. -/
theorem registered_addNamed {pool pool' : Pool} {name : String}
    (h : (d.addNamed r pool name).result = .ok pool') :
    (d.addNamed r pool name).registered = countersOf (d.talliesOf r name) := by
  unfold addNamed at h ⊢
  cases hfind : d.conditions.find? name with
  | none =>
    rw [talliesOf, hfind]
    rfl
  | some c =>
    simp only [hfind] at h ⊢
    rw [talliesOf_some hfind, Attempt.registered_mapError,
      Pool.registered_add (Attempt.mapError_ok h)]

theorem registered_addAll {names : List String} {pool pool' : Pool}
    (h : (d.addAll r pool names).result = .ok pool') :
    (d.addAll r pool names).registered = countersOf (names.flatMap (d.talliesOf r)) := by
  induction names generalizing pool with
  | nil => rfl
  | cons name names ih =>
    obtain ⟨pool₁, hpool₁, hrest⟩ := Attempt.bind_ok h
    rw [List.flatMap_cons, addAll, Attempt.registered_bind hpool₁, registered_addNamed hpool₁,
      ih hrest, countersOf_append]

/-- Declarations are built in their order, and register the counters of the
    leaves of all names. -/
theorem registered_order {pool : Pool} (h : (d.build r).result = .ok pool) :
    ∃ names, d.order = .ok names ∧ (d.addAll r .empty names).result = .ok pool ∧
      (d.build r).registered = countersOf (names.flatMap (d.talliesOf r)) := by
  obtain ⟨names, hnames, hadd⟩ := Attempt.bind_ok h
  refine ⟨names, hnames, hadd, ?_⟩
  unfold build
  rw [Attempt.registered_bind hnames, registered_addAll hadd]
  exact List.nil_append _

/-- **What declarations register** are the counters of the leaves of all names,
    each name after those it refers to. -/
theorem made_build {pool : Pool} (h : (d.build r).result = .ok pool) :
    ∃ ts, pool.Made ts ∧ (d.build r).registered = countersOf ts ∧
      ∀ t, t ∈ ts ↔ ∃ name, t ∈ d.talliesOf r name := by
  obtain ⟨names, hnames, hadd, hregistered⟩ := registered_order h
  refine ⟨names.flatMap (d.talliesOf r), made_addAll .empty hadd, hregistered, ?_⟩
  intro t
  rw [List.mem_flatMap]
  constructor
  · rintro ⟨name, _, ht⟩
    exact ⟨name, ht⟩
  · rintro ⟨name, ht⟩
    exact ⟨name, mem_order hnames (talliesOf_declared ht), ht⟩

end Declarations

/-! ## Section 4: Where leaves are counted -/

/-- The table that a registry leads to and what it puts in front of paths, or
    nothing if it leads nowhere. -/
def Registry.place : Registry → Option (Nat × String)
  | .table id => some (id, "")
  | .discard => none
  | .within ns inner => inner.place.map fun place => (place.1, place.2 ++ (ns ++ "."))

theorem Registry.place_within {r : Registry} {id : Nat} {front : String}
    (h : r.place = some (id, front)) (ns : String) :
    (Registry.within ns r).place = some (id, front ++ (ns ++ ".")) := by
  rw [place, h]
  rfl

theorem Registry.counter_place {r : Registry} {id : Nat} {front : String}
    (h : r.place = some (id, front)) (path : String) :
    r.counter path = .kept id (front ++ path) := by
  induction r generalizing front path with
  | table id' =>
    cases h
    rw [String.empty_append]
    rfl
  | discard => cases h
  | within ns inner ih =>
    obtain ⟨⟨id', front'⟩, hinner, heq⟩ := Option.map_eq_some_iff.mp h
    cases heq
    rw [counter, ih hinner, String.append_assoc, String.append_assoc, String.append_assoc]

/-- A route puts what it spells in front of paths. -/
theorem Registry.place_along {r : Registry} {id : Nat} {front : String}
    (h : r.place = some (id, front)) (route : Route) :
    (r.along route).place = some (id, front ++ Route.text route) := by
  induction route generalizing r front with
  | nil => rw [along, Route.text, String.append_empty, h]
  | cons b rest ih =>
    rw [along, ih (place_within h b.ns), Route.text, String.append_assoc]

theorem Registry.counter_along {r : Registry} {id : Nat} {front : String}
    (h : r.place = some (id, front)) (route : Route) (path : String) :
    (r.along route).counter path = .kept id (front ++ Route.text route ++ path) :=
  counter_place (place_along h route) path

/-- A registry leads nowhere, or into a table. -/
theorem Registry.counter_cases (r : Registry) :
    (∀ path, r.counter path = .discarded) ∨
      ∃ id front, r.place = some (id, front) ∧ ∀ path, r.counter path = .kept id (front ++ path) := by
  cases hplace : r.place with
  | some place => exact Or.inr ⟨place.1, place.2, rfl, counter_place hplace⟩
  | none =>
    refine Or.inl ?_
    induction r with
    | table id => cases hplace
    | discard => exact fun _ => rfl
    | within ns inner ih =>
      intro path
      exact ih (Option.map_eq_none_iff.mp hplace) (ns ++ "." ++ path)

/-- The counters of a leaf whose paths begin alike. -/
def Tally.onPath (id : Nat) (stem : String) : Tally where
  count := .kept id (stem ++ ".count")
  hit := .kept id (stem ++ ".true")
  miss := .kept id (stem ++ ".false")

theorem Tally.ofKind_place {r : Registry} {id : Nat} {front : String}
    (h : r.place = some (id, front)) (kind : String) :
    ofKind r kind = onPath id (front ++ ("condition." ++ kind)) := by
  unfold ofKind onPath
  simp only [Registry.counter_place h, String.append_assoc]

/-- Are the counters those of a leaf in a table, behind what its paths begin
    with? -/
def Tally.Behind (id : Nat) (front : String) (t : Tally) : Prop :=
  ∃ route, ∃ kind ∈ Kind.leaves, t = .onPath id (front ++ (route ++ ("condition." ++ kind.name)))

theorem Tally.behind_ofKind {r : Registry} {id : Nat} {front : String}
    (h : r.place = some (id, front)) {kind : Kind} (hkind : kind ∈ Kind.leaves) :
    Behind id front (ofKind r kind.name) := by
  refine ⟨"", kind, hkind, ?_⟩
  rw [ofKind_place h, String.empty_append]

theorem Tally.Behind.within {id : Nat} {front ns : String} {t : Tally}
    (h : t.Behind id (front ++ ns)) : t.Behind id front := by
  obtain ⟨route, kind, hkind, rfl⟩ := h
  refine ⟨ns ++ route, kind, hkind, ?_⟩
  rw [String.append_assoc, String.append_assoc]

namespace Config

/-- **The paths of a leaf** begin with what its registry puts in front and end
    with its type; they only differ in what comes then. -/
theorem mem_tallies {id : Nat} {t : Tally} (c : Config) {r : Registry} {front : String}
    (hr : r.place = some (id, front)) (ht : t ∈ c.tallies r) : t.Behind id front := by
  obtain ⟨route, n, _, hleaf, rfl⟩ := mem_tallies_iff.mp ht
  obtain ⟨kind, hkind, hname⟩ := Kind.mem_leafNames.mp hleaf
  rw [← hname]
  exact (Tally.behind_ofKind (Registry.place_along hr route) hkind).within

/-- All leaves of a config are counted in one table. -/
theorem mem_countersOf {r : Registry} {id : Nat} {front : String} (hr : r.place = some (id, front))
    {c : Config} {k : Counter} (h : k ∈ countersOf (c.tallies r)) : ∃ path, k = .kept id path := by
  obtain ⟨t, ht, hk⟩ := List.mem_flatMap.mp h
  obtain ⟨route, kind, _, rfl⟩ := mem_tallies c hr ht
  rcases List.mem_cons.mp hk with rfl | hk
  · exact ⟨_, rfl⟩
  · rcases List.mem_pair.mp hk with rfl | rfl
    · exact ⟨_, rfl⟩
    · exact ⟨_, rfl⟩

end Config

end BatchFilter
