import BatchFilter.Proofs.References
import BatchFilter.Proofs.Routes

/-! # Counters of Named Conditions

    The leaves of a named condition are counted behind its name.  A name may
    have dots inside, and so it may spell a way into another named condition:
    then a leaf of the one is counted together with a leaf of the other.
    There is no other way for different names to share a counter, and a check
    counts for nobody but the name itself and those that it refers to,
    directly or through others.

    * `Declarations.Asks`: names ask the leaves of those that they need.
    * `Ledger.value?_afterChecks_ne`: who is not asked is not counted.
    * `Declarations.Overlaps`: a name spells a way into another one.
    * `Declarations.counters_apart`: which names share counters, and which checks
      leave the counters of a name as they were. -/

namespace BatchFilter

namespace Declarations

variable {d : Declarations} {r : Registry}

/-! ## Section 1: Whom names ask -/

/-- A name needs itself, and all that it refers to, directly or through
    others. -/
def Needs (d : Declarations) : String → String → Prop :=
  Relation.ReflTransGen d.Refers

/-- A leaf of a name, or of one that it needs. -/
def NeedsLeaf (d : Declarations) (r : Registry) (name : String) (t : Tally) : Prop :=
  ∃ n, d.Needs name n ∧ t ∈ d.talliesOf r n

/-- The names of a pool are declared, and ask no leaf but of those that they
    need. -/
def Asks (d : Declarations) (r : Registry) (pool : Pool) : Prop :=
  ∀ name cond, pool.find? name = some cond →
    name ∈ d.conditions.keys ∧
      ∀ s, ∀ v ∈ (cond.check s).visits, d.NeedsLeaf r name v.tally

theorem added_asks {pool pool' : Pool} {name : String} (hpool : d.Asks r pool)
    (h : (d.addNamed r pool name).result = .ok pool') : d.Asks r pool' := by
  rcases added h with ⟨_, rfl⟩ | ⟨c, built, hc, hbuilt, rfl⟩
  · exact hpool
  intro n cond hfind
  rw [Pool.find?_insert] at hfind
  split at hfind
  · rename_i hn
    cases hfind
    rw [hn]
    refine ⟨Dictionary.mem_keys_of_find? hc, ?_⟩
    intro s v hv
    have hasked := Pool.asked_built
      (P := fun name t => name ∈ d.conditions.keys ∧ d.NeedsLeaf r name t)
      (fun name target hfind s v hv => ⟨(hpool name target hfind).1,
        (hpool name target hfind).2 s v hv⟩) hbuilt hv
    rcases hasked with hown | ⟨target, htarget, hkey, n', hneeds, hleaf⟩
    · exact ⟨name, .refl, by rwa [talliesOf_some hc]⟩
    · -- What the target needs is needed by the name.
      rw [Config.references_nodes] at htarget
      have hrefers : d.Refers name target := ⟨c, hc, htarget, hkey⟩
      exact ⟨n', hneeds.head hrefers, hleaf⟩
  · exact hpool n cond hfind

/-- **Names ask no leaf but of those that they need.** -/
theorem build_asks {pool : Pool} (h : (d.build r).result = .ok pool) : d.Asks r pool :=
  build_induct (P := d.Asks r) (fun _ _ hfind => nomatch hfind) added_asks h

/-! ## Section 2: Leaves of different names -/

/-- What the paths of the leaves of a name begin with. -/
def front (name : String) : String :=
  "resource.condition." ++ (name ++ ".")

theorem place_named (id : Nat) (name : String) :
    ((Registry.table id).named name).place = some (id, front name) := by
  have hplace := Registry.place_within (r := .table id) rfl ("resource.condition." ++ name)
  rw [String.empty_append, String.append_assoc] at hplace
  exact hplace

/-- The leaves of the config that is declared under a name. -/
def leavesOf (d : Declarations) (name : String) : List Leaf :=
  match d.conditions.find? name with
  | none => []
  | some c => c.leaves

theorem talliesOf_leavesOf (d : Declarations) (id : Nat) (name : String) :
    d.talliesOf (.table id) name = (d.leavesOf name).map (Leaf.tally id (front name)) := by
  unfold talliesOf leavesOf
  cases d.conditions.find? name with
  | none => rfl
  | some c => exact Config.tallies_leaves c (place_named id name)

/-- The counters of the leaves of a name. -/
def countersUnder (d : Declarations) (id : Nat) (name : String) : List Counter :=
  BatchFilter.countersOf (d.talliesOf (.table id) name)

theorem mem_countersUnder {id : Nat} {name : String} {k : Counter} :
    k ∈ d.countersUnder id name ↔
      ∃ l ∈ d.leavesOf name, k ∈ (l.tally id (front name)).counters := by
  unfold countersUnder BatchFilter.countersOf
  rw [talliesOf_leavesOf, List.flatMap_map, List.mem_flatMap]

/-- A name spells a way into another one: it is the other name with the way
    behind it, and where the way leads to the other has a leaf in the place
    of one of its own. -/
def Overlaps (d : Declarations) (a b : String) : Prop :=
  ∃ way : Route, b = a ++ Route.dotted way ∧
    ∃ l ∈ d.leavesOf a, ∃ l' ∈ d.leavesOf b, l.kind = l'.kind ∧ l.route = way ++ l'.route

/-- A name that spells a way into another one has a dot inside. -/
theorem Overlaps.dot_mem {a b : String} (h : d.Overlaps a b) (hne : a ≠ b) : '.' ∈ b.toList := by
  obtain ⟨way, hname, _⟩ := h
  cases way with
  | nil =>
    rw [Route.dotted, String.append_empty] at hname
    exact absurd hname.symm hne
  | cons step rest =>
    have hdot : '.' ∈ ".".toList := List.mem_singleton_self '.'
    rw [hname, Route.dotted, String.append_assoc, String.toList_append, String.toList_append]
    exact List.mem_append_right _ (List.mem_append_left _ hdot)

/-- Leaves of names share a counter if and only if they are of one type, and one
    of the names spells the way that the routes differ by. -/
theorem leaf_shared_iff (id : Nat) (a b : String) (l l' : Leaf) :
    (∃ k, k ∈ (l.tally id (front a)).counters ∧ k ∈ (l'.tally id (front b)).counters) ↔
      l.kind = l'.kind ∧
        ((∃ way, l.route = way ++ l'.route ∧ b = a ++ Route.dotted way) ∨
          ∃ way, l'.route = way ++ l.route ∧ a = b ++ Route.dotted way) := by
  have hfront : ∀ (name : String) (route : Route), front name ++ Route.text route
      = "resource.condition." ++ (name ++ ("." ++ Route.text route)) := by
    intro name route
    show "resource.condition." ++ (name ++ ".") ++ Route.text route = _
    rw [String.append_assoc, String.append_assoc]
  rw [Leaf.tally, Leaf.tally, Tally.shared_iff, Leaf.append_path_eq_iff, hfront, hfront,
    String.append_right_inj, Route.behind_name_iff, or_comm]

/-- **Different names share a counter** if and only if one spells a way into the
    other. -/
theorem shared_iff (d : Declarations) (id : Nat) (a b : String) :
    (∃ k, k ∈ d.countersUnder id a ∧ k ∈ d.countersUnder id b) ↔
      d.Overlaps a b ∨ d.Overlaps b a := by
  constructor
  · rintro ⟨k, ha, hb⟩
    obtain ⟨l, hl, hk⟩ := mem_countersUnder.mp ha
    obtain ⟨l', hl', hk'⟩ := mem_countersUnder.mp hb
    obtain ⟨hkind, hway⟩ := (leaf_shared_iff id a b l l').mp ⟨k, hk, hk'⟩
    rcases hway with ⟨way, hroute, hname⟩ | ⟨way, hroute, hname⟩
    · exact Or.inl ⟨way, hname, l, hl, l', hl', hkind, hroute⟩
    · exact Or.inr ⟨way, hname, l', hl', l, hl, hkind.symm, hroute⟩
  · rintro (hoverlaps | hoverlaps)
    · obtain ⟨way, hname, l, hl, l', hl', hkind, hroute⟩ := hoverlaps
      obtain ⟨k, hk, hk'⟩ := (leaf_shared_iff id a b l l').mpr
        ⟨hkind, Or.inl ⟨way, hroute, hname⟩⟩
      exact ⟨k, mem_countersUnder.mpr ⟨l, hl, hk⟩, mem_countersUnder.mpr ⟨l', hl', hk'⟩⟩
    · obtain ⟨way, hname, l, hl, l', hl', hkind, hroute⟩ := hoverlaps
      obtain ⟨k, hk, hk'⟩ := (leaf_shared_iff id b a l l').mpr
        ⟨hkind, Or.inl ⟨way, hroute, hname⟩⟩
      exact ⟨k, mem_countersUnder.mpr ⟨l', hl', hk'⟩, mem_countersUnder.mpr ⟨l, hl, hk⟩⟩

/-! ## Section 3: Which counters change -/

/-- Is a name apart from another one, so that neither spells a way into the
    other? -/
def Apart (d : Declarations) (a b : String) : Prop :=
  a ≠ b ∧ ¬d.Overlaps a b ∧ ¬d.Overlaps b a

/-- Names without dots are apart. -/
theorem apart_plain {a b : String} (hne : a ≠ b) (ha : '.' ∉ a.toList) (hb : '.' ∉ b.toList) :
    d.Apart a b :=
  ⟨hne, fun h => hb (h.dot_mem hne), fun h => ha (h.dot_mem hne.symm)⟩

/-- **Counters of named conditions.**  If declarations can be built, the
    counters that they register are those of the leaves of their names.
    Different names share one of them if and only if one name spells a way
    into the other, which takes a dot in it.

    Checks of names that need nobody but names apart from another one leave
    the counters of that one as they were, whatever was counted before. -/
theorem counters_apart (d : Declarations) (id : Nat) (pool : Pool)
    (h : (d.build (.table id)).result = .ok pool) :
    (∀ k, k ∈ (d.build (.table id)).registered ↔ ∃ name, k ∈ d.countersUnder id name) ∧
    (∀ a b, a ≠ b →
      ((∃ k, k ∈ d.countersUnder id a ∧ k ∈ d.countersUnder id b) ↔
        d.Overlaps a b ∨ d.Overlaps b a) ∧
      (d.Overlaps a b → '.' ∈ b.toList)) ∧
    ∀ b, ∀ checks : List (Condition × SinglePart),
      (∀ e ∈ checks, ∃ a, pool.find? a = some e.1 ∧ ∀ n, d.Needs a n → d.Apart n b) →
        ∀ (l : Ledger) (path : String), .kept id path ∈ d.countersUnder id b →
          (l.afterChecks checks).value? id path = l.value? id path := by
  refine ⟨?_, ?_, ?_⟩
  · intro k
    obtain ⟨ts, _, hregistered, hts⟩ := made_build h
    rw [hregistered]
    constructor
    · intro hk
      obtain ⟨t, ht, hk⟩ := List.mem_flatMap.mp hk
      obtain ⟨name, hname⟩ := (hts t).mp ht
      exact ⟨name, List.mem_flatMap.mpr ⟨t, hname, hk⟩⟩
    · rintro ⟨name, hk⟩
      obtain ⟨t, ht, hk⟩ := List.mem_flatMap.mp hk
      exact List.mem_flatMap.mpr ⟨t, (hts t).mpr ⟨name, ht⟩, hk⟩
  · intro a b hne
    exact ⟨d.shared_iff id a b, fun hoverlaps => hoverlaps.dot_mem hne⟩
  · intro b checks hchecks l path hpath
    apply Ledger.value?_afterChecks_ne
    intro e he v hv hk
    obtain ⟨a, hfind, hapart⟩ := hchecks e he
    obtain ⟨n, hneeds, hleaf⟩ := (build_asks h a e.1 hfind).2 e.2 v hv
    obtain ⟨_, hnot, hnot'⟩ := hapart n hneeds
    -- A leaf that counts there would share the counter, and its name is apart.
    have hshared : ∃ k, k ∈ d.countersUnder id n ∧ k ∈ d.countersUnder id b :=
      ⟨.kept id path, List.mem_flatMap.mpr ⟨v.tally, hleaf, hk⟩, hpath⟩
    rcases (d.shared_iff id n b).mp hshared with hoverlaps | hoverlaps
    · exact hnot hoverlaps
    · exact hnot' hoverlaps

/-- A name that refers to another one, and a third one. -/
def plain : Declarations where
  conditions := .ofList
    [("a", { kind := "resource", resource := "b" }), ("b", { kind := "static", static := false }),
      ("c", { kind := "static" })]

/-- Checks of a name are not counted for a name that it does not need. -/
theorem counters_apart_plain :
    ∃ pool cond, (plain.build (.table 0)).result = .ok pool ∧ pool.find? "a" = some cond ∧
      ∀ (l : Ledger) (s : SinglePart),
        (l.afterChecks [(cond, s)]).value? 0 "resource.condition.c.condition.static.count"
          = l.value? 0 "resource.condition.c.condition.static.count" := by
  have horder : plain.order = .ok ["b", "a", "c"] := by
    have hkeys : plain.conditions.keys = ["a", "b", "c"] := rfl
    have ha : plain.clauses.find? "a" = some (.resource "b") := rfl
    have hb : plain.clauses.find? "b" = some (.static false) := rfl
    have hc : plain.clauses.find? "c" = some (.static true) := rfl
    show (visitAll plain.clauses [] [] plain.conditions.keys).map List.reverse = _
    simp [hkeys, visitAll_cons, visitAll_nil, visit_eq, ha, hb, hc, Clause.references, Except.map,
      Except.bind]
  have hbuild : ∃ pool cond, (plain.build (.table 0)).result = .ok pool ∧
      pool.find? "a" = some cond := by
    unfold build
    rw [horder]
    exact ⟨_, _, rfl, rfl⟩
  obtain ⟨pool, cond, hpool, hcond⟩ := hbuild
  obtain ⟨_, _, hchecks⟩ := counters_apart plain 0 pool hpool
  have hneeds : ∀ n, plain.Needs "a" n → n = "a" ∨ n = "b" := by
    intro n h
    induction h with
    | refl => exact Or.inl rfl
    | tail _ href ih =>
      obtain ⟨c, hc, hname, _⟩ := href
      rcases ih with rfl | rfl
      · cases hc
        exact Or.inr (List.mem_singleton.mp hname)
      · cases hc
        cases hname
  have hapart : ∀ n, plain.Needs "a" n → plain.Apart n "c" := by
    intro n h
    rcases hneeds n h with rfl | rfl
    · exact apart_plain (by decide) (by decide) (by decide)
    · exact apart_plain (by decide) (by decide) (by decide)
  refine ⟨pool, cond, hpool, hcond, ?_⟩
  intro l s
  apply hchecks "c" [(cond, s)]
  · intro e he
    rw [List.mem_singleton.mp he]
    exact ⟨"a", hcond, hapart⟩
  · exact List.mem_cons_self

/-- A name that spells the way to the only child of another one. -/
def overlapping : Declarations where
  conditions := .ofList
    [("a", { kind := "and", all := [{ kind := "static" }] }), ("a.and.0", { kind := "static" })]

/-- **Different names share a counter**, though neither refers to anything, and
    a check of the one is counted for the other. -/
theorem overlapping_counters :
    ∃ pool cond, (overlapping.build (.table 0)).result = .ok pool ∧
      pool.find? "a.and.0" = some cond ∧
      (∀ name c, overlapping.conditions.find? name = some c → c.names = []) ∧
      let path := "resource.condition.a.and.0.condition.static.count"
      .kept 0 path ∈ overlapping.countersUnder 0 "a" ∧
      .kept 0 path ∈ overlapping.countersUnder 0 "a.and.0" ∧
      let l := Ledger.empty.addTable.registerAll (overlapping.build (.table 0)).registered
      l.value? 0 path = some 0 ∧
      (l.check cond ⟨⟨[], ∅⟩⟩).1.value? 0 path = some 1 := by
  have horder : overlapping.order = .ok ["a", "a.and.0"] := by
    have hkeys : overlapping.conditions.keys = ["a", "a.and.0"] := rfl
    have ha : overlapping.clauses.find? "a" = some (.all [.static true]) := rfl
    have hb : overlapping.clauses.find? "a.and.0" = some (.static true) := rfl
    show (visitAll overlapping.clauses [] [] overlapping.conditions.keys).map List.reverse = _
    simp [hkeys, visitAll_cons, visitAll_nil, visit_eq, ha, hb, Clause.references,
      Clause.referencesAll, Except.map, Except.bind]
  unfold build
  rw [horder]
  refine ⟨_, _, rfl, rfl, ?_, ?_, ?_, ?_, ?_⟩
  · intro name c hc
    have hmem : (name, c) ∈ overlapping.conditions.entries := Dictionary.mem_of_find? hc
    rcases List.mem_pair.mp hmem with heq | heq
    · cases heq
      rfl
    · cases heq
      rfl
  · exact List.mem_cons_self
  · exact List.mem_cons_self
  · rfl
  · rfl

end Declarations

end BatchFilter
