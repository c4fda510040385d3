import BatchFilter.Proofs.Metering
import BatchFilter.Proofs.Routes

/-! # The Counters of a New Stage

    A stage that is built with a new table fills it with the counters of its
    condition's leaves and with its own five.  The path of the former spells
    where the leaf is and what it is, and so no two of all these counters are
    the same.

    * `Stage.leafPath`: the path of a counter of a leaf.
    * `Stage.leafPath_inj`: it tells the leaf and the answer.
    * `Stage.leafPath_ne`: it is none of the stage's own.
    * `Stage.new_table`: what there is in the table of a new stage. -/

namespace BatchFilter

/-! ## Section 1: Paths of leaves -/

/-- The path of a counter of a leaf: the stage's namespace, the steps to the
    leaf, its type and the name of the counter, with dots in between. -/
def Stage.leafPath (route : Route) (kind answer : String) : String :=
  ".".intercalate (ns :: route.map Branch.ns ++ ["condition." ++ kind, answer])

namespace Registry

theorem root?_along (r : Registry) (route : Route) : (r.along route).root? = r.root? := by
  induction route generalizing r with
  | nil => rfl
  | cons b rest ih => exact ih (.within b.ns r)

theorem namespaces_along (r : Registry) (route : Route) :
    (r.along route).namespaces = r.namespaces ++ route.map Branch.ns := by
  induction route generalizing r with
  | nil => exact (List.append_nil _).symm
  | cons b rest ih =>
    rw [along, ih, namespaces, List.append_assoc]
    rfl

/-- Where the leaves of a stage are counted. -/
theorem counter_leaf (id : Nat) (route : Route) (kind answer : String) :
    ((within Stage.ns (table id)).along route).counter ("condition." ++ kind ++ "." ++ answer)
      = .kept id (Stage.leafPath route kind answer) := by
  have hroot : ((within Stage.ns (table id)).along route).root? = some id := root?_along _ route
  rw [counter_table hroot, fullPath, intercalate_dot, namespaces_along]
  rfl

end Registry

/-! ## Section 2: Paths that differ -/

namespace Route

theorem dotted_eq_empty {route : Route} (h : dotted route = "") : route = [] := by
  have hchars := congrArg String.toList h
  rw [dotted_segments] at hchars
  cases route with
  | nil => rfl
  | cons b rest => cases b <;> cases hchars

/-- Different routes spell different texts. -/
theorem text_inj {ρ σ : Route} : text ρ = text σ ↔ ρ = σ := by
  constructor
  · intro heq
    have hspelled : "" ++ ("." ++ text ρ) = "" ++ ("." ++ text σ) := by rw [heq]
    -- Neither has anything more in front than the other.
    rcases (behind_name_iff "" "" ρ σ).mp hspelled with ⟨ω, rfl, hω⟩ | ⟨ω, rfl, hω⟩
    · rw [String.empty_append] at hω
      rw [dotted_eq_empty hω.symm, List.nil_append]
    · rw [String.empty_append] at hω
      rw [dotted_eq_empty hω.symm, List.nil_append]
  · rintro rfl
    rfl

end Route

/-- A new table has just what is registered in it, at zero. -/
theorem Ledger.value?_fill (l : Ledger) (ks : List Counter) (path : String) :
    (l.addTable.registerAll ks).value? l.tables.length path
      = if .kept l.tables.length path ∈ ks then some 0 else none := by
  have htable : (l.addTable.table? l.tables.length).isSome := by
    rw [table?_addTable, if_pos rfl]
    rfl
  have hbefore : l.value? l.tables.length path = none :=
    value?_unrooted (by simp [table?]) path
  rw [value?_registerAll htable, value?_addTable, hbefore, Option.none_or]

namespace Stage

/-- The path of a counter of a leaf ends with what the leaf is, and in front of
    that is the text of the route. -/
theorem leafPath_text (route : Route) (kind answer : String) :
    leafPath route kind answer
      = ns ++ "." ++ Route.text route ++ ("condition." ++ kind ++ "." ++ answer) := by
  have hplace : (Registry.within ns (.table 0)).place = some (0, ns ++ ".") := by
    rw [Registry.place_within rfl, String.empty_append]
  have hcounter := Registry.counter_along hplace route ("condition." ++ kind ++ "." ++ answer)
  rw [Registry.counter_leaf] at hcounter
  exact (Counter.kept.inj hcounter).2

/-- **The path of a counter tells the leaf**: where it is, what it is, and which
    of its answers are counted. -/
theorem leafPath_inj {route route' : Route} {kind kind' answer answer' : String}
    (hkind : kind ∈ Kind.leafNames) (hkind' : kind' ∈ Kind.leafNames)
    (hanswer : answer ∈ Tally.answers) (hanswer' : answer' ∈ Tally.answers) :
    leafPath route kind answer = leafPath route' kind' answer' ↔
      route = route' ∧ kind = kind' ∧ answer = answer' := by
  -- None of the nine endings is the end of another one.
  have hends : ∀ kind ∈ Kind.leafNames, ∀ answer ∈ Tally.answers, ∀ kind' ∈ Kind.leafNames,
      ∀ answer' ∈ Tally.answers, ¬(kind = kind' ∧ answer = answer') →
        ¬(("condition." ++ kind ++ "." ++ answer).toList
            <:+ ("condition." ++ kind' ++ "." ++ answer').toList
          ∨ ("condition." ++ kind' ++ "." ++ answer').toList
            <:+ ("condition." ++ kind ++ "." ++ answer).toList) := by
    decide
  constructor
  · intro heq
    rw [leafPath_text, leafPath_text] at heq
    have hleaf : kind = kind' ∧ answer = answer' := by
      by_contra hne
      exact append_ne (hends kind hkind answer hanswer kind' hkind' answer' hanswer' hne) _ _ heq
    obtain ⟨rfl, rfl⟩ := hleaf
    rw [String.append_left_inj, String.append_right_inj, Route.text_inj] at heq
    exact ⟨heq, rfl, rfl⟩
  · rintro ⟨rfl, rfl, rfl⟩
    rfl

/-- **No counter of a leaf is one of the stage's own.** -/
theorem leafPath_ne {route : Route} {kind answer : String} (hkind : kind ∈ Kind.leafNames)
    (hanswer : answer ∈ Tally.answers) : leafPath route kind answer ∉ StageTally.paths := by
  intro hpath
  obtain ⟨k, hk, rfl⟩ := Kind.mem_leafNames.mp hkind
  have hplace : ((Registry.within ns (.table 0)).along route).place
      = some (0, ns ++ "." ++ Route.text route) := by
    rw [Registry.place_along (Registry.place_within rfl _), String.empty_append]
  have hcounter : .kept 0 (leafPath route k.name answer)
      ∈ (Tally.ofKind ((Registry.within ns (.table 0)).along route) k.name).counters := by
    rw [Tally.counters_ofKind, List.mem_map]
    exact ⟨answer, hanswer, Registry.counter_leaf 0 route k.name answer⟩
  have hstage : .kept 0 (leafPath route k.name answer)
      ∈ (StageTally.ofRegistry (.table 0)).counters := by
    rw [StageTally.counters_ofRegistry]
    exact List.mem_map_of_mem hpath
  exact (Tally.behind_ofKind hplace hk).apart hcounter (.table 0) hstage

/-! ## Section 3: What a new stage registers -/

/-- The counters of the leaves of a stage's condition. -/
theorem mem_countersOf_iff {id : Nat} {c : Config} {k : Counter} :
    k ∈ countersOf (c.tallies (.within ns (.table id))) ↔
      ∃ route n, Config.at? route c = some n ∧ n.kind ∈ Kind.leafNames ∧
        ∃ answer ∈ Tally.answers, k = .kept id (leafPath route n.kind answer) := by
  unfold countersOf
  rw [List.mem_flatMap]
  constructor
  · rintro ⟨t, ht, hk⟩
    obtain ⟨route, n, hn, hleaf, rfl⟩ := Config.mem_tallies_iff.mp ht
    rw [Tally.counters_ofKind, List.mem_map] at hk
    obtain ⟨answer, hanswer, rfl⟩ := hk
    exact ⟨route, n, hn, hleaf, answer, hanswer, Registry.counter_leaf id route n.kind answer⟩
  · rintro ⟨route, n, hn, hleaf, answer, hanswer, rfl⟩
    refine ⟨_, Config.mem_tallies_iff.mpr ⟨route, n, hn, hleaf, rfl⟩, ?_⟩
    rw [Tally.counters_ofKind, List.mem_map]
    exact ⟨answer, hanswer, Registry.counter_leaf id route n.kind answer⟩

/-- What a stage registers in a table. -/
theorem mem_registered_iff {pool : Pool} {id : Nat} {c : Config} {s : Stage}
    (h : (build pool (.table id) c).result = .ok s) (path : String) :
    .kept id path ∈ (build pool (.table id) c).registered ↔
      path ∈ StageTally.paths ∨
        ∃ route n, Config.at? route c = some n ∧ n.kind ∈ Kind.leafNames ∧
          ∃ answer ∈ Tally.answers, path = leafPath route n.kind answer := by
  rw [registered_build h, List.mem_append, or_comm, mem_countersOf_iff,
    StageTally.counters_ofRegistry, List.mem_map]
  show (∃ full ∈ StageTally.paths, Counter.kept id full = .kept id path) ∨ _ ↔ _
  simp only [Counter.kept.injEq, true_and, exists_eq_right]

/-- **The table of a new stage.**  If a stage can be built with a new table, then
    just these paths are in the table, all at zero: the five of the stage, and
    three for every leaf that a route leads to in the config of its condition,
    through the sections that are read.

    The five differ from each other, no path of a leaf is one of them, and
    paths of leaves differ if the routes do, or the types, or the answers. -/
theorem new_table (l : Ledger) {pool : Pool} {c : Config} {s : Stage}
    (h : (build pool (.table l.tables.length) c).result = .ok s) :
    let filled := l.addTable.registerAll (build pool (.table l.tables.length) c).registered
    (∀ path v, (path, v) ∈ filled.snapshot l.tables.length ↔
      v = 0 ∧ (path ∈ StageTally.paths ∨
        ∃ route n, Config.at? route c = some n ∧ n.kind ∈ Kind.leafNames ∧
          ∃ answer ∈ Tally.answers, path = leafPath route n.kind answer)) ∧
    StageTally.paths.Nodup ∧
    ∀ route, ∀ kind ∈ Kind.leafNames, ∀ answer ∈ Tally.answers,
      leafPath route kind answer ∉ StageTally.paths ∧
      ∀ route', ∀ kind' ∈ Kind.leafNames, ∀ answer' ∈ Tally.answers,
        leafPath route kind answer = leafPath route' kind' answer' →
          route = route' ∧ kind = kind' ∧ answer = answer' := by
  intro filled
  refine ⟨?_, by decide, ?_⟩
  · intro path v
    rw [Metering.mem_snapshot, Ledger.value?_fill, ← mem_registered_iff h]
    split
    · rename_i hmem
      simp [hmem, eq_comm]
    · rename_i hmem
      simp [hmem]
  · intro route kind hkind answer hanswer
    refine ⟨leafPath_ne hkind hanswer, ?_⟩
    intro route' kind' hkind' answer' hanswer' heq
    exact (leafPath_inj hkind hkind' hanswer hanswer').mp heq

/-- Leaves of all types, at different depths. -/
def scattered : Config where
  kind := "and"
  all :=
    [{ kind := "static" },
      { kind := "or"
        any :=
          [{ kind := "not", not := some { kind := "text" } },
            { kind := "metadata", metadata := { operator := "exists", key := "k" } }] }]

/-- What a route leads to is counted under it, from zero on, and apart from what
    another route leads to. -/
theorem new_table_scattered :
    let filled := Ledger.empty.addTable.registerAll (build .empty (.table 0) scattered).registered
    ("processor.filter_parts.and.1.or.0.not.condition.text.false", 0) ∈ filled.snapshot 0 ∧
    (∀ v, ("processor.filter_parts.sent", v) ∈ filled.snapshot 0 → v = 0) ∧
    leafPath [.all 1, .any 0, .not] "text" "false" ≠ leafPath [.all 1, .any 1] "metadata" "false" := by
  intro filled
  have hbuilt : ∃ s, (build .empty (.table 0) scattered).result = .ok s := ⟨_, rfl⟩
  obtain ⟨s, hs⟩ := hbuilt
  obtain ⟨hpaths, _, hleaves⟩ := new_table .empty hs
  obtain ⟨_, hinj⟩ := hleaves [.all 1, .any 0, .not] "text" (by decide) "false" (by decide)
  refine ⟨?_, ?_, ?_⟩
  · refine (hpaths _ _).mpr ⟨rfl, Or.inr ⟨[.all 1, .any 0, .not], { kind := "text" }, rfl, ?_⟩⟩
    exact ⟨by decide, "false", by decide, by decide⟩
  · intro v hv
    exact ((hpaths _ _).mp hv).1
  · intro heq
    have hroute := (hinj [.all 1, .any 1] "metadata" (by decide) "false" (by decide) heq).1
    exact absurd hroute (by decide)

end Stage

end BatchFilter
