import BatchFilter.Proofs.Rules

/-! # Configs and Where They Are

    A route leads from a config to one below it, through the sections that are
    read, or to nothing.  The sites of a config are the configs it reaches with
    the routes that lead to them, in the order in which they are built.  A leaf
    is counted behind the route to its site.

    * `Config.at?`: what a route leads to.
    * `Config.sites`, `Config.mem_sites`: all that routes lead to, in order.
    * `Config.tallies`, `Config.tallies_sites`: the leaves of a config, which are
      those of its sites. -/

namespace BatchFilter

/-! ## Section 1: Routes through a config -/

/-- A step from a combination to one of its children. -/
inductive Branch where
  | all (i : Nat)
  | any (i : Nat)
  | not
  deriving DecidableEq

/-- What a step puts in front of paths. -/
def Branch.ns : Branch → String
  | .all i => Kind.all.name ++ "." ++ toString i
  | .any i => Kind.any.name ++ "." ++ toString i
  | .not => Kind.not.name

/-- The steps from a config to one below it. -/
abbrev Route : Type := List Branch

/-- What a route puts in front of the path of a leaf. -/
def Route.text : Route → String
  | [] => ""
  | b :: rest => b.ns ++ "." ++ text rest

/-- What a route leads to. -/
def Config.at? : Route → Config → Option Config
  | [], c => some c
  | .all i :: rest, c => if c.kind = "and" then c.all[i]?.bind (at? rest) else none
  | .any i :: rest, c => if c.kind = "or" then c.any[i]?.bind (at? rest) else none
  | .not :: rest, c => if c.kind = "not" then c.not.bind (at? rest) else none

/-- A config that another one reaches, and the route that leads to it. -/
structure Site where
  route : Route
  config : Config

/-- The site seen from one step above. -/
def Site.below (b : Branch) (s : Site) : Site :=
  { s with route := b :: s.route }

namespace Config

mutual

/-- The sites of a config: itself, and then those below it from left to
    right. -/
def sites : Config → List Site
  | ⟨kind, static, text, metadata, all, any, not, resource⟩ =>
      ⟨[], ⟨kind, static, text, metadata, all, any, not, resource⟩⟩ ::
        match kind with
        | "and" => sitesAll .all 0 all
        | "or" => sitesAll .any 0 any
        | "not" => sites? not
        | _ => []

/-- The sites of children, of which the first has number `i`. -/
def sitesAll (branch : Nat → Branch) (i : Nat) : List Config → List Site
  | [] => []
  | c :: rest => c.sites.map (.below (branch i)) ++ sitesAll branch (i + 1) rest

/-- The sites of the child of a negation. -/
def sites? : Option Config → List Site
  | none => []
  | some c => c.sites.map (.below .not)

end

theorem map_below_config (b : Branch) (sites : List Site) :
    (sites.map (.below b)).map Site.config = sites.map Site.config := by
  rw [List.map_map]
  rfl

mutual

/-- The configs at the sites are the nodes, in the same order. -/
theorem sites_nodes : ∀ c : Config, c.sites.map Site.config = c.nodes
  | ⟨kind, static, text, metadata, all, any, child, resource⟩ => by
      unfold sites nodes
      rw [List.map_cons]
      congr 1
      split
      · exact sitesAll_nodes .all all
      · exact sitesAll_nodes .any any
      · exact sites?_nodes child
      · simp

theorem sitesAll_nodes (branch : Nat → Branch) : ∀ (cs : List Config) {i : Nat},
    (sitesAll branch i cs).map Site.config = nodesAll cs
  | [], i => by
      rw [sitesAll, nodesAll, List.map_nil]
  | c :: rest, i => by
      rw [sitesAll, nodesAll, List.map_append, map_below_config, sites_nodes c,
        sitesAll_nodes branch rest]

theorem sites?_nodes : ∀ child : Option Config, (sites? child).map Site.config = nodes? child
  | none => by
      rw [sites?, nodes?, List.map_nil]
  | some c => by
      rw [sites?, nodes?, map_below_config, sites_nodes c]

end

/-! ## Section 2: Sites are what routes lead to -/

theorem mem_map_below {b : Branch} {sites : List Site} {route : Route} {n : Config} :
    ⟨route, n⟩ ∈ sites.map (Site.below b) ↔ ∃ rest, route = b :: rest ∧ ⟨rest, n⟩ ∈ sites := by
  rw [List.mem_map]
  constructor
  · rintro ⟨⟨rest, m⟩, hs, heq⟩
    cases heq
    exact ⟨rest, rfl, hs⟩
  · rintro ⟨rest, rfl, hs⟩
    exact ⟨⟨rest, n⟩, hs, rfl⟩

mutual

/-- **The sites of a config are what routes lead to.** -/
theorem mem_sites : ∀ (c : Config) {route : Route} {n : Config},
    ⟨route, n⟩ ∈ c.sites ↔ at? route c = some n
  | ⟨kind, static, text, metadata, all, any, child, resource⟩, route, n => by
      unfold sites
      rw [List.mem_cons]
      cases route with
      | nil =>
        -- The route of every site below has a step.
        have hbelow : ∀ {b : Branch} {sites : List Site},
            ⟨[], n⟩ ∉ sites.map (Site.below b) := by
          intro b sites hmem
          obtain ⟨_, heq, _⟩ := mem_map_below.mp hmem
          cases heq
        rw [at?, Option.some.injEq]
        constructor
        · rintro (heq | hmem)
          · cases heq
            rfl
          · split at hmem
            · obtain ⟨_, _, _, heq, _⟩ := (mem_sitesAll .all all).mp hmem
              cases heq
            · obtain ⟨_, _, _, heq, _⟩ := (mem_sitesAll .any any).mp hmem
              cases heq
            · obtain ⟨_, heq, _⟩ := (mem_sites? child).mp hmem
              cases heq
            · cases hmem
        · rintro rfl
          exact Or.inl rfl
      | cons b rest =>
        have hself : (⟨b :: rest, n⟩ : Site)
            ≠ ⟨[], ⟨kind, static, text, metadata, all, any, child, resource⟩⟩ := by
          intro heq
          cases heq
        rw [or_iff_right hself]
        split
        · rw [mem_sitesAll .all all]
          cases b <;> simp [at?, Option.bind_eq_some_iff, and_assoc]
        · rw [mem_sitesAll .any any]
          cases b <;> simp [at?, Option.bind_eq_some_iff, and_assoc]
        · rw [mem_sites? child]
          cases b <;> simp [at?, Option.bind_eq_some_iff]
        · rename_i hall hany hnot
          cases b with
          | all j => simp [at?, show kind ≠ "and" from hall]
          | any j => simp [at?, show kind ≠ "or" from hany]
          | not => simp [at?, show kind ≠ "not" from hnot]

theorem mem_sitesAll (branch : Nat → Branch) : ∀ (cs : List Config) {i : Nat} {route : Route}
    {n : Config}, ⟨route, n⟩ ∈ sitesAll branch i cs ↔
      ∃ j c rest, route = branch (i + j) :: rest ∧ cs[j]? = some c ∧ at? rest c = some n
  | [], i, route, n => by
      simp [sitesAll]
  | c :: rest, i, route, n => by
      rw [sitesAll, List.mem_append, mem_map_below, mem_sitesAll branch rest]
      simp only [mem_sites c]
      constructor
      · rintro (⟨way, rfl, hn⟩ | ⟨j, c', way, rfl, hc', hn⟩)
        · exact ⟨0, c, way, rfl, rfl, hn⟩
        · exact ⟨j + 1, c', way, by rw [Nat.add_right_comm, Nat.add_assoc], hc', hn⟩
      · rintro ⟨j, c', way, rfl, hc', hn⟩
        cases j with
        | zero =>
          obtain rfl := Option.some.inj hc'
          exact Or.inl ⟨way, rfl, hn⟩
        | succ j => exact Or.inr ⟨j, c', way, by rw [Nat.add_right_comm, Nat.add_assoc], hc', hn⟩

theorem mem_sites? : ∀ (child : Option Config) {route : Route} {n : Config},
    ⟨route, n⟩ ∈ sites? child ↔
      ∃ rest, route = .not :: rest ∧ ∃ c, child = some c ∧ at? rest c = some n
  | none, route, n => by
      simp [sites?]
  | some c, route, n => by
      rw [sites?, mem_map_below]
      simp [mem_sites c]

end

end Config

/-! ## Section 3: The leaves there are -/

/-- The types of leaves. -/
def Kind.leaves : List Kind := [.static, .text, .metadata]

/-- The names of the types of leaves. -/
def Kind.leafNames : List String := leaves.map name

theorem Kind.mem_leafNames {kind : String} : kind ∈ leafNames ↔ ∃ k ∈ leaves, k.name = kind :=
  List.mem_map

namespace Config

mutual

/-- The counters of the leaves of a config, in order.  Leaves that a reference
    leads to are not among them. -/
def tallies (r : Registry) : Config → List Tally
  | ⟨kind, _, _, _, all, any, not, _⟩ =>
      match kind with
      | "static" => [.ofKind r "static"]
      | "text" => [.ofKind r "text"]
      | "metadata" => [.ofKind r "metadata"]
      | "and" => talliesAll r .all 0 all
      | "or" => talliesAll r .any 0 any
      | "not" => tallies? (.within "not" r) not
      | _ => []

/-- The counters of the leaves of children, of which the first has number
    `i`. -/
def talliesAll (r : Registry) (kind : Kind) (i : Nat) : List Config → List Tally
  | [] => []
  | c :: rest => c.tallies (r.child kind i) ++ talliesAll r kind (i + 1) rest

/-- The counters of the leaves of a config, if there is one. -/
def tallies? (r : Registry) : Option Config → List Tally
  | none => []
  | some c => c.tallies r

end

end Config

/-- The registry that a route leads to. -/
def Registry.along (r : Registry) : Route → Registry
  | [] => r
  | b :: rest => along (.within b.ns r) rest

/-- The counters of the config at a site, if it is a leaf. -/
def Site.tally? (r : Registry) (s : Site) : Option Tally :=
  if s.config.kind ∈ Kind.leafNames then some (.ofKind (r.along s.route) s.config.kind) else none

theorem Site.tally?_eq_some {r : Registry} {s : Site} {t : Tally} :
    s.tally? r = some t ↔
      s.config.kind ∈ Kind.leafNames ∧ t = .ofKind (r.along s.route) s.config.kind := by
  unfold tally?
  split
  · rename_i hleaf
    rw [Option.some.injEq, eq_comm, and_iff_right hleaf]
  · rename_i hleaf
    simp [hleaf]

/-- Below a step a site is counted within what the step puts in front. -/
theorem Site.filterMap_below (r : Registry) (b : Branch) (sites : List Site) :
    (sites.map (below b)).filterMap (tally? r) = sites.filterMap (tally? (.within b.ns r)) := by
  rw [List.filterMap_map]
  rfl

namespace Config

mutual

/-- **The leaves of a config are those of its sites.** -/
theorem tallies_sites : ∀ (c : Config) {r : Registry},
    c.tallies r = c.sites.filterMap (Site.tally? r)
  | ⟨kind, static, text, metadata, all, any, child, resource⟩, r => by
      unfold tallies sites
      split
      · rfl
      · rfl
      · rfl
      · rw [talliesAll_sitesAll .all (fun _ => rfl) all]
        rfl
      · rw [talliesAll_sitesAll .any (fun _ => rfl) any]
        rfl
      · rw [tallies?_sites? child]
        rfl
      · rename_i hstatic htext hmetadata hall hany hnot
        simp [Site.tally?, Kind.leafNames, Kind.leaves, Kind.name, show kind ≠ "static" from hstatic,
          show kind ≠ "text" from htext, show kind ≠ "metadata" from hmetadata]

theorem talliesAll_sitesAll {kind : Kind} (branch : Nat → Branch)
    (hbranch : ∀ i, (branch i).ns = kind.name ++ "." ++ toString i) :
    ∀ (cs : List Config) {r : Registry} {i : Nat},
      talliesAll r kind i cs = (sitesAll branch i cs).filterMap (Site.tally? r)
  | [], r, i => by
      rw [talliesAll, sitesAll, List.filterMap_nil]
  | c :: rest, r, i => by
      rw [talliesAll, sitesAll, List.filterMap_append, Site.filterMap_below, hbranch,
        tallies_sites c, talliesAll_sitesAll branch hbranch rest]
      rfl

theorem tallies?_sites? : ∀ (child : Option Config) {r : Registry},
    tallies? (.within "not" r) child = (sites? child).filterMap (Site.tally? r)
  | none, r => by
      rw [tallies?, sites?, List.filterMap_nil]
  | some c, r => by
      rw [tallies?, sites?, Site.filterMap_below, tallies_sites c]
      rfl

end

/-- A leaf of a config is one that a route leads to. -/
theorem mem_tallies_iff {c : Config} {r : Registry} {t : Tally} :
    t ∈ c.tallies r ↔ ∃ route n, at? route c = some n ∧ n.kind ∈ Kind.leafNames ∧
      t = .ofKind (r.along route) n.kind := by
  rw [tallies_sites, List.mem_filterMap]
  constructor
  · rintro ⟨⟨route, n⟩, hs, ht⟩
    obtain ⟨hleaf, rfl⟩ := Site.tally?_eq_some.mp ht
    exact ⟨route, n, (mem_sites c).mp hs, hleaf, rfl⟩
  · rintro ⟨route, n, hn, hleaf, rfl⟩
    exact ⟨⟨route, n⟩, (mem_sites c).mpr hn, Site.tally?_eq_some.mpr ⟨hleaf, rfl⟩⟩

end Config

end BatchFilter
