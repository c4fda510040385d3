import BatchFilter.Proofs.Tallies

/-! # Routes to Leaves

    The path of a leaf spells the route that leads to it: `and.<i>`, `or.<i>`
    or `not` for each step, and then its type.  A route can be read back from
    what it spells, from the end on, because no segment of it has a dot inside
    and no number is the name of a combination.  A name may spell anything,
    though, and so the last segments of a name may be taken for a route.

    * `Leaf`, `Config.leaves`: the leaves of a config and where they are.
    * `Config.tallies_leaves`: where these are counted.
    * `Branch.segments_append`: routes are read back from their segments.
    * `Route.behind_name_iff`: what it means that two names and the routes behind
      them spell the same. -/

namespace BatchFilter

/-! ## Section 1: Leaves and where they are -/

/-- What a route spells behind something else. -/
def Route.dotted : Route → String
  | [] => ""
  | b :: rest => "." ++ b.ns ++ dotted rest

/-- A leaf of a config: where it is and what it is. -/
structure Leaf where
  route : Route
  kind : Kind
  isLeaf : kind ∈ Kind.leaves
  deriving DecidableEq

namespace Leaf

/-- The leaf seen from one step above. -/
def below (b : Branch) (l : Leaf) : Leaf :=
  { l with route := b :: l.route }

/-- What the paths of the counters of a leaf begin with. -/
def path (l : Leaf) : String :=
  Route.text l.route ++ ("condition." ++ l.kind.name)

/-- The counters of a leaf in a table, behind what its paths begin with. -/
def tally (id : Nat) (front : String) (l : Leaf) : Tally :=
  .onPath id (front ++ l.path)

theorem tally_below (id : Nat) (front : String) (b : Branch) (l : Leaf) :
    (l.below b).tally id front = l.tally id (front ++ (b.ns ++ ".")) := by
  unfold tally path below
  rw [Route.text]
  simp only [String.append_assoc]

end Leaf

namespace Config

mutual

/-- The leaves of a config, in order. -/
def leaves : Config → List Leaf
  | ⟨kind, _, _, _, all, any, not, _⟩ =>
      match kind with
      | "static" => [⟨[], .static, by decide⟩]
      | "text" => [⟨[], .text, by decide⟩]
      | "metadata" => [⟨[], .metadata, by decide⟩]
      | "and" => leavesAll .all 0 all
      | "or" => leavesAll .any 0 any
      | "not" => leaves? not
      | _ => []

/-- The leaves of children, of which the first has number `i`. -/
def leavesAll (branch : Nat → Branch) (i : Nat) : List Config → List Leaf
  | [] => []
  | c :: rest => c.leaves.map (.below (branch i)) ++ leavesAll branch (i + 1) rest

/-- The leaves of the child of a negation. -/
def leaves? : Option Config → List Leaf
  | none => []
  | some c => c.leaves.map (.below .not)

end

mutual

/-- **Where leaves are counted**: behind what their registry puts in front, each
    under its route and its type. -/
theorem tallies_leaves {id : Nat} : ∀ (c : Config) {r : Registry} {front : String},
    r.place = some (id, front) → c.tallies r = c.leaves.map (Leaf.tally id front)
  | ⟨kind, static, text, metadata, all, any, child, resource⟩, r, front, hr => by
      have hleaf : ∀ (kind : Kind) (h : kind ∈ Kind.leaves),
          [Tally.ofKind r kind.name] = [⟨[], kind, h⟩].map (Leaf.tally id front) := by
        intro kind h
        rw [Tally.ofKind_place hr, List.map_singleton, Leaf.tally, Leaf.path, Route.text,
          String.empty_append]
      unfold tallies
      split
      · exact hleaf .static (by decide)
      · exact hleaf .text (by decide)
      · exact hleaf .metadata (by decide)
      · exact talliesAll_leavesAll .all (fun _ => rfl) all hr
      · exact talliesAll_leavesAll .any (fun _ => rfl) any hr
      · exact tallies?_leaves? child hr
      · rename_i h₁ h₂ h₃ h₄ h₅ h₆
        simp [leaves]

theorem talliesAll_leavesAll {id : Nat} {kind : Kind} (branch : Nat → Branch)
    (hbranch : ∀ i, (branch i).ns = kind.name ++ "." ++ toString i) :
    ∀ (cs : List Config) {r : Registry} {i : Nat} {front : String}, r.place = some (id, front) →
      talliesAll r kind i cs = (leavesAll branch i cs).map (Leaf.tally id front)
  | [], _, _, _, _ => by
      rw [talliesAll, leavesAll, List.map_nil]
  | c :: rest, r, i, front, hr => by
      have hchild : (r.child kind i).place = some (id, front ++ ((branch i).ns ++ ".")) := by
        rw [hbranch]
        exact Registry.place_within hr _
      rw [talliesAll, leavesAll, List.map_append, List.map_map, tallies_leaves c hchild,
        talliesAll_leavesAll branch hbranch rest hr]
      congr 2
      funext l
      exact (l.tally_below id front (branch i)).symm

theorem tallies?_leaves? {id : Nat} : ∀ (child : Option Config) {r : Registry} {front : String},
    r.place = some (id, front) →
      tallies? (.within "not" r) child = (leaves? child).map (Leaf.tally id front)
  | none, _, _, _ => by
      rw [tallies?, leaves?, List.map_nil]
  | some c, r, front, hr => by
      rw [tallies?, leaves?, List.map_map, tallies_leaves c (Registry.place_within hr "not")]
      congr 1
      funext l
      exact (l.tally_below id front .not).symm

end

end Config

/-! ## Section 2: Counters that are shared -/

/-- Leaves share a counter if and only if their paths begin alike, and then
    they share all. -/
theorem Tally.shared_iff (id : Nat) (stem stem' : String) :
    (∃ k, k ∈ (onPath id stem).counters ∧ k ∈ (onPath id stem').counters) ↔ stem = stem' := by
  constructor
  · rintro ⟨k, hk, hk'⟩
    simp only [counters, List.mem_cons, List.not_mem_nil, or_false] at hk hk'
    -- Counters of different answers end differently.
    rcases hk with rfl | rfl | rfl
    · rcases hk' with heq | heq | heq
      · exact (count_inj id stem stem').mp heq
      · exact absurd heq (count_ne_hit id stem stem')
      · exact absurd heq (count_ne_miss id stem stem')
    · rcases hk' with heq | heq | heq
      · exact absurd heq.symm (count_ne_hit id stem' stem)
      · exact (hit_inj id stem stem').mp heq
      · exact absurd heq (hit_ne_miss id stem stem')
    · rcases hk' with heq | heq | heq
      · exact absurd heq.symm (count_ne_miss id stem' stem)
      · exact absurd heq.symm (hit_ne_miss id stem' stem)
      · exact (miss_inj id stem stem').mp heq
  · rintro rfl
    exact ⟨_, List.mem_cons_self, List.mem_cons_self⟩

/-- Paths of leaves are the same if and only if the types are, and all in front
    of them is. -/
theorem Leaf.append_path_eq_iff (front front' : String) (l l' : Leaf) :
    front ++ l.path = front' ++ l'.path ↔
      l.kind = l'.kind ∧ front ++ Route.text l.route = front' ++ Route.text l'.route := by
  -- No type ends with another one.
  have hends : ∀ kind ∈ Kind.leaves, ∀ kind' ∈ Kind.leaves, kind ≠ kind' →
      ¬(("condition." ++ kind.name).toList <:+ ("condition." ++ kind'.name).toList
        ∨ ("condition." ++ kind'.name).toList <:+ ("condition." ++ kind.name).toList) := by
    decide
  have hassoc : ∀ (front : String) (l : Leaf), front ++ l.path
      = (front ++ Route.text l.route) ++ ("condition." ++ l.kind.name) := by
    intro front l
    rw [path, String.append_assoc]
  rw [hassoc, hassoc]
  constructor
  · intro heq
    have hkind : l.kind = l'.kind := by
      by_contra hne
      exact append_ne (hends l.kind l.isLeaf l'.kind l'.isLeaf hne) _ _ heq
    rw [hkind, String.append_left_inj] at heq
    exact ⟨hkind, heq⟩
  · rintro ⟨hkind, heq⟩
    rw [hkind, heq]

/-! ## Section 3: Segments -/

/-- Texts one behind another, each after a dot. -/
def afterDots (segments : List (List Char)) : List Char :=
  segments.flatMap ('.' :: ·)

theorem afterDots_cons (x : List Char) (xs : List (List Char)) :
    afterDots (x :: xs) = '.' :: x ++ afterDots xs :=
  List.flatMap_cons

theorem afterDots_append (xs ys : List (List Char)) :
    afterDots (xs ++ ys) = afterDots xs ++ afterDots ys :=
  List.flatMap_append

/-- What is behind the last dot, and what is in front of it. -/
theorem last_dot_inj {a b x y : List Char} (hx : '.' ∉ x) (hy : '.' ∉ y)
    (h : a ++ '.' :: x = b ++ '.' :: y) : a = b ∧ x = y := by
  have hback : ∀ {x y c : List Char}, '.' ∉ x → '.' :: x = c ++ '.' :: y → c = [] := by
    intro x y c hx h
    cases c with
    | nil => rfl
    | cons first c =>
      obtain ⟨_, rfl⟩ := List.cons.inj h
      exact absurd (List.mem_append_right c List.mem_cons_self) hx
  rcases List.append_eq_append_iff.mp h with ⟨c, rfl, hc⟩ | ⟨c, rfl, hc⟩
  · obtain rfl := hback hx hc
    exact ⟨(List.append_nil a).symm, (List.cons.inj hc).2⟩
  · obtain rfl := hback hy hc
    exact ⟨List.append_nil b, (List.cons.inj hc).2.symm⟩

/-- Names with segments behind them are the same if and only if one name is the
    other with the segments that its own do not have. -/
theorem append_afterDots_eq_iff {a b : List Char} {xs ys : List (List Char)}
    (hxs : ∀ x ∈ xs, '.' ∉ x) (hys : ∀ y ∈ ys, '.' ∉ y) :
    a ++ afterDots xs = b ++ afterDots ys ↔
      (∃ ws, ys = ws ++ xs ∧ a = b ++ afterDots ws) ∨
        ∃ ws, xs = ws ++ ys ∧ b = a ++ afterDots ws := by
  constructor
  · intro h
    -- The segments are compared from the last one on.
    induction xs using List.reverseRecOn generalizing ys with
    | nil =>
      exact Or.inl ⟨ys, (List.append_nil ys).symm, (List.append_nil a).symm.trans h⟩
    | append_singleton xs x ih =>
      rcases List.eq_nil_or_concat ys with rfl | ⟨ys, y, rfl⟩
      · exact Or.inr ⟨xs ++ [x], (List.append_nil _).symm, (h.trans (List.append_nil b)).symm⟩
      · have hlast : ∀ (zs : List (List Char)) (z : List Char),
            afterDots (zs ++ [z]) = afterDots zs ++ '.' :: z := by
          intro zs z
          rw [afterDots_append, afterDots_cons]
          exact congrArg (afterDots zs ++ ·) (List.append_nil _)
        rw [List.concat_eq_append] at hys h ⊢
        rw [hlast, hlast, ← List.append_assoc, ← List.append_assoc] at h
        obtain ⟨hfront, rfl⟩ := last_dot_inj (hxs x (by simp)) (hys y (by simp)) h
        have hxs' : ∀ x ∈ xs, '.' ∉ x := fun x hx => hxs x (List.mem_append_left _ hx)
        have hys' : ∀ y ∈ ys, '.' ∉ y := fun y hy => hys y (List.mem_append_left _ hy)
        rcases ih hxs' hys' hfront with ⟨ws, rfl, hname⟩ | ⟨ws, rfl, hname⟩
        · exact Or.inl ⟨ws, List.append_assoc ws xs [x], hname⟩
        · exact Or.inr ⟨ws, List.append_assoc ws ys [x], hname⟩
  · rintro (⟨ws, rfl, rfl⟩ | ⟨ws, rfl, rfl⟩)
    · rw [afterDots_append, List.append_assoc]
    · rw [afterDots_append, List.append_assoc]

namespace Branch

/-- The segments that a step spells. -/
def segments : Branch → List (List Char)
  | .all i => [Kind.all.name.toList, Nat.toDigits 10 i]
  | .any i => [Kind.any.name.toList, Nat.toDigits 10 i]
  | .not => [Kind.not.name.toList]

theorem ns_segments (b : Branch) : ("." ++ b.ns).toList = afterDots b.segments := by
  cases b <;> simp [ns, segments, afterDots]

theorem toDigits_inj {i j : Nat} (h : Nat.toDigits 10 i = Nat.toDigits 10 j) : i = j := by
  rw [← Nat.ofDigitChars_ten_toDigits (n := i), h, Nat.ofDigitChars_ten_toDigits]

theorem segments_inj {b b' : Branch} {xs ys : List (List Char)}
    (h : b.segments ++ xs = b'.segments ++ ys) : b = b' ∧ xs = ys := by
  cases b <;> cases b' <;> simp_all [segments, Kind.name]
  · exact toDigits_inj h.1
  · exact toDigits_inj h.1

/-- A step spells one segment, or a number behind it. -/
theorem segments_shape (b : Branch) :
    (∃ name, b.segments = [name]) ∨ ∃ name i, b.segments = [name, Nat.toDigits 10 i] := by
  cases b with
  | all i => exact Or.inr ⟨_, i, rfl⟩
  | any i => exact Or.inr ⟨_, i, rfl⟩
  | not => exact Or.inl ⟨_, rfl⟩

/-- No segment has a dot inside. -/
theorem dot_notMem (b : Branch) : ∀ x ∈ b.segments, '.' ∉ x := by
  have hdigits : ∀ i, '.' ∉ Nat.toDigits 10 i := by
    intro i hmem
    exact absurd (Nat.isDigit_of_mem_toDigits (by decide) (by decide) hmem) (by decide)
  cases b <;> simp [segments, Kind.name, hdigits]

end Branch

namespace Route

/-- The segments that a route spells. -/
def segments (route : Route) : List (List Char) :=
  route.flatMap Branch.segments

theorem segments_append (ω ρ : Route) : segments (ω ++ ρ) = segments ω ++ segments ρ :=
  List.flatMap_append

theorem dot_notMem (route : Route) : ∀ x ∈ segments route, '.' ∉ x := by
  intro x hx
  obtain ⟨b, _, hb⟩ := List.mem_flatMap.mp hx
  exact b.dot_notMem x hb

theorem dotted_segments (route : Route) : (dotted route).toList = afterDots (segments route) := by
  induction route with
  | nil => rfl
  | cons b rest ih =>
    rw [dotted, String.toList_append, Branch.ns_segments, ih, ← afterDots_append]
    rfl

theorem dot_text (route : Route) : "." ++ text route = dotted route ++ "." := by
  induction route with
  | nil => rfl
  | cons b rest ih =>
    rw [text, dotted, String.append_assoc, ih]
    simp only [String.append_assoc]

/-- A route does not begin with a number. -/
theorem digits_ne_segments (i : Nat) (xs : List (List Char)) (route : Route) :
    Nat.toDigits 10 i :: xs ≠ segments route := by
  intro h
  have hhead : ∀ c ∈ (Nat.toDigits 10 i).head?, c.isDigit = true := by
    intro c hc
    exact Nat.isDigit_of_mem_toDigits (by decide) (by decide) (List.mem_of_mem_head? hc)
  cases route with
  | nil => cases h
  | cons b rest =>
    have hfirst : ∀ name : List Char, Nat.toDigits 10 i = name →
        ∀ c ∈ name.head?, c.isDigit = true := by
      rintro name rfl
      exact hhead
    cases b with
    | all j => exact absurd (hfirst _ (List.cons.inj h).1 'a' rfl) (by decide)
    | any j => exact absurd (hfirst _ (List.cons.inj h).1 'o' rfl) (by decide)
    | not => exact absurd (hfirst _ (List.cons.inj h).1 'n' rfl) (by decide)

theorem segments_eq_nil {route : Route} (h : segments route = []) : route = [] := by
  cases route with
  | nil => rfl
  | cons b rest => cases b <;> cases h

/-- **Routes are read back from their segments**: if the segments of a route end
    with those of another one, the route ends with the other one. -/
theorem of_segments_append {route ρ : Route} {ws : List (List Char)}
    (h : segments route = ws ++ segments ρ) : ∃ ω, route = ω ++ ρ ∧ ws = segments ω := by
  induction route generalizing ρ ws with
  | nil =>
    obtain ⟨rfl, hnil⟩ := List.append_eq_nil_iff.mp h.symm
    obtain rfl := segments_eq_nil hnil
    exact ⟨[], rfl, rfl⟩
  | cons b rest ih =>
    have hb : b.segments ++ segments rest = ws ++ segments ρ := h
    cases ws with
    | nil =>
      -- Both begin at the same place, so they go the same way.
      cases ρ with
      | nil => exact absurd (segments_eq_nil h) (List.cons_ne_nil b rest)
      | cons b' ρ' =>
        have hsame : b.segments ++ segments rest = b'.segments ++ segments ρ' := hb
        obtain ⟨rfl, hrest⟩ := Branch.segments_inj hsame
        have hnone : segments rest = [] ++ segments ρ' := hrest
        obtain ⟨ω, rfl, hω⟩ := ih hnone
        obtain rfl := segments_eq_nil hω.symm
        exact ⟨[], rfl, rfl⟩
    | cons w ws =>
      rcases b.segments_shape with ⟨name, hname⟩ | ⟨name, i, hname⟩
      · rw [hname] at hb
        obtain ⟨rfl, hrest⟩ := List.cons.inj hb
        obtain ⟨ω, rfl, rfl⟩ := ih hrest
        exact ⟨b :: ω, rfl, congrArg (· ++ segments ω) hname.symm⟩
      · rw [hname] at hb
        obtain ⟨rfl, hrest⟩ := List.cons.inj hb
        -- The number belongs to the step: nothing that ends in between is a route.
        cases ws with
        | nil => exact absurd hrest (digits_ne_segments i _ ρ)
        | cons w ws =>
          obtain ⟨rfl, hbehind⟩ := List.cons.inj hrest
          obtain ⟨ω, rfl, rfl⟩ := ih hbehind
          exact ⟨b :: ω, rfl, congrArg (· ++ segments ω) hname.symm⟩

/-- **Names and routes behind them spell the same** if and only if one name is
    the other with a route behind it, and the routes make up for that. -/
theorem behind_name_iff (a b : String) (ρ σ : Route) :
    a ++ ("." ++ text ρ) = b ++ ("." ++ text σ) ↔
      (∃ ω, σ = ω ++ ρ ∧ a = b ++ dotted ω) ∨ ∃ ω, ρ = ω ++ σ ∧ b = a ++ dotted ω := by
  have hchars : a ++ ("." ++ text ρ) = b ++ ("." ++ text σ) ↔
      a.toList ++ afterDots (segments ρ) = b.toList ++ afterDots (segments σ) := by
    rw [dot_text, dot_text, ← String.append_assoc, ← String.append_assoc, String.append_left_inj,
      ← String.toList_inj, String.toList_append, String.toList_append, dotted_segments,
      dotted_segments]
  have hname : ∀ (a b : String) (ω : Route),
      a.toList = b.toList ++ afterDots (segments ω) ↔ a = b ++ dotted ω := by
    intro a b ω
    rw [← dotted_segments, ← String.toList_append, String.toList_inj]
  -- The segments that are left over are those of a route, since they are the front of one.
  rw [hchars, append_afterDots_eq_iff (dot_notMem ρ) (dot_notMem σ)]
  constructor
  · rintro (⟨ws, hσ, ha⟩ | ⟨ws, hρ, hb⟩)
    · obtain ⟨ω, rfl, rfl⟩ := of_segments_append hσ
      exact Or.inl ⟨ω, rfl, (hname a b ω).mp ha⟩
    · obtain ⟨ω, rfl, rfl⟩ := of_segments_append hρ
      exact Or.inr ⟨ω, rfl, (hname b a ω).mp hb⟩
  · rintro (⟨ω, rfl, ha⟩ | ⟨ω, rfl, hb⟩)
    · exact Or.inl ⟨segments ω, segments_append ω ρ, (hname a b ω).mpr ha⟩
    · exact Or.inr ⟨segments ω, segments_append ω σ, (hname b a ω).mpr hb⟩

end Route

end BatchFilter
