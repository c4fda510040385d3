import BatchFilter.Proofs.References
import Mathlib.Data.List.Nodup

/-! # Every Name Once

    A walk through declared names puts new names in front of those that are
    done, and each of them once: a name that is being followed is not entered
    again, and one that is done is passed by.  Passing by costs nothing either,
    so it does not matter how often a config refers to a name, nor whether it
    refers to others that nobody has declared.

    * `Declarations.Adds`: what a walk puts in front, and `visit_adds`: that
      every visit does nothing else.
    * `Declarations.visitAll_firsts`: a walk only needs the first reference to
      every declared name.
    * `Declarations.visit_congr`: so walks go alike where these are the same.
    * `Declarations.order_arranges`: what the order of building is. -/

namespace BatchFilter

namespace Declarations

/-! ## Section 1: What a walk puts in front -/

/-- A walk has put names in front of those that are done: declared ones that
    are neither done nor on the path, and none of them twice. -/
def Adds (clauses : Dictionary Clause) (path done done' : List String) : Prop :=
  ∃ new, done' = new ++ done ∧ new.Nodup ∧
    ∀ name ∈ new, name ∈ clauses.keys ∧ name ∉ path ∧ name ∉ done

section
variable {clauses : Dictionary Clause} {path a b c : List String}

theorem Adds.refl (clauses : Dictionary Clause) (path a : List String) :
    Adds clauses path a a :=
  ⟨[], rfl, List.nodup_nil, nofun⟩

theorem Adds.trans (h : Adds clauses path a b) (h' : Adds clauses path b c) :
    Adds clauses path a c := by
  obtain ⟨new, rfl, hnodup, hnew⟩ := h
  obtain ⟨new', rfl, hnodup', hnew'⟩ := h'
  refine ⟨new' ++ new, (List.append_assoc new' new a).symm, ?_, ?_⟩
  · -- What came second was not done before, so it is nothing that came first.
    refine List.nodup_append.mpr ⟨hnodup', hnodup, ?_⟩
    rintro name hname' _ hname rfl
    exact (hnew' name hname').2.2 (List.mem_append_left a hname)
  · intro name hname
    rcases List.mem_append.mp hname with hname | hname
    · obtain ⟨hkey, hpath, hdone⟩ := hnew' name hname
      exact ⟨hkey, hpath, fun ha => hdone (List.mem_append_right new ha)⟩
    · exact hnew name hname

/-- What a walk from a longer path has put in front, and then the name itself
    that the path was longer by. -/
theorem Adds.cons {name : String} (h : Adds clauses (name :: path) a b)
    (hkey : name ∈ clauses.keys) (hpath : name ∉ path) (hdone : name ∉ a) :
    Adds clauses path a (name :: b) := by
  obtain ⟨new, rfl, hnodup, hnew⟩ := h
  have hfresh : name ∉ new := fun hname => (hnew name hname).2.1 List.mem_cons_self
  refine ⟨name :: new, rfl, List.nodup_cons.mpr ⟨hfresh, hnodup⟩, ?_⟩
  intro n hn
  rcases List.mem_cons.mp hn with rfl | hn
  · exact ⟨hkey, hpath, hdone⟩
  · obtain ⟨hkey', hpath', hdone'⟩ := hnew n hn
    exact ⟨hkey', fun h => hpath' (List.mem_cons_of_mem name h), hdone'⟩

end

/-- **A visit puts new names in front**, and does nothing else. -/
theorem visit_adds (clauses : Dictionary Clause) (path : List String) :
    ∀ {done name done'}, visit clauses path done name = .ok done' →
      Adds clauses path done done' := by
  -- Every visit that is made on the way is from a longer path.
  induction hn : unvisited clauses path using Nat.strongRecOn generalizing path with
  | ind n ih =>
    intro done name done' h
    by_cases hdone : name ∈ done
    · rw [visit_eq, if_pos hdone] at h
      cases h
      exact .refl clauses path done
    rcases visit_ok h with ⟨rfl, _⟩ | ⟨clause, done₁, hclause, hpath, hall, rfl⟩
    · exact .refl clauses path done'
    · have hkey := Dictionary.mem_keys_of_find? hclause
      have hlt := hn ▸ unvisited_lt hkey hpath
      have hadds : Adds clauses (name :: path) done done₁ := visitAll_induct
        (P := Adds clauses (name :: path)) (.refl clauses _) .trans
        (fun hvisit => ih _ hlt (name :: path) rfl hvisit) hall
      exact hadds.cons hkey hpath hdone

/-! ## Section 2: References that are passed by -/

/-- Names that a walk passes by: those that are done, and those that nobody has
    declared. -/
def Idle (clauses : Dictionary Clause) (done : List String) (name : String) : Prop :=
  name ∈ done ∨ name ∉ clauses.keys

section
variable {clauses : Dictionary Clause} {path done : List String}

/-- Nothing comes of visiting an idle name, as long as the path has only
    declared ones. -/
theorem visit_idle (hpath : ∀ a ∈ path, a ∈ clauses.keys) {name : String}
    (h : Idle clauses done name) : visit clauses path done name = .ok done := by
  rw [visit_eq]
  by_cases hdone : name ∈ done
  · rw [if_pos hdone]
  have hkey : name ∉ clauses.keys := h.resolve_left hdone
  rw [if_neg hdone, if_neg fun hmem => hkey (hpath name hmem), Dictionary.find?_eq_none.mpr hkey]

/-- Names that are idle can be left out. -/
theorem visitAll_filter (hpath : ∀ a ∈ path, a ∈ clauses.keys) {p : String → Bool}
    {names : List String} (h : ∀ name ∈ names, p name = false → Idle clauses done name) :
    visitAll clauses path done names = visitAll clauses path done (names.filter p) := by
  induction names generalizing done with
  | nil => rfl
  | cons name names ih =>
    have hrest : ∀ n ∈ names, p n = false → Idle clauses done n :=
      fun n hn => h n (List.mem_cons_of_mem name hn)
    cases hp : p name with
    | false =>
      have hidle := h name List.mem_cons_self hp
      rw [List.filter_cons_of_neg (by simp [hp]), visitAll_cons, visit_idle hpath hidle]
      exact ih hrest
    | true =>
      rw [List.filter_cons_of_pos hp, visitAll_cons, visitAll_cons]
      cases hvisit : visit clauses path done name with
      | error e => rfl
      | ok done₁ =>
        -- What is done stays done, so the others are still idle.
        obtain ⟨hsubset, _⟩ := visit_grows clauses path hvisit
        exact ih fun n hn hpn => (hrest n hn hpn).imp_left fun hdone => hsubset hdone

/-- Only the first of several references to a name matters. -/
theorem visitAll_eraseDups (hpath : ∀ a ∈ path, a ∈ clauses.keys) (names : List String) :
    visitAll clauses path done names = visitAll clauses path done names.eraseDups := by
  induction hn : names.length using Nat.strongRecOn generalizing names done with
  | ind n ih =>
    cases names with
    | nil => rw [List.eraseDups_nil]
    | cons name names =>
      rw [List.eraseDups_cons, visitAll_cons, visitAll_cons]
      cases hvisit : visit clauses path done name with
      | error e => rfl
      | ok done₁ =>
        have hlt : (names.filter fun b => !b == name).length < n := by
          rw [← hn]
          exact Nat.lt_succ_of_le (List.length_filter_le _ names)
        have hidle : ∀ b ∈ names, (!b == name) = false → Idle clauses done₁ b := by
          intro b _ hb
          obtain rfl : b = name := by simpa using hb
          by_cases hkey : b ∈ clauses.keys
          · exact Or.inl ((visit_grows clauses path hvisit).2 hkey)
          · exact Or.inr hkey
        show visitAll clauses path done₁ names = visitAll clauses path done₁ _
        rw [visitAll_filter hpath hidle, ih _ hlt _ rfl]

/-- The declared ones among names, each once and in the order in which they come
    first. -/
def firsts (keys names : List String) : List String :=
  (names.filter fun name => keys.contains name).eraseDups

/-- **A walk only needs the first reference to every declared name.** -/
theorem visitAll_firsts (hpath : ∀ a ∈ path, a ∈ clauses.keys) (names : List String) :
    visitAll clauses path done names = visitAll clauses path done (firsts clauses.keys names) := by
  have hidle : ∀ name ∈ names, clauses.keys.contains name = false → Idle clauses done name := by
    intro name _ hname
    exact Or.inr (by simpa using hname)
  rw [visitAll_filter hpath hidle, visitAll_eraseDups hpath]
  rfl

end

/-! ## Section 3: Walks that go alike -/

/-- Clauses of the same names of which each refers to the same declared names,
    in the same order of first references. -/
structure SameTargets (clauses clauses' : Dictionary Clause) : Prop where
  keys : clauses.keys = clauses'.keys
  firsts : ∀ name clause clause', clauses.find? name = some clause →
    clauses'.find? name = some clause' →
    firsts clauses.keys clause.references = firsts clauses.keys clause'.references

section
variable {clauses clauses' : Dictionary Clause}

theorem visitAll_congr {path : List String}
    (h : ∀ done name, visit clauses path done name = visit clauses' path done name)
    (done names : List String) :
    visitAll clauses path done names = visitAll clauses' path done names := by
  induction names generalizing done with
  | nil => rfl
  | cons name names ih =>
    rw [visitAll_cons, visitAll_cons, h done name]
    cases visit clauses' path done name with
    | error e => rfl
    | ok done₁ => exact ih done₁

/-- **Walks go alike** through clauses that have the same targets. -/
theorem visit_congr (h : SameTargets clauses clauses') (path : List String)
    (hpath : ∀ a ∈ path, a ∈ clauses.keys) :
    ∀ done name, visit clauses path done name = visit clauses' path done name := by
  induction hn : unvisited clauses path using Nat.strongRecOn generalizing path with
  | ind n ih =>
    intro done name
    rw [visit_eq, visit_eq]
    by_cases hdone : name ∈ done
    · rw [if_pos hdone, if_pos hdone]
    by_cases hmem : name ∈ path
    · rw [if_neg hdone, if_neg hdone, if_pos hmem, if_pos hmem]
    rw [if_neg hdone, if_neg hdone, if_neg hmem, if_neg hmem]
    by_cases hkey : name ∈ clauses.keys
    · obtain ⟨clause, hclause⟩ := Dictionary.find?_of_mem_keys hkey
      obtain ⟨clause', hclause'⟩ := Dictionary.find?_of_mem_keys (h.keys ▸ hkey)
      have hlt := hn ▸ unvisited_lt hkey hmem
      have hlonger : ∀ a ∈ name :: path, a ∈ clauses.keys :=
        List.forall_mem_cons.mpr ⟨hkey, hpath⟩
      have hlonger' : ∀ a ∈ name :: path, a ∈ clauses'.keys := h.keys ▸ hlonger
      -- Both go on from the longer path, to the same names.
      have hsame : visitAll clauses (name :: path) done clause.references
          = visitAll clauses' (name :: path) done clause'.references := by
        rw [visitAll_firsts hlonger, visitAll_firsts hlonger', ← h.keys,
          h.firsts name clause clause' hclause hclause']
        exact visitAll_congr (ih _ hlt (name :: path) hlonger rfl) done _
      simp only [hclause, hclause', hsame]
    · rw [Dictionary.find?_eq_none.mpr hkey, Dictionary.find?_eq_none.mpr (h.keys ▸ hkey)]

end

/-! ## Section 4: The order -/

/-- The declared names that a name refers to, each once and in the order in
    which its config comes to them first. -/
def targets (d : Declarations) (name : String) : List String :=
  match d.conditions.find? name with
  | none => []
  | some c => firsts d.conditions.keys c.names

theorem sameTargets_of {d d' : Declarations} (hkeys : d.conditions.keys = d'.conditions.keys)
    (h : ∀ name, d.targets name = d'.targets name) : SameTargets d.clauses d'.clauses where
  keys := by rw [keys_clauses, keys_clauses, hkeys]
  firsts := by
    intro name clause clause' hclause hclause'
    rw [find?_clauses] at hclause hclause'
    obtain ⟨c, hc, rfl⟩ := Option.map_eq_some_iff.mp hclause
    obtain ⟨c', hc', rfl⟩ := Option.map_eq_some_iff.mp hclause'
    have hsame := h name
    unfold targets at hsame
    rw [hc, hc', ← hkeys] at hsame
    rw [keys_clauses, Config.references_nodes, Config.references_nodes]
    exact hsame

/-- What refers to the same declared names is built in the same order, or stops
    at the same name. -/
theorem order_congr {d d' : Declarations} (hkeys : d.conditions.keys = d'.conditions.keys)
    (h : ∀ name, d.targets name = d'.targets name) : d.order = d'.order := by
  have hsame := visit_congr (sameTargets_of hkeys h) [] nofun
  show (visitAll d.clauses [] [] d.conditions.keys).map List.reverse
    = (visitAll d'.clauses [] [] d'.conditions.keys).map List.reverse
  rw [visitAll_congr hsame, hkeys]

/-- The order has declared names only, and each once. -/
theorem order_adds {d : Declarations} {names : List String} (h : d.order = .ok names) :
    names.Nodup ∧ ∀ name ∈ names, name ∈ d.conditions.keys := by
  obtain ⟨done, hall, rfl⟩ := order_ok h
  obtain ⟨new, rfl, hnodup, hnew⟩ := visitAll_induct (P := Adds d.clauses []) (.refl d.clauses [])
    .trans (fun hvisit => visit_adds d.clauses [] hvisit) hall
  rw [List.append_nil]
  refine ⟨List.nodup_reverse.mpr hnodup, ?_⟩
  intro name hname
  rw [← d.keys_clauses]
  exact (hnew name (List.mem_reverse.mp hname)).1

/-- **The order of building.**  There is one if and only if no declared name
    refers to itself, directly or through others.  It has every declared name
    once and no other name, and each comes behind all declared ones that its
    config refers to, wherever in the sections that are read.  If there is none,
    the error names one that refers to itself.

    Only the first reference to every declared name counts: where these are the
    same, the order is, and so is the error. -/
theorem order_arranges (d : Declarations) :
    ((∃ names, d.order = .ok names) ↔ ∀ name, ¬d.DependsOn name name) ∧
    (∀ names, d.order = .ok names →
      names.Nodup ∧ (∀ name, name ∈ names ↔ name ∈ d.conditions.keys) ∧
      ∀ before name after, names = before ++ name :: after →
        ∀ target, d.Refers name target → target ∈ before) ∧
    (∀ e, d.order = .error e →
      ∃ name, e = .invalidConfig (.selfReference name) ∧ d.DependsOn name name) ∧
    ∀ d' : Declarations, d.conditions.keys = d'.conditions.keys →
      (∀ name, d.targets name = d'.targets name) → d.order = d'.order := by
  refine ⟨?_, ?_, ?_, fun d' => order_congr⟩
  · rcases d.order_spec with ⟨names, horder, _, _, hacyclic⟩ | ⟨name, horder, hcycle⟩
    · exact ⟨fun _ => hacyclic, fun _ => ⟨names, horder⟩⟩
    · rw [horder]
      exact ⟨nofun, fun hacyclic => absurd hcycle (hacyclic name)⟩
  · intro names h
    obtain ⟨hnodup, hdeclared⟩ := order_adds h
    refine ⟨hnodup, fun name => ⟨hdeclared name, mem_order h⟩, ?_⟩
    rcases d.order_spec with ⟨names', horder, hsettled, _, _⟩ | ⟨name, horder, _⟩
    · obtain rfl : names = names' := Except.ok.inj (h.symm.trans horder)
      rintro before name after rfl target href
      rw [List.reverse_append, List.reverse_cons, List.append_assoc, List.singleton_append]
        at hsettled
      exact List.mem_reverse.mp ((settled_append hsettled).1 target href)
    · rw [h] at horder
      cases horder
  · intro e h
    rcases d.order_spec with ⟨names, horder, _⟩ | ⟨name, horder, hcycle⟩
    · rw [h] at horder
      cases horder
    · exact ⟨name, Except.error.inj (h.symm.trans horder), hcycle⟩

end Declarations

end BatchFilter
