import BatchFilter.Declarations
import BatchFilter.Proofs.Dictionaries

/-! # The Order of Building

    A walk that comes to its end has put every declared name it was sent to
    in the order, and loses none that were there before.

    * `Declarations.visitAll`: visiting names one after another.
    * `Declarations.visit_grows`: what one visit leaves in the order.
    * `Declarations.mem_order`: every declared name is in the order. -/

namespace BatchFilter

namespace Declarations

/-! ## Section 1: Visiting -/

/-- Visit names one after another. -/
def visitAll (clauses : Dictionary Clause) (path done names : List String) :
    Except Error (List String) :=
  names.foldlM (fun done target => visit clauses path done target) done

theorem visitAll_nil (clauses : Dictionary Clause) (path done : List String) :
    visitAll clauses path done [] = .ok done := rfl

theorem visitAll_cons (clauses : Dictionary Clause) (path done : List String) (name : String)
    (names : List String) :
    visitAll clauses path done (name :: names)
      = (visit clauses path done name).bind fun done => visitAll clauses path done names := rfl

/-- Visits one after another succeeded one by one. -/
theorem visitAll_ok {clauses : Dictionary Clause} {path done : List String} {name : String}
    {names done' : List String} (h : visitAll clauses path done (name :: names) = .ok done') :
    ∃ done₁, visit clauses path done name = .ok done₁ ∧
      visitAll clauses path done₁ names = .ok done' := by
  rw [visitAll_cons] at h
  cases hvisit : visit clauses path done name with
  | error e =>
    rw [hvisit] at h
    cases h
  | ok done₁ =>
    rw [hvisit] at h
    exact ⟨done₁, rfl, h⟩

/-- What a visit does: nothing to a name that is done or not declared, and to
    another one only if it is not on the path. -/
theorem visit_eq (clauses : Dictionary Clause) (path done : List String) (name : String) :
    visit clauses path done name =
      if name ∈ done then .ok done
      else if name ∈ path then .error (.invalidConfig (.selfReference name))
      else
        match clauses.find? name with
        | none => .ok done
        | some clause =>
            (visitAll clauses (name :: path) done clause.references).map (name :: ·) := by
  rw [visit]
  simp only [List.contains_iff_mem, visitAll]
  by_cases hdone : name ∈ done
  · rw [if_pos hdone, if_pos hdone]
  by_cases hpath : name ∈ path
  · rw [if_neg hdone, if_neg hdone, dif_pos hpath, if_pos hpath]
  · rw [if_neg hdone, if_neg hdone, dif_neg hpath, if_neg hpath]
    split <;> rename_i hfind <;> rw [hfind]

/-- What a visit that succeeded did: nothing, or it put a declared name after
    the names that its clause refers to. -/
theorem visit_ok {clauses : Dictionary Clause} {path done : List String} {name : String}
    {done' : List String} (h : visit clauses path done name = .ok done') :
    (done' = done ∧ (name ∈ done ∨ name ∉ clauses.keys)) ∨
      ∃ clause done₁, clauses.find? name = some clause ∧ name ∉ path ∧
        visitAll clauses (name :: path) done clause.references = .ok done₁ ∧
        done' = name :: done₁ := by
  rw [visit_eq] at h
  by_cases hdone : name ∈ done
  · rw [if_pos hdone] at h
    cases h
    exact Or.inl ⟨rfl, Or.inl hdone⟩
  by_cases hpath : name ∈ path
  · rw [if_neg hdone, if_pos hpath] at h
    cases h
  rw [if_neg hdone, if_neg hpath] at h
  cases hfind : clauses.find? name with
  | none =>
    rw [hfind] at h
    cases h
    exact Or.inl ⟨rfl, Or.inr (Dictionary.find?_eq_none.mp hfind)⟩
  | some clause =>
    simp only [hfind] at h
    cases hall : visitAll clauses (name :: path) done clause.references with
    | error e =>
      rw [hall] at h
      cases h
    | ok done₁ =>
      rw [hall] at h
      cases h
      exact Or.inr ⟨clause, done₁, rfl, hpath, hall, rfl⟩

/-- What every visit from a longer path does, visiting one after another does
    as well. -/
theorem visitAll_induct {clauses : Dictionary Clause} {path : List String}
    {P : List String → List String → Prop} (refl : ∀ done, P done done)
    (trans : ∀ {a b c}, P a b → P b c → P a c)
    (step : ∀ {done name done'}, visit clauses path done name = .ok done' → P done done')
    {names done done' : List String} (h : visitAll clauses path done names = .ok done') :
    P done done' := by
  induction names generalizing done with
  | nil =>
    cases h
    exact refl _
  | cons name names ih =>
    obtain ⟨done₁, hvisit, hrest⟩ := visitAll_ok h
    exact trans (step hvisit) (ih hrest)

theorem visitAll_subset {clauses : Dictionary Clause} {path : List String}
    (step : ∀ {done name done'}, visit clauses path done name = .ok done' → done ⊆ done')
    {names done done' : List String} (h : visitAll clauses path done names = .ok done') :
    done ⊆ done' :=
  visitAll_induct (P := (· ⊆ ·)) List.Subset.refl List.Subset.trans step h

/-! ## Section 2: What the order holds -/

/-- A visit keeps what is done, and a declared name is done after it. -/
theorem visit_grows (clauses : Dictionary Clause) (path : List String) :
    ∀ {done name done'}, visit clauses path done name = .ok done' →
      done ⊆ done' ∧ (name ∈ clauses.keys → name ∈ done') := by
  -- Every visit that is made on the way is from a longer path.
  induction hn : unvisited clauses path using Nat.strongRecOn generalizing path with
  | ind n ih =>
    intro done name done' h
    rcases visit_ok h with ⟨rfl, hname⟩ | ⟨clause, done₁, hclause, hpath, hall, rfl⟩
    · refine ⟨List.Subset.refl _, ?_⟩
      intro hkey
      exact hname.resolve_right fun hnot => hnot hkey
    · have hkey := Dictionary.mem_keys_of_find? hclause
      have hlt := hn ▸ unvisited_lt hkey hpath
      have hsubset : done ⊆ done₁ := visitAll_subset
        (fun hvisit => (ih _ hlt (name :: path) rfl hvisit).1) hall
      exact ⟨List.subset_cons_of_subset name hsubset, fun _ => List.mem_cons_self⟩

/-- Names that are visited one after another are all done if declared. -/
theorem mem_visitAll {clauses : Dictionary Clause} {path names done done' : List String}
    (h : visitAll clauses path done names = .ok done') {name : String} (hname : name ∈ names)
    (hkey : name ∈ clauses.keys) : name ∈ done' := by
  induction names generalizing done with
  | nil => cases hname
  | cons first names ih =>
    obtain ⟨done₁, hvisit, hrest⟩ := visitAll_ok h
    rcases List.mem_cons.mp hname with rfl | hname
    · have hgrows : done₁ ⊆ done' :=
        visitAll_subset (fun hvisit => (visit_grows clauses path hvisit).1) hrest
      exact hgrows ((visit_grows clauses path hvisit).2 hkey)
    · exact ih hrest hname

/-- The order is what the visits of all declared conditions leave. -/
theorem order_ok {d : Declarations} {names : List String} (h : d.order = .ok names) :
    ∃ done, visitAll d.clauses [] [] d.conditions.keys = .ok done ∧ names = done.reverse := by
  change (visitAll d.clauses [] [] d.conditions.keys).map List.reverse = .ok names at h
  cases hall : visitAll d.clauses [] [] d.conditions.keys with
  | error e =>
    rw [hall] at h
    cases h
  | ok done =>
    rw [hall] at h
    cases h
    exact ⟨done, rfl, rfl⟩

/-- **Every declared name is in the order.** -/
theorem mem_order {d : Declarations} {names : List String} (h : d.order = .ok names)
    {name : String} (hname : name ∈ d.conditions.keys) : name ∈ names := by
  obtain ⟨done, hall, rfl⟩ := order_ok h
  have hkey : name ∈ d.clauses.keys := by
    rw [clauses, Dictionary.keys_map]
    exact hname
  exact List.mem_reverse.mpr (mem_visitAll hall hname hkey)

end Declarations

end BatchFilter
