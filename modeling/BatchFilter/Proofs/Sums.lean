import BatchFilter.Counter
import BatchFilter.Proofs.Dictionaries
import Mathlib.Algebra.GroupWithZero.Nat
import Mathlib.Data.List.Perm.Basic

/-! # What Counters Come To

    A counter only ever grows by what is added to it, so a ledger does not
    depend on the order in which its counters were added to.  What a counter
    comes to is what it was before and the total of its increments, as long as
    it exists: a ledger that was asked to add to a path nobody registered
    would make that path.

    * `Ledger.Has`: does a counter exist?
    * `Increment.total`: what increments come to for one counter.
    * `Ledger.addAll_perm`: the order of increments does not matter.
    * `Ledger.value?_addAll`: every counter has grown by its total. -/

namespace BatchFilter

/-! ## Section 1: One increment -/

namespace CounterTable

theorem find?_add (t : CounterTable) (path : String) (n : Int64) (name : String) :
    (t.add path n).find? name
      = if name = path then some ((t.find? path).getD 0 + n) else t.find? name :=
  Dictionary.find?_insert t path _ name

theorem add_comm (t : CounterTable) (path : String) (n : Int64) (path' : String) (n' : Int64) :
    (t.add path n).add path' n' = (t.add path' n').add path n := by
  apply Dictionary.ext_find?
  intro name
  by_cases hpaths : path = path'
  · -- Both add to one sum.
    subst hpaths
    simp only [find?_add, if_true, Option.getD_some]
    rw [Int64.add_assoc, Int64.add_comm n n', ← Int64.add_assoc]
    by_cases hname : name = path
    · rw [if_pos hname, if_pos hname]
    · simp only [if_neg hname]
  · have hpaths' : ¬path' = path := fun heq => hpaths heq.symm
    simp only [find?_add, if_neg hpaths, if_neg hpaths']
    by_cases hname : name = path
    · subst hname
      rw [if_neg hpaths, if_pos rfl, if_pos rfl]
    · rw [if_neg hname, if_neg hname]

end CounterTable

namespace Ledger

/-- Does a counter exist?  One that is not kept always does. -/
def Has (l : Ledger) : Counter → Prop
  | .discarded => True
  | .kept id path => ∃ v, l.value? id path = some v

/-- Do all these counters exist? -/
def HasAll (l : Ledger) (ks : List Counter) : Prop :=
  ∀ k ∈ ks, l.Has k

/-- Two increments may come in either order. -/
theorem add_comm (l : Ledger) (i j : Increment) : (l.add i).add j = (l.add j).add i := by
  obtain ⟨k, n⟩ := i
  obtain ⟨k', n'⟩ := j
  cases k with
  | discarded => rfl
  | kept id path =>
    cases k' with
    | discarded => rfl
    | kept id' path' =>
      show Ledger.mk ((l.tables.modify id _).modify id' _)
        = Ledger.mk ((l.tables.modify id' _).modify id _)
      by_cases hid : id = id'
      · subst hid
        rw [List.modify_modify_eq, List.modify_modify_eq]
        have hboth : (fun t : CounterTable => (t.add path n).add path' n')
            = fun t => (t.add path' n').add path n :=
          funext fun t => t.add_comm path n path' n'
        exact congrArg (fun f => Ledger.mk (l.tables.modify id f)) hboth
      · rw [List.modify_modify_ne _ _ _ hid]

theorem table?_modify (l : Ledger) (id : Nat) (f : CounterTable → CounterTable) (id' : Nat) :
    table? ⟨l.tables.modify id f⟩ id'
      = (l.table? id').map fun t => if id = id' then f t else t :=
  List.getElem?_modify f id l.tables id'

/-- What is added to a counter that exists, is added to it and to no other. -/
theorem value?_add {l : Ledger} {i : Increment} (h : l.Has i.counter) (id : Nat)
    (path : String) :
    (l.add i).value? id path
      = (l.value? id path).map (· + if i.counter = .kept id path then i.amount else 0) := by
  obtain ⟨k, n⟩ := i
  cases k with
  | discarded =>
    rw [if_neg nofun]
    simp only [Int64.add_zero, Option.map_id']
    rfl
  | kept id' path' =>
    obtain ⟨v, hv⟩ := h
    simp only [Counter.kept.injEq]
    unfold value? at hv ⊢
    rw [add, table?_modify]
    cases ht : l.table? id with
    | none => rfl
    | some t =>
      simp only [Option.map_some, Option.bind_some]
      by_cases hid : id' = id
      · subst hid
        rw [if_pos rfl, CounterTable.find?_add]
        by_cases hpath : path = path'
        · subst hpath
          simp only [ht, Option.bind_some] at hv
          simp only [hv, if_true, and_self, Option.map_some, Option.getD_some]
        · have hpath' : ¬path' = path := fun heq => hpath heq.symm
          simp only [if_neg hpath, hpath', and_false, if_false, Int64.add_zero, Option.map_id']
      · simp only [hid, false_and, if_false, Int64.add_zero, Option.map_id']

/-- What is added to another counter leaves a counter as it was, if it exists or
    not. -/
theorem value?_add_ne {l : Ledger} {i : Increment} {id : Nat} {path : String}
    (h : i.counter ≠ .kept id path) : (l.add i).value? id path = l.value? id path := by
  obtain ⟨k, n⟩ := i
  cases k with
  | discarded => rfl
  | kept id' path' =>
    unfold value?
    rw [add, table?_modify]
    cases ht : l.table? id with
    | none => rfl
    | some t =>
      simp only [Option.map_some, Option.bind_some]
      by_cases hid : id' = id
      · have hpath : ¬path = path' := fun heq => h (by rw [hid, heq])
        rw [if_pos hid, CounterTable.find?_add, if_neg hpath]
      · rw [if_neg hid]

theorem value?_addAll_ne {l : Ledger} {is : List Increment} {id : Nat} {path : String}
    (h : ∀ i ∈ is, i.counter ≠ .kept id path) : (l.addAll is).value? id path = l.value? id path := by
  induction is generalizing l with
  | nil => rfl
  | cons i is ih =>
    have hrest : ∀ j ∈ is, j.counter ≠ .kept id path :=
      fun j hj => h j (List.mem_cons_of_mem i hj)
    show ((l.add i).addAll is).value? id path = _
    rw [ih hrest, value?_add_ne (h i List.mem_cons_self)]

end Ledger

/-! ## Section 2: Many increments -/

namespace Increment

/-- What increments come to for a counter. -/
def total (k : Counter) (is : List Increment) : Int64 :=
  (is.filterMap fun i => if i.counter = k then some i.amount else none).sum

@[simp] theorem total_nil (k : Counter) : total k [] = 0 := rfl

@[simp] theorem total_cons (k : Counter) (i : Increment) (is : List Increment) :
    total k (i :: is) = (if i.counter = k then i.amount else 0) + total k is := by
  unfold total
  rw [List.filterMap_cons]
  by_cases h : i.counter = k
  · rw [if_pos h, if_pos h, List.sum_cons]
  · rw [if_neg h, if_neg h, Int64.zero_add]

@[simp] theorem total_append (k : Counter) (is js : List Increment) :
    total k (is ++ js) = total k is + total k js := by
  unfold total
  rw [List.filterMap_append, List.sum_append]

theorem total_single (k k' : Counter) (n : Nat) :
    total k [⟨k', Int64.ofNat n⟩] = Int64.ofNat (if k' = k then n else 0) := by
  rw [total_cons, total_nil, Int64.add_zero]
  split <;> rfl

/-- Totals that are numbers add up to their sum. -/
theorem total_flatMap {α : Type} {k : Counter} {f : α → List Increment} {n : α → Nat}
    {as : List α} (h : ∀ a ∈ as, total k (f a) = Int64.ofNat (n a)) :
    total k (as.flatMap f) = Int64.ofNat (as.map n).sum := by
  induction as with
  | nil => rfl
  | cons a as ih =>
    have hrest := ih fun a' ha' => h a' (List.mem_cons_of_mem a ha')
    rw [List.flatMap_cons, total_append, h a List.mem_cons_self, hrest, List.map_cons,
      List.sum_cons, Int64.ofNat_add]

end Increment

namespace Ledger

theorem addAll_append (l : Ledger) (is js : List Increment) :
    l.addAll (is ++ js) = (l.addAll is).addAll js :=
  List.foldl_append

/-- **The order of increments does not matter.** -/
theorem addAll_perm (l : Ledger) {is js : List Increment} (h : is.Perm js) :
    l.addAll is = l.addAll js :=
  h.foldl_eq' (fun i _ j _ l => l.add_comm i j) l

/-- **A counter that exists grows by the total of its increments**, whether or not
    the other counters exist that are added to. -/
theorem value?_addAll_of_has {l : Ledger} {id : Nat} {path : String} (h : l.Has (.kept id path))
    (is : List Increment) :
    (l.addAll is).value? id path
      = (l.value? id path).map (· + Increment.total (.kept id path) is) := by
  induction is generalizing l with
  | nil =>
    simp only [Increment.total_nil, Int64.add_zero, Option.map_id']
    rfl
  | cons i is ih =>
    have hfirst : (l.add i).value? id path
        = (l.value? id path).map (· + if i.counter = .kept id path then i.amount else 0) := by
      by_cases hi : i.counter = .kept id path
      · exact value?_add (hi ▸ h) id path
      · simp only [value?_add_ne hi, if_neg hi, Int64.add_zero, Option.map_id']
    have hhas : (l.add i).Has (.kept id path) := by
      obtain ⟨v, hv⟩ := h
      exact ⟨_, by rw [hfirst, hv, Option.map_some]⟩
    show ((l.add i).addAll is).value? id path = _
    rw [ih hhas, hfirst, Option.map_map]
    congr 1
    funext v
    simp only [Function.comp_apply, Increment.total_cons, Int64.add_assoc]

/-- **Every counter grows by the total of its increments**, if there is one for
    each of them. -/
theorem value?_addAll {l : Ledger} {is : List Increment} (h : ∀ i ∈ is, l.Has i.counter)
    (id : Nat) (path : String) :
    (l.addAll is).value? id path
      = (l.value? id path).map (· + Increment.total (.kept id path) is) := by
  by_cases hhas : l.Has (.kept id path)
  · exact value?_addAll_of_has hhas is
  · -- A counter that does not exist is not added to.
    have hne : ∀ i ∈ is, i.counter ≠ .kept id path := by
      intro i hi heq
      exact hhas (heq ▸ h i hi)
    have hnone : l.value? id path = none := by
      rw [Option.eq_none_iff_forall_ne_some]
      intro v hv
      exact hhas ⟨v, hv⟩
    rw [value?_addAll_ne hne, hnone]
    rfl

/-! ## Section 3: Counters that were registered -/

theorem table?_register (l : Ledger) (k : Counter) (id : Nat) :
    ((l.register k).table? id).isSome = (l.table? id).isSome := by
  cases k with
  | discarded => rfl
  | kept id' path =>
    rw [register, table?_modify]
    exact Option.isSome_map

/-- Registering makes a counter, at zero, unless it is there. -/
theorem value?_register {l : Ledger} {id : Nat} (h : (l.table? id).isSome) (k : Counter)
    (path : String) :
    (l.register k).value? id path
      = (l.value? id path).or (if k = .kept id path then some 0 else none) := by
  cases k with
  | discarded =>
    rw [if_neg nofun, Option.or_none]
    rfl
  | kept id' path' =>
    obtain ⟨t, ht⟩ := Option.isSome_iff_exists.mp h
    simp only [Counter.kept.injEq]
    unfold value?
    rw [register, table?_modify, ht]
    simp only [Option.map_some, Option.bind_some]
    by_cases hid : id' = id
    · rw [if_pos hid, CounterTable.register]
      cases hfind : t.find? path' with
      | some v =>
        -- It is there.
        by_cases hpath : path' = path
        · rw [← hpath, hfind, Option.some_or]
        · rw [if_neg fun hboth => hpath hboth.2, Option.or_none]
      | none =>
        simp only [Dictionary.find?_insert]
        by_cases hpath : path' = path
        · rw [if_pos hpath.symm, if_pos ⟨hid, hpath⟩, ← hpath, hfind, Option.none_or]
        · rw [if_neg fun heq => hpath heq.symm, if_neg fun hboth => hpath hboth.2, Option.or_none]
    · rw [if_neg hid, if_neg fun hboth => hid hboth.1, Option.or_none]

/-- **The counters after registering** are those from before, and those that
    were registered. -/
theorem value?_registerAll {l : Ledger} {id : Nat} (h : (l.table? id).isSome)
    (ks : List Counter) (path : String) :
    (l.registerAll ks).value? id path
      = (l.value? id path).or (if .kept id path ∈ ks then some 0 else none) := by
  induction ks generalizing l with
  | nil => exact Option.or_none.symm
  | cons k ks ih =>
    have htable : ((l.register k).table? id).isSome := by
      rw [table?_register]
      exact h
    show ((l.register k).registerAll ks).value? id path = _
    rw [ih htable, value?_register h, Option.or_assoc]
    congr 1
    by_cases hk : k = .kept id path
    · have hmem : Counter.kept id path ∈ k :: ks := List.mem_cons.mpr (Or.inl hk.symm)
      rw [if_pos hk, if_pos hmem, Option.some_or]
    · have hmem : Counter.kept id path ∈ k :: ks ↔ Counter.kept id path ∈ ks := by
        rw [List.mem_cons, or_iff_right fun heq => hk heq.symm]
      simp only [if_neg hk, hmem, Option.none_or]

/-- What was registered exists, if there is a table for it. -/
theorem has_registerAll {l : Ledger} {ks : List Counter} {k : Counter} (hk : k ∈ ks)
    (htable : ∀ id path, k = .kept id path → (l.table? id).isSome) : (l.registerAll ks).Has k := by
  cases k with
  | discarded => trivial
  | kept id path =>
    rw [Has, value?_registerAll (htable id path rfl), if_pos hk]
    cases l.value? id path with
    | some v => exact ⟨v, rfl⟩
    | none => exact ⟨0, rfl⟩

theorem hasAll_registerAll {l : Ledger} {ks ks' : List Counter}
    (htable : ∀ id path, Counter.kept id path ∈ ks → (l.table? id).isSome)
    (h : ∀ k ∈ ks', k ∈ ks) : (l.registerAll ks).HasAll ks' := by
  intro k hk
  apply has_registerAll (h k hk)
  rintro id path rfl
  exact htable id path (h _ hk)

end Ledger

end BatchFilter
