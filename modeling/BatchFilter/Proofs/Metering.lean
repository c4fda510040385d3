import BatchFilter.Metering
import BatchFilter.Proofs.Encoding
import BatchFilter.Proofs.Sums
import Mathlib.Algebra.Ring.Int.Defs

/-! # What Was Added Through Handles

    A counter outlives the request that led to it, and several registries may
    lead to the same one.  Still a history of requests and additions tells every
    sum: a path of a table exists if somebody asked for it, under whatever
    namespaces, and comes to what was added through all handles that lead there,
    reduced to 64 bits.

    * `Registry.fullPath`: the path that a registry makes of another.
    * `Metering.resolutions`, `Metering.amounts`: what a history says was asked
      for, and what it says was added to a path.
    * `Metering.Accounts`: the tables hold what the history says, and
      `Metering.step_accounts`: every event keeps it so.
    * `Metering.values_are_sums`: so it is after any history. -/

namespace BatchFilter

/-! ## Section 1: Full paths -/

namespace Registry

/-- The namespaces of a registry, the one nearest the table first. -/
def namespaces : Registry → List String
  | .table _ => []
  | .discard => []
  | .within ns inner => inner.namespaces ++ [ns]

/-- What a path is called in the table: the namespaces and the path, with dots
    in between. -/
def fullPath (r : Registry) (path : String) : String :=
  ".".intercalate (r.namespaces ++ [path])

/-- Does asking for a path lead to the path `full` of the table `id`? -/
def Reaches (r : Registry) (path : String) (id : Nat) (full : String) : Prop :=
  r.root? = some id ∧ r.fullPath path = full

instance (r : Registry) (path : String) (id : Nat) (full : String) :
    Decidable (r.Reaches path id full) :=
  inferInstanceAs (Decidable (_ ∧ _))

/-- The last two texts may as well be one with a dot in it. -/
theorem intercalate_dot (xs : List String) (a b : String) :
    ".".intercalate (xs ++ [a ++ "." ++ b]) = ".".intercalate (xs ++ [a, b]) := by
  by_cases hxs : xs = []
  · simp [hxs, String.intercalate_cons_cons]
  · rw [String.intercalate_append_of_ne_nil hxs (by simp),
      String.intercalate_append_of_ne_nil hxs (by simp)]
    simp [String.intercalate_cons_cons]

theorem fullPath_within (ns : String) (inner : Registry) (path : String) :
    (within ns inner).fullPath path = inner.fullPath (ns ++ "." ++ path) := by
  unfold fullPath
  rw [intercalate_dot, namespaces, List.append_assoc]
  rfl

/-- A registry leads to the full path in its table. -/
theorem counter_table {r : Registry} {id : Nat} (h : r.root? = some id) (path : String) :
    r.counter path = .kept id (r.fullPath path) := by
  induction r generalizing path with
  | table id' =>
    obtain rfl : id' = id := Option.some.inj h
    simp [counter, fullPath, namespaces]
  | discard => cases h
  | within ns inner ih =>
    rw [counter, ih h, fullPath_within]

/-- A registry that leads to no table leads nowhere. -/
theorem counter_nowhere {r : Registry} (h : r.root? = none) (path : String) :
    r.counter path = .discarded := by
  induction r generalizing path with
  | table id => cases h
  | discard => rfl
  | within ns inner ih => exact ih h (ns ++ "." ++ path)

/-- Two requests lead to the same counter if their full paths are the same. -/
theorem counter_eq_kept_iff (r : Registry) (path : String) (id : Nat) (full : String) :
    r.counter path = .kept id full ↔ r.Reaches path id full := by
  unfold Reaches
  cases hroot : r.root? with
  | none => simp [counter_nowhere hroot path]
  | some id' => simp [counter_table hroot path]

end Registry

/-! ## Section 2: What a history says -/

namespace Metering

/-- The requests for counters among events; as many handles were given out. -/
def resolutions (es : List Event) : List (Registry × String) :=
  es.filterMap fun
    | .resolve r path => some (r, path)
    | _ => none

/-- What was added to a path of a table, where handles stand for the requests
    `handles`. -/
def amounts (handles : List (Registry × String)) (id : Nat) (full : String)
    (es : List Event) : List Int64 :=
  es.filterMap fun
    | .add i amount => handles[i]?.bind fun e =>
        if e.1.Reaches e.2 id full then some amount else none
    | _ => none

theorem amounts_append (handles : List (Registry × String)) (id : Nat) (full : String)
    (es es' : List Event) :
    amounts handles id full (es ++ es')
      = amounts handles id full es ++ amounts handles id full es' :=
  List.filterMap_append

/-- Handles that were given out later do not matter. -/
theorem amounts_later {handles : List (Registry × String)} {id : Nat} {full : String}
    {es : List Event} (h : ∀ i amount, Event.add i amount ∈ es → i < handles.length)
    (later : List (Registry × String)) :
    amounts (handles ++ later) id full es = amounts handles id full es := by
  apply List.filterMap_congr
  intro e he
  cases e with
  | create => rfl
  | resolve r path => rfl
  | add i amount =>
    show (handles ++ later)[i]?.bind _ = handles[i]?.bind _
    rw [List.getElem?_append_left (h i amount he)]

/-- Nothing was added to a path that nobody asked for. -/
theorem amounts_unreached {handles : List (Registry × String)} {id : Nat} {full : String}
    (h : ∀ e ∈ handles, ¬e.1.Reaches e.2 id full) (es : List Event) :
    amounts handles id full es = [] := by
  apply List.filterMap_eq_nil_iff.mpr
  intro e _
  cases e with
  | create => rfl
  | resolve r path => rfl
  | add i amount =>
    show handles[i]?.bind _ = none
    cases hi : handles[i]? with
    | none => rfl
    | some e =>
      show (if e.1.Reaches e.2 id full then some amount else none) = none
      rw [if_neg (h e (List.mem_of_getElem? hi))]

end Metering

/-! ## Section 3: The tables hold what the history says -/

namespace Ledger

theorem table?_addTable (l : Ledger) (id : Nat) :
    l.addTable.table? id = if id = l.tables.length then some ∅ else l.table? id := by
  show (l.tables ++ [∅])[id]? = _
  split
  · rename_i heq
    simp [heq]
  · rename_i hne
    by_cases hlt : id < l.tables.length
    · exact List.getElem?_append_left hlt
    · have hlength : (l.tables ++ [∅]).length ≤ id := by
        simp
        omega
      have hmissing : l.tables.length ≤ id := by omega
      rw [List.getElem?_eq_none hlength, table?, List.getElem?_eq_none hmissing]

/-- A new table has no paths, so there is a sum just where there was one. -/
theorem value?_addTable (l : Ledger) (id : Nat) (path : String) :
    l.addTable.value? id path = l.value? id path := by
  unfold value?
  rw [table?_addTable]
  split
  · rename_i heq
    have hmissing : l.table? id = none := by
      simp [table?, heq]
    rw [hmissing]
    rfl
  · rfl

theorem isSome_addTable {l : Ledger} {id : Nat} (h : (l.table? id).isSome) :
    (l.addTable.table? id).isSome := by
  rw [table?_addTable]
  split
  · rfl
  · exact h

theorem value?_unrooted {l : Ledger} {id : Nat} (h : ¬(l.table? id).isSome) (path : String) :
    l.value? id path = none := by
  unfold value?
  rw [Option.not_isSome_iff_eq_none.mp h]
  rfl

/-- What is added to a counter changes the table of this counter only. -/
theorem table?_add {l : Ledger} {i : Increment} {id : Nat}
    (h : ∀ path, i.counter ≠ .kept id path) : (l.add i).table? id = l.table? id := by
  obtain ⟨k, n⟩ := i
  cases k with
  | discarded => rfl
  | kept id' path =>
    have hid : id' ≠ id := fun heq => h path (by rw [heq])
    rw [add, table?_modify]
    simp [hid]

theorem isSome_add {l : Ledger} (i : Increment) (id : Nat) :
    ((l.add i).table? id).isSome = (l.table? id).isSome := by
  obtain ⟨k, n⟩ := i
  cases k with
  | discarded => rfl
  | kept id' path =>
    rw [add, table?_modify]
    simp

end Ledger

namespace Metering

/-- What the tables hold is what the events say. -/
structure Accounts (es : List Event) (m : Metering) : Prop where
  /-- Handles are the counters that were asked for. -/
  handles : m.handles = (resolutions es).map fun e => e.1.counter e.2
  /-- Who was asked leads to a table that is there. -/
  rooted : ∀ e ∈ resolutions es, ∀ id, e.1.root? = some id → (m.ledger.table? id).isSome
  /-- Only handles were added to. -/
  held : ∀ i amount, Event.add i amount ∈ es → i < (resolutions es).length
  value : ∀ id path, m.ledger.value? id path
    = if ∃ e ∈ resolutions es, e.1.Reaches e.2 id path then
        some (amounts (resolutions es) id path es).sum
      else none

variable {es : List Event} {m m' : Metering}

theorem accounts_start : Accounts [] start := by
  refine ⟨rfl, ?_, ?_, ?_⟩ <;> simp [resolutions, start, Ledger.value?, Ledger.table?, Ledger.empty]

theorem accounts_create (h : Accounts es m) :
    Accounts (es ++ [.create]) { m with ledger := m.ledger.addTable } := by
  have hresolutions : resolutions (es ++ [.create]) = resolutions es := by
    simp [resolutions]
  have hamounts (id : Nat) (path : String) : amounts (resolutions es) id path (es ++ [.create])
      = amounts (resolutions es) id path es := by
    simp [amounts]
  refine ⟨?_, ?_, ?_, ?_⟩
  · rw [hresolutions]
    exact h.handles
  · rw [hresolutions]
    intro e he id hid
    exact Ledger.isSome_addTable (h.rooted e he id hid)
  · rw [hresolutions]
    intro i amount hi
    exact h.held i amount (by simpa using hi)
  · intro id path
    rw [hresolutions, hamounts, Ledger.value?_addTable]
    exact h.value id path

theorem accounts_resolve (h : Accounts es m) {r : Registry} {path : String}
    (hroot : ∀ id, r.root? = some id → (m.ledger.table? id).isSome) :
    Accounts (es ++ [.resolve r path])
      ⟨m.ledger.register (r.counter path), m.handles ++ [r.counter path]⟩ := by
  have hresolutions : resolutions (es ++ [.resolve r path]) = resolutions es ++ [(r, path)] := by
    simp [resolutions]
  have hrooted : ∀ e ∈ resolutions es ++ [(r, path)], ∀ id, e.1.root? = some id →
      (m.ledger.table? id).isSome := by
    intro e he id hid
    rcases List.mem_append.mp he with he | he
    · exact h.rooted e he id hid
    · obtain rfl := List.mem_singleton.mp he
      exact hroot id hid
  refine ⟨?_, ?_, ?_, ?_⟩
  · simp [hresolutions, h.handles]
  · rw [hresolutions]
    intro e he id hid
    rw [Ledger.table?_register]
    exact hrooted e he id hid
  · rw [hresolutions]
    intro i amount hi
    have hold := h.held i amount (by simpa using hi)
    simp
    omega
  · intro id full
    -- Nothing has been added through the new handle.
    have hamounts : amounts (resolutions es ++ [(r, path)]) id full (es ++ [.resolve r path])
        = amounts (resolutions es) id full es := by
      rw [amounts_append, amounts_later h.held]
      simp [amounts]
    rw [hresolutions, hamounts]
    by_cases htable : (m.ledger.table? id).isSome
    · rw [Ledger.value?_register htable, h.value id full]
      simp only [Registry.counter_eq_kept_iff, List.mem_append, List.mem_singleton, or_and_right,
        exists_or, exists_eq_left]
      by_cases hold : ∃ e ∈ resolutions es, e.1.Reaches e.2 id full
      · simp [hold]
      · have hnothing : amounts (resolutions es) id full es = [] := by
          apply amounts_unreached
          intro e he hreach
          exact hold ⟨e, he, hreach⟩
        simp [hold, hnothing]
    · -- Nobody was asked who leads to a table that is not there.
      have hnobody : ¬∃ e ∈ resolutions es ++ [(r, path)], e.1.Reaches e.2 id full := by
        rintro ⟨e, he, hreach⟩
        exact htable (hrooted e he id hreach.1)
      rw [if_neg hnobody]
      apply Ledger.value?_unrooted
      rw [Ledger.table?_register]
      exact htable

/-- The counter of a handle exists. -/
theorem Accounts.has (h : Accounts es m) {i : Nat} {k : Counter} (hk : m.handles[i]? = some k) :
    m.ledger.Has k := by
  cases k with
  | discarded => trivial
  | kept id path =>
    rw [h.handles, List.getElem?_map, Option.map_eq_some_iff] at hk
    obtain ⟨e, he, hcounter⟩ := hk
    have hreach := (Registry.counter_eq_kept_iff _ _ _ _).mp hcounter
    refine ⟨(amounts (resolutions es) id path es).sum, ?_⟩
    rw [h.value, if_pos ⟨e, List.mem_of_getElem? he, hreach⟩]

theorem accounts_add (h : Accounts es m) {i : Nat} {k : Counter} {amount : Int64}
    (hk : m.handles[i]? = some k) :
    Accounts (es ++ [.add i amount]) { m with ledger := m.ledger.add ⟨k, amount⟩ } := by
  have hresolutions : resolutions (es ++ [.add i amount]) = resolutions es := by
    simp [resolutions]
  have hentry : ∃ e, (resolutions es)[i]? = some e ∧ e.1.counter e.2 = k := by
    rw [h.handles, List.getElem?_map, Option.map_eq_some_iff] at hk
    exact hk
  obtain ⟨e, he, hcounter⟩ := hentry
  refine ⟨?_, ?_, ?_, ?_⟩
  · rw [hresolutions]
    exact h.handles
  · rw [hresolutions]
    intro e he id hid
    rw [Ledger.isSome_add]
    exact h.rooted e he id hid
  · rw [hresolutions]
    intro i' amount' hi
    rcases List.mem_append.mp hi with hi | hi
    · exact h.held i' amount' hi
    · obtain ⟨rfl, rfl⟩ := Event.add.inj (List.mem_singleton.mp hi)
      exact (List.getElem?_eq_some_iff.mp he).1
  · intro id path
    have hamounts : amounts (resolutions es) id path (es ++ [.add i amount])
        = amounts (resolutions es) id path es
          ++ if e.1.Reaches e.2 id path then [amount] else [] := by
      rw [amounts_append]
      congr 1
      show List.filterMap _ [Event.add i amount] = _
      split <;> simp_all
    rw [hresolutions, hamounts, Ledger.value?_add (h.has hk), h.value id path]
    show Option.map (· + if k = .kept id path then amount else 0) _ = _
    rw [← hcounter]
    simp only [Registry.counter_eq_kept_iff]
    by_cases hasked : ∃ e ∈ resolutions es, e.1.Reaches e.2 id path
    · rw [if_pos hasked, if_pos hasked, Option.map_some, List.sum_append]
      split <;> simp
    · rw [if_neg hasked, if_neg hasked, Option.map_none]

/-- **Every event keeps the accounts.** -/
theorem step_accounts {e : Event} (h : Accounts es m) (hstep : Step m e m') :
    Accounts (es ++ [e]) m' := by
  cases hstep with
  | create => exact accounts_create h
  | resolve hroot => exact accounts_resolve h hroot
  | add hk => exact accounts_add h hk

/-- So they are right after any history. -/
theorem after_accounts (h : After es m) : Accounts es m := by
  induction h with
  | start => exact accounts_start
  | step _ hstep ih => exact step_accounts ih hstep

/-! ## Section 4: Sums of 64 bits -/

/-- A sum of 64-bit integers is the sum of the integers, reduced to 64 bits. -/
theorem toInt_sum (ns : List Int64) : ns.sum.toInt = (ns.map Int64.toInt).sum.bmod (2 ^ 64) := by
  induction ns with
  | nil => rfl
  | cons n ns ih =>
    rw [List.sum_cons, Int64.toInt_add, ih, Int.add_bmod_bmod, List.map_cons, List.sum_cons]

/-! ## Section 5: Any history -/

/-- The paths of a table come in the order of their bytes. -/
theorem snapshot_ordered (l : Ledger) (id : Nat) :
    ((l.snapshot id).map fun e => Utf8.ofString e.1).Pairwise (· < ·) := by
  rw [List.pairwise_map]
  unfold Ledger.snapshot
  cases l.table? id with
  | none => exact List.Pairwise.nil
  | some t =>
    apply t.ordered.imp
    intro e e' hlt
    exact Utf8.encode_lt (String.lt_iff.mp hlt)

theorem mem_snapshot (l : Ledger) (id : Nat) (path : String) (v : Int64) :
    (path, v) ∈ l.snapshot id ↔ l.value? id path = some v := by
  unfold Ledger.snapshot Ledger.value?
  cases l.table? id with
  | none => simp
  | some t => exact ⟨Dictionary.find?_of_mem, Dictionary.mem_of_find?⟩

/-- **Sums are what was added through handles.**  After any history a path of a
    table has no sum exactly if nobody asked for it.  Else its sum is that of all
    amounts that were added through handles which lead there, as a 64-bit
    integer.  A snapshot has just these paths with their sums, each once, in the
    order of their bytes; and what is added through a handle that leads to
    another table or nowhere leaves a table as it was. -/
theorem values_are_sums {es : List Event} {m : Metering} (h : After es m) :
    (∀ id path,
      (m.ledger.value? id path = none ↔ ∀ e ∈ resolutions es, ¬e.1.Reaches e.2 id path) ∧
      ∀ v, m.ledger.value? id path = some v →
        v.toInt = ((amounts (resolutions es) id path es).map Int64.toInt).sum.bmod (2 ^ 64)) ∧
    (∀ id, ((m.ledger.snapshot id).map fun e => Utf8.ofString e.1).Pairwise (· < ·) ∧
      ∀ path v, (path, v) ∈ m.ledger.snapshot id ↔ m.ledger.value? id path = some v) ∧
    (∀ i amount m', Step m (.add i amount) m' →
      ∀ id, (∀ e, (resolutions es)[i]? = some e → e.1.root? ≠ some id) →
        m'.ledger.table? id = m.ledger.table? id) := by
  have haccounts := after_accounts h
  refine ⟨?_, ?_, ?_⟩
  · intro id path
    rw [haccounts.value id path]
    by_cases hasked : ∃ e ∈ resolutions es, e.1.Reaches e.2 id path
    · rw [if_pos hasked]
      refine ⟨by simpa using hasked, ?_⟩
      intro v hv
      rw [← Option.some.inj hv]
      exact toInt_sum _
    · rw [if_neg hasked]
      refine ⟨by simpa using hasked, ?_⟩
      intro v hv
      cases hv
  · intro id
    exact ⟨snapshot_ordered m.ledger id, mem_snapshot m.ledger id⟩
  · intro i amount m' hstep id helsewhere
    cases hstep with
    | add hk =>
      apply Ledger.table?_add
      intro path hpath
      rw [haccounts.handles, List.getElem?_map, Option.map_eq_some_iff] at hk
      obtain ⟨e, he, hcounter⟩ := hk
      have hreach := (Registry.counter_eq_kept_iff _ _ _ _).mp (hcounter.trans hpath)
      exact helsewhere e he hreach.1

/-- Two handles of one counter, got under different namespaces.  What is added
    through both wraps around, and what is discarded is not counted. -/
def shared : List Event :=
  [.create, .create, .resolve (.within "b" (.within "a" (.table 1))) "c",
    .resolve (.table 1) "a.b.c", .resolve (.within "a" .discard) "b.c",
    .add 0 Int64.maxValue, .add 2 5, .add 1 1]

theorem values_are_sums_shared :
    ∃ m, After shared m ∧ m.ledger.value? 1 "a.b.c" = some Int64.minValue ∧
      m.ledger.value? 0 "a.b.c" = none ∧ m.ledger.value? 1 "c" = none := by
  have hafter : ∃ m, After shared m :=
    ⟨_, .step (.step (.step (.step (.step (.step (.step (.step .start .create) .create)
      (.resolve (by decide))) (.resolve (by decide))) (.resolve (by decide)))
      (.add rfl)) (.add rfl)) (.add rfl)⟩
  obtain ⟨m, hm⟩ := hafter
  obtain ⟨hvalues, _, _⟩ := values_are_sums hm
  have hasked : ¬∀ e ∈ resolutions shared, ¬e.1.Reaches e.2 1 "a.b.c" := by decide
  have hsum : ((amounts (resolutions shared) 1 "a.b.c" shared).map Int64.toInt).sum.bmod (2 ^ 64)
      = Int64.minValue.toInt := by
    decide
  refine ⟨m, hm, ?_, (hvalues 0 "a.b.c").1.mpr (by decide), (hvalues 1 "c").1.mpr (by decide)⟩
  cases hv : m.ledger.value? 1 "a.b.c" with
  | none => exact absurd ((hvalues 1 "a.b.c").1.mp hv) hasked
  | some v =>
    have hv' := ((hvalues 1 "a.b.c").2 v hv).trans hsum
    rw [Int64.toInt_inj.mp hv']

end Metering

end BatchFilter
