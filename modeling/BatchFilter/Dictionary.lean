/-! # Dictionaries

    Values under names, kept in the order of the names (by code point, which
    is also the order of their UTF-8 bytes).  A name has one value; putting
    another one replaces it.  The order is part of the type, so two
    dictionaries with the same values are the same. -/

namespace BatchFilter

/-! ## Section 1: Sorted entries -/

/-- Put a value into sorted entries, replacing the one under the same name. -/
def insertEntry {α : Type} (key : String) (value : α) :
    List (String × α) → List (String × α)
  | [] => [(key, value)]
  | (k, v) :: rest =>
      if key < k then (key, value) :: (k, v) :: rest
      else if key = k then (key, value) :: rest
      else (k, v) :: insertEntry key value rest

theorem mem_insertEntry {α : Type} {key : String} {value : α} {e : String × α}
    {es : List (String × α)} (h : e ∈ insertEntry key value es) :
    e = (key, value) ∨ e ∈ es := by
  induction es with
  | nil => simp_all [insertEntry]
  | cons hd tl ih =>
    obtain ⟨k, v⟩ := hd
    rw [insertEntry] at h
    split at h
    · simp_all
    · split at h
      · simp only [List.mem_cons] at h ⊢
        rcases h with h | h
        · exact Or.inl h
        · exact Or.inr (Or.inr h)
      · simp only [List.mem_cons] at h ⊢
        rcases h with h | h
        · exact Or.inr (Or.inl h)
        · rcases ih h with h | h
          · exact Or.inl h
          · exact Or.inr (Or.inr h)

theorem insertEntry_pairwise {α : Type} (key : String) (value : α)
    {es : List (String × α)} (h : es.Pairwise (fun a b => a.1 < b.1)) :
    (insertEntry key value es).Pairwise (fun a b => a.1 < b.1) := by
  induction es with
  | nil => simp [insertEntry]
  | cons hd tl ih =>
    obtain ⟨k, v⟩ := hd
    rw [List.pairwise_cons] at h
    rw [insertEntry]
    split
    · rename_i hlt
      refine List.pairwise_cons.mpr ⟨fun e he => ?_, List.pairwise_cons.mpr h⟩
      rcases List.mem_cons.mp he with rfl | he
      · exact hlt
      · exact String.lt_trans hlt (h.1 e he)
    · rename_i hnlt
      split
      · rename_i heq
        subst heq
        exact List.pairwise_cons.mpr h
      · rename_i hne
        refine List.pairwise_cons.mpr ⟨fun e he => ?_, ih h.2⟩
        rcases mem_insertEntry he with rfl | he
        · rcases Std.lt_trichotomy key k with h' | h' | h'
          · exact absurd h' hnlt
          · exact absurd h' hne
          · exact h'
        · exact h.1 e he

/-! ## Section 2: The type -/

/-- Values under names, in the order of the names. -/
structure Dictionary (α : Type) where
  entries : List (String × α)
  ordered : entries.Pairwise (fun a b => a.1 < b.1)

namespace Dictionary

variable {α β : Type}

instance [DecidableEq α] : DecidableEq (Dictionary α) := fun a b =>
  if h : a.entries = b.entries then
    isTrue (by cases a; cases b; simp_all)
  else isFalse (fun he => h (he ▸ rfl))

/-- The dictionary without names. -/
def empty : Dictionary α := ⟨[], List.Pairwise.nil⟩

instance : EmptyCollection (Dictionary α) := ⟨empty⟩

instance : Inhabited (Dictionary α) := ⟨empty⟩

/-- Put a value under a name. -/
def insert (d : Dictionary α) (key : String) (value : α) : Dictionary α :=
  ⟨insertEntry key value d.entries, insertEntry_pairwise key value d.ordered⟩

/-- The value under a name. -/
def find? (d : Dictionary α) (key : String) : Option α :=
  d.entries.lookup key

/-- Is there a value under the name? -/
def contains (d : Dictionary α) (key : String) : Bool :=
  (d.find? key).isSome

/-- The names, in order. -/
def keys (d : Dictionary α) : List String :=
  d.entries.map Prod.fst

/-- How many names there are. -/
def size (d : Dictionary α) : Nat :=
  d.entries.length

/-- Are there no names? -/
def isEmpty (d : Dictionary α) : Bool :=
  d.entries.isEmpty

theorem mem_keys_of_find? {d : Dictionary α} {key : String} {a : α}
    (h : d.find? key = some a) : key ∈ d.keys := by
  obtain ⟨es, hes⟩ := d
  simp only [find?, keys] at *
  clear hes
  induction es with
  | nil => simp at h
  | cons hd tl ih =>
    obtain ⟨k, v⟩ := hd
    rw [List.lookup_cons] at h
    by_cases hk : key = k
    · simp [hk]
    · have hb : (key == k) = false := by simp [hk]
      rw [hb] at h
      exact List.mem_cons_of_mem _ (ih h)

/-- Apply a function to every value. -/
def map (f : α → β) (d : Dictionary α) : Dictionary β :=
  ⟨d.entries.map fun e => (e.1, f e.2), by
    rw [List.pairwise_map]
    exact d.ordered⟩

/-- The dictionary of a list of entries, a later one of a name winning. -/
def ofList (es : List (String × α)) : Dictionary α :=
  es.foldl (fun d e => d.insert e.1 e.2) empty

end Dictionary

end BatchFilter
