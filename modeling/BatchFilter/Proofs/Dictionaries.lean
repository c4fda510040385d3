import BatchFilter.Dictionary

/-! # Dictionaries by Name

    What is found in a dictionary after something was put in, and the
    dictionary that entries in order make. -/

namespace BatchFilter

namespace Dictionary

variable {α β : Type}

/-! ## Section 1: What is found -/

theorem lookup_cons (k : String) (v : α) (es : List (String × α)) (name : String) :
    ((k, v) :: es).lookup name = if name = k then some v else es.lookup name := by
  rw [List.lookup_cons]
  by_cases h : name = k
  · rw [if_pos h, beq_iff_eq.mpr h]
  · rw [if_neg h, beq_eq_false_iff_ne.mpr h]

theorem lookup_insertEntry (key : String) (value : α) (es : List (String × α)) (name : String) :
    (insertEntry key value es).lookup name
      = if name = key then some value else es.lookup name := by
  induction es with
  | nil => exact lookup_cons key value [] name
  | cons e es ih =>
    obtain ⟨k, v⟩ := e
    rw [insertEntry]
    split
    · exact lookup_cons key value _ name
    · split
      · rename_i heq
        rw [lookup_cons, lookup_cons, heq]
        split <;> rfl
      · rename_i hne
        rw [lookup_cons, lookup_cons, ih]
        by_cases h : name = key
        · rw [if_pos h, if_pos h, if_neg (h ▸ hne)]
        · rw [if_neg h, if_neg h]

/-- Putting a value in changes what is found under its name only. -/
theorem find?_insert (d : Dictionary α) (key : String) (value : α) (name : String) :
    (d.insert key value).find? name = if name = key then some value else d.find? name :=
  lookup_insertEntry key value d.entries name

theorem keys_map (f : α → β) (d : Dictionary α) : (d.map f).keys = d.keys :=
  List.map_map

theorem find?_map (f : α → β) (d : Dictionary α) (name : String) :
    (d.map f).find? name = (d.find? name).map f := by
  obtain ⟨es, hes⟩ := d
  simp only [map, find?]
  clear hes
  induction es with
  | nil => rfl
  | cons e es ih =>
    rw [List.map_cons, lookup_cons, lookup_cons, ih]
    split <;> rfl

theorem map_map {γ : Type} (f : α → β) (g : β → γ) (d : Dictionary α) :
    (d.map f).map g = d.map (g ∘ f) := by
  simp only [map, List.map_map]
  rfl

/-- There is a value under every name. -/
theorem find?_of_mem_keys {d : Dictionary α} {name : String} (h : name ∈ d.keys) :
    ∃ a, d.find? name = some a := by
  obtain ⟨es, hes⟩ := d
  simp only [keys, find?] at h ⊢
  clear hes
  induction es with
  | nil => cases h
  | cons e es ih =>
    by_cases hname : name = e.1
    · exact ⟨e.2, by rw [lookup_cons, if_pos hname]⟩
    · rw [List.map_cons, List.mem_cons] at h
      obtain ⟨a, ha⟩ := ih (h.resolve_left hname)
      exact ⟨a, by rw [lookup_cons, if_neg hname, ha]⟩

/-- Nothing is found under any other name. -/
theorem find?_eq_none {d : Dictionary α} {name : String} :
    d.find? name = none ↔ name ∉ d.keys := by
  constructor
  · intro hnone hkey
    obtain ⟨a, ha⟩ := find?_of_mem_keys hkey
    rw [hnone] at ha
    cases ha
  · intro hkey
    cases hfind : d.find? name with
    | none => rfl
    | some a => exact absurd (mem_keys_of_find? hfind) hkey

/-- Every entry is found under its name. -/
theorem find?_of_mem {d : Dictionary α} {e : String × α} (h : e ∈ d.entries) :
    d.find? e.1 = some e.2 := by
  obtain ⟨es, hes⟩ := d
  simp only [find?] at h ⊢
  induction es with
  | nil => cases h
  | cons first es ih =>
    obtain ⟨hfirst, hes⟩ := List.pairwise_cons.mp hes
    rcases List.mem_cons.mp h with rfl | h
    · rw [lookup_cons, if_pos rfl]
    · -- The first name comes before this one, so it is another one.
      have hne : e.1 ≠ first.1 := fun heq => String.lt_irrefl e.1 (heq ▸ hfirst e h)
      rw [lookup_cons, if_neg hne]
      exact ih hes h

theorem mem_of_find? {d : Dictionary α} {name : String} {a : α} (h : d.find? name = some a) :
    (name, a) ∈ d.entries := by
  obtain ⟨before, after, hentries, _⟩ := List.lookup_eq_some_iff.mp h
  rw [hentries]
  exact List.mem_append_right before List.mem_cons_self

/-- What is in the order of its names is told by what there is. -/
theorem eq_of_ordered (name : β → String) {bs bs' : List β}
    (h : bs.Pairwise fun b b' => name b < name b')
    (h' : bs'.Pairwise fun b b' => name b < name b') (hmem : ∀ b, b ∈ bs ↔ b ∈ bs') :
    bs = bs' := by
  have hnodup : ∀ {bs : List β}, (bs.Pairwise fun b b' => name b < name b') → bs.Nodup := by
    intro bs h
    apply h.imp
    rintro b b' hlt rfl
    exact String.lt_irrefl (name b) hlt
  have hperm : bs.Perm bs' := (List.perm_ext_iff_of_nodup (hnodup h) (hnodup h')).mpr hmem
  refine List.Perm.eq_of_pairwise ?_ h h' hperm
  intro b b' _ _ hlt hlt'
  exact absurd hlt' (String.lt_asymm hlt)

/-- A dictionary is told by what is found in it. -/
theorem ext_find? {d d' : Dictionary α} (h : ∀ name, d.find? name = d'.find? name) : d = d' := by
  have hentries : d.entries = d'.entries := by
    apply eq_of_ordered Prod.fst d.ordered d'.ordered
    intro e
    constructor
    · intro he
      exact mem_of_find? ((h e.1).symm.trans (find?_of_mem he))
    · intro he
      exact mem_of_find? ((h e.1).trans (find?_of_mem he))
  cases d
  cases d'
  cases hentries
  rfl

/-! ## Section 2: Entries in order -/

theorem insertEntry_last {key : String} {value : α} {es : List (String × α)}
    (h : ∀ e ∈ es, e.1 < key) : insertEntry key value es = es ++ [(key, value)] := by
  induction es with
  | nil => rfl
  | cons e es ih =>
    have hlt : e.1 < key := h e List.mem_cons_self
    have hnot : ¬key < e.1 := String.lt_asymm hlt
    have hne : key ≠ e.1 := fun heq => String.lt_irrefl key (heq ▸ hlt)
    rw [insertEntry, if_neg hnot, if_neg hne, ih fun e' he' => h e' (List.mem_cons_of_mem e he')]
    rfl

/-- Entries in order are put in one behind another. -/
theorem foldl_insert (d : Dictionary α) (es : List (String × α))
    (h : (d.entries ++ es).Pairwise fun a b => a.1 < b.1) :
    (es.foldl (fun d e => d.insert e.1 e.2) d).entries = d.entries ++ es := by
  induction es generalizing d with
  | nil => exact (List.append_nil _).symm
  | cons e es ih =>
    have hlast : (d.insert e.1 e.2).entries = d.entries ++ [e] :=
      insertEntry_last fun e' he' => (List.pairwise_append.mp h).2.2 e' he' e List.mem_cons_self
    rw [List.foldl_cons, ih (d.insert e.1 e.2) (by rwa [hlast, List.append_assoc]), hlast,
      List.append_assoc]
    rfl

/-- A dictionary is made of its entries. -/
theorem ofList_entries (d : Dictionary α) : ofList d.entries = d := by
  have hentries := foldl_insert empty d.entries d.ordered
  obtain ⟨es, hes⟩ := d
  unfold ofList
  generalize es.foldl _ empty = d' at hentries ⊢
  obtain ⟨es', hes'⟩ := d'
  obtain rfl : es' = es := hentries
  rfl

end Dictionary

end BatchFilter
