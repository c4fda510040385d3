import BatchFilter.Proofs.Ordering
import BatchFilter.Stage

/-! # What Was Built

    An attempt that succeeded tells how: every step of it succeeded.  For a
    condition this says what it was built from, node by node
    (`Clause.built_*`); its verdict is that of its children combined
    (`Condition.holds_*`).  For a pool it says that every declared name is in
    it (`Declarations.build_mem`), and what every step keeps
    (`Declarations.build_induct`). -/

namespace BatchFilter

/-! ## Section 1: Attempts that succeeded -/

namespace Attempt

variable {α β : Type}

theorem bind_ok {x : Attempt α} {f : α → Attempt β} {b : β} (h : (x.bind f).result = .ok b) :
    ∃ a, x.result = .ok a ∧ (f a).result = .ok b := by
  unfold Attempt.bind at h
  cases hx : x.result with
  | error e => rw [hx] at h; cases h
  | ok a => rw [hx] at h; exact ⟨a, rfl, h⟩

theorem mapError_ok {x : Attempt α} {f : Error → Error} {a : α}
    (h : (x.mapError f).result = .ok a) : x.result = .ok a := by
  unfold mapError at h
  cases hx : x.result with
  | error e => rw [hx] at h; cases h
  | ok a' => rw [hx] at h; exact h

theorem pure_ok {a b : α} (h : (pure a : Attempt α).result = .ok b) : b = a := by
  cases h
  rfl

end Attempt

/-! ## Section 2: Conditions that were built -/

namespace Clause

variable {pool : Pool} {r : Registry} {cond : Condition}

theorem built_static {value : Bool} (h : ((Clause.static value).build pool r).result = .ok cond) :
    cond = .leaf (.static value) (.ofKind r Kind.static.name) := by
  cases h
  rfl

theorem built_text {s : TextSection} (h : ((Clause.text s).build pool r).result = .ok cond) :
    ∃ test, s.test = .ok test ∧ cond = .leaf test (.ofKind r Kind.text.name) := by
  obtain ⟨test, htest, h⟩ := Attempt.bind_ok h
  cases h
  exact ⟨test, htest, rfl⟩

theorem built_metadata {s : MetadataSection}
    (h : ((Clause.metadata s).build pool r).result = .ok cond) :
    ∃ test, s.test = .ok test ∧ cond = .leaf test (.ofKind r Kind.metadata.name) := by
  obtain ⟨test, htest, h⟩ := Attempt.bind_ok h
  cases h
  exact ⟨test, htest, rfl⟩

theorem built_all {children : List Clause}
    (h : ((Clause.all children).build pool r).result = .ok cond) :
    ∃ cs, (buildAll pool r .all 0 children).result = .ok cs ∧ cond = .all cs := by
  rw [build] at h
  obtain ⟨_, _, h⟩ := Attempt.bind_ok h
  obtain ⟨cs, hcs, h⟩ := Attempt.bind_ok h
  exact ⟨cs, hcs, Attempt.pure_ok h⟩

theorem built_any {children : List Clause}
    (h : ((Clause.any children).build pool r).result = .ok cond) :
    ∃ cs, (buildAll pool r .any 0 children).result = .ok cs ∧ cond = .any cs := by
  rw [build] at h
  obtain ⟨_, _, h⟩ := Attempt.bind_ok h
  obtain ⟨cs, hcs, h⟩ := Attempt.bind_ok h
  exact ⟨cs, hcs, Attempt.pure_ok h⟩

/-- Children were built one by one. -/
theorem built_cons {kind : Kind} {i : Nat} {c : Clause} {rest : List Clause}
    {cs : List Condition} (h : (buildAll pool r kind i (c :: rest)).result = .ok cs) :
    ∃ first others, (c.build pool (r.child kind i)).result = .ok first ∧
      (buildAll pool r kind (i + 1) rest).result = .ok others ∧ cs = first :: others := by
  rw [buildAll] at h
  obtain ⟨first, hfirst, h⟩ := Attempt.bind_ok h
  obtain ⟨others, hothers, h⟩ := Attempt.bind_ok h
  exact ⟨first, others, hfirst, hothers, Attempt.pure_ok h⟩

theorem built_not {child : Option Clause}
    (h : ((Clause.not child).build pool r).result = .ok cond) :
    ∃ c built, child = some c ∧ (c.build pool (.within Kind.not.name r)).result = .ok built ∧
      cond = .not built := by
  rw [build] at h
  obtain ⟨built, hbuilt, hcond⟩ := Attempt.bind_ok h
  cases child with
  | none => rw [build?] at hbuilt; cases hbuilt
  | some c => exact ⟨c, built, rfl, by rwa [build?] at hbuilt, Attempt.pure_ok hcond⟩

/-- A reference got what its name had in the pool. -/
theorem built_resource {name : String}
    (h : ((Clause.resource name).build pool r).result = .ok cond) :
    ∃ target, pool.find? name = some target ∧ cond = .shared target := by
  rw [build] at h
  split at h
  · cases h
  obtain ⟨target, htarget, h⟩ := Attempt.bind_ok h
  refine ⟨target, ?_, Attempt.pure_ok h⟩
  unfold Attempt.ofExcept Pool.resolve at htarget
  cases hfind : pool.find? name with
  | none => simp only [hfind] at htarget; cases htarget
  | some c => simp only [hfind] at htarget; cases htarget; rfl

end Clause

theorem Kind.ofName?_eq {s : String} {k : Kind} (h : Kind.ofName? s = some k) : s = k.name := by
  unfold Kind.ofName? at h
  have hname := List.find?_some h
  exact (beq_iff_eq.mp hname).symm

/-- A condition was built from what its config says. -/
theorem Config.built {pool : Pool} {r : Registry} {c : Config} {cond : Condition}
    (h : (c.build pool r).result = .ok cond) : (c.clause.build pool r).result = .ok cond := by
  unfold Config.build at h
  split at h
  · cases h
  · exact h

/-- A stage was built from its condition, and its counters are those of the
    registry. -/
theorem Stage.built {pool : Pool} {r : Registry} {c : Config} {s : Stage}
    (h : (build pool r c).result = .ok s) :
    (c.build pool (.within ns r)).result = .ok s.condition ∧ s.tally = .ofRegistry r := by
  obtain ⟨cond, hcond, h⟩ := Attempt.bind_ok h
  obtain ⟨_, _, h⟩ := Attempt.bind_ok h
  obtain rfl := Attempt.pure_ok h
  exact ⟨Attempt.mapError_ok hcond, rfl⟩

/-! ## Section 3: Verdicts -/

namespace Condition

theorem checkAll_verdict (cs : List Condition) (s : SinglePart) :
    (checkAll cs s).verdict = cs.all (·.holds s) := by
  induction cs with
  | nil => rfl
  | cons c cs ih =>
    rw [checkAll, List.all_cons, ← ih, holds]
    cases h : (c.check s).verdict with
    | true => rfl
    | false => exact h

theorem checkAny_verdict (cs : List Condition) (s : SinglePart) :
    (checkAny cs s).verdict = cs.any (·.holds s) := by
  induction cs with
  | nil => rfl
  | cons c cs ih =>
    rw [checkAny, List.any_cons, ← ih, holds]
    cases h : (c.check s).verdict with
    | true => exact h
    | false => rfl

theorem holds_leaf (test : Test) (tally : Tally) (s : SinglePart) :
    (leaf test tally).holds s = test.holds s := by
  rw [holds, check]

theorem holds_all (cs : List Condition) (s : SinglePart) :
    (all cs).holds s = cs.all (·.holds s) := by
  rw [holds, check, checkAll_verdict]

theorem holds_any (cs : List Condition) (s : SinglePart) :
    (any cs).holds s = cs.any (·.holds s) := by
  rw [holds, check, checkAny_verdict]

theorem holds_not (c : Condition) (s : SinglePart) : (not c).holds s = !c.holds s := by
  rw [holds, check, holds]

theorem holds_shared (target : Condition) (s : SinglePart) :
    (shared target).holds s = target.holds s := by
  rw [holds, check, holds]

end Condition

/-! ## Section 4: Pools that were built -/

theorem Pool.find?_insert (pool : Pool) (name : String) (c : Condition) (n : String) :
    (pool.insert name c).find? n = if n = name then some c else pool.find? n :=
  Dictionary.find?_insert pool.conditions name c n

namespace Declarations

variable {d : Declarations} {r : Registry}

/-- The condition of a declared name was built with the pool and put in. -/
theorem added {pool pool' : Pool} {name : String}
    (h : (d.addNamed r pool name).result = .ok pool') :
    (d.conditions.find? name = none ∧ pool' = pool) ∨
      ∃ c built, d.conditions.find? name = some c ∧
        (c.build pool (r.named name)).result = .ok built ∧ pool' = pool.insert name built := by
  unfold addNamed at h
  cases hfind : d.conditions.find? name with
  | none =>
    simp only [hfind] at h
    exact Or.inl ⟨rfl, Attempt.pure_ok h⟩
  | some c =>
    simp only [hfind] at h
    obtain ⟨built, hbuilt, h⟩ := Attempt.bind_ok (Attempt.mapError_ok h)
    exact Or.inr ⟨c, built, rfl, hbuilt, Attempt.pure_ok h⟩

/-- What every step keeps holds in the end. -/
theorem addAll_induct {P : Pool → Prop}
    (step : ∀ {pool pool' name}, P pool → (d.addNamed r pool name).result = .ok pool' → P pool')
    {names : List String} {pool pool' : Pool} (hP : P pool)
    (h : (d.addAll r pool names).result = .ok pool') : P pool' := by
  induction names generalizing pool with
  | nil =>
    cases h
    exact hP
  | cons name names ih =>
    obtain ⟨pool₁, hpool₁, h⟩ := Attempt.bind_ok h
    exact ih (step hP hpool₁) h

/-- Names in a pool stay there, and a declared name that is added is there. -/
theorem added_grows {pool pool' : Pool} {name : String}
    (h : (d.addNamed r pool name).result = .ok pool') :
    (∀ n, (pool.find? n).isSome → (pool'.find? n).isSome) ∧
      (name ∈ d.conditions.keys → (pool'.find? name).isSome) := by
  rcases added h with ⟨hnone, rfl⟩ | ⟨c, built, _, _, rfl⟩
  · exact ⟨fun _ hn => hn, fun hkey => absurd hkey (Dictionary.find?_eq_none.mp hnone)⟩
  · refine ⟨?_, ?_⟩
    · intro n hn
      rw [Pool.find?_insert]
      split
      · rfl
      · exact hn
    · intro _
      rw [Pool.find?_insert, if_pos rfl]
      rfl

theorem addAll_mem {names : List String} {pool pool' : Pool}
    (h : (d.addAll r pool names).result = .ok pool') {name : String} (hname : name ∈ names)
    (hkey : name ∈ d.conditions.keys) : (pool'.find? name).isSome := by
  induction names generalizing pool with
  | nil => cases hname
  | cons first names ih =>
    obtain ⟨pool₁, hpool₁, hrest⟩ := Attempt.bind_ok h
    rcases List.mem_cons.mp hname with rfl | hname
    · -- It is in the pool at once, and the later steps keep it.
      exact addAll_induct (P := fun pool => (pool.find? name).isSome = true)
        (fun hP hadd => (added_grows hadd).1 name hP) ((added_grows hpool₁).2 hkey) hrest
    · exact ih hrest hname

/-- **Every declared name is in the pool** that was built. -/
theorem build_mem {pool : Pool} (h : (d.build r).result = .ok pool) {name : String}
    (hname : name ∈ d.conditions.keys) : ∃ c, pool.find? name = some c := by
  obtain ⟨names, hnames, h⟩ := Attempt.bind_ok h
  exact Option.isSome_iff_exists.mp (addAll_mem h (mem_order hnames hname) hname)

/-- What holds of no conditions and is kept by every step holds of the pool
    that was built. -/
theorem build_induct {P : Pool → Prop} (empty : P .empty)
    (step : ∀ {pool pool' name}, P pool → (d.addNamed r pool name).result = .ok pool' → P pool')
    {pool : Pool} (h : (d.build r).result = .ok pool) : P pool := by
  obtain ⟨names, _, h⟩ := Attempt.bind_ok h
  exact addAll_induct step empty h

end Declarations

/-! ## Section 5: What names stand for -/

section
variable {β : Type} {value : Condition → β} {meaning : (String → β) → Registry → Config → β}

/-- Names stand for what the conditions of a pool come to. -/
def Pool.Gives (pool : Pool) (value : Condition → β) (named : String → β) : Prop :=
  ∀ name c, pool.find? name = some c → value c = named name

/-- What a condition comes to is told by its config, by the registry and by
    what the names stand for that it was built with. -/
def Determines (value : Condition → β) (meaning : (String → β) → Registry → Config → β) : Prop :=
  ∀ ⦃pool : Pool⦄ ⦃named : String → β⦄, pool.Gives value named →
    ∀ ⦃r : Registry⦄ ⦃c : Config⦄ ⦃cond : Condition⦄, (c.build pool r).result = .ok cond →
      value cond = meaning named r c

/-- Names stand for what is declared under them. -/
def Declarations.Fits (d : Declarations) (r : Registry)
    (meaning : (String → β) → Registry → Config → β) (named : String → β) : Prop :=
  ∀ name c, d.conditions.find? name = some c → named name = meaning named (r.named name) c

theorem Pool.exists_gives [Nonempty β] (pool : Pool) (value : Condition → β) :
    ∃ named, pool.Gives value named := by
  refine ⟨fun name => ((pool.find? name).map value).getD Classical.ofNonempty, ?_⟩
  intro name c hfind
  simp only [hfind, Option.map_some, Option.getD_some]

namespace Declarations

variable {d : Declarations} {r : Registry}

/-- What fits the configs is what conditions come to once they are added. -/
theorem added_gives (hvalue : Determines value meaning) {named : String → β}
    (hfits : d.Fits r meaning named) {pool pool' : Pool} {name : String}
    (hpool : pool.Gives value named) (h : (d.addNamed r pool name).result = .ok pool') :
    pool'.Gives value named := by
  rcases added h with ⟨_, rfl⟩ | ⟨c, built, hc, hbuilt, rfl⟩
  · exact hpool
  intro n cond hfind
  rw [Pool.find?_insert] at hfind
  split at hfind
  · rename_i hn
    cases hfind
    rw [hn, hfits name c hc]
    exact hvalue hpool hbuilt
  · exact hpool n cond hfind

/-- Every condition of a pool comes to what the config of its name tells,
    whatever names stand for as long as that is right for the pool. -/
def Sound (d : Declarations) (r : Registry) (value : Condition → β)
    (meaning : (String → β) → Registry → Config → β) (pool : Pool) : Prop :=
  ∀ name c cond, d.conditions.find? name = some c → pool.find? name = some cond →
    ∀ named, pool.Gives value named → value cond = meaning named (r.named name) c

/-- Another condition leaves the others what they were: a name that is built
    once more comes to the same again. -/
theorem added_sound [Nonempty β] (hvalue : Determines value meaning) {pool pool' : Pool}
    {name : String} (hpool : d.Sound r value meaning pool)
    (h : (d.addNamed r pool name).result = .ok pool') : d.Sound r value meaning pool' := by
  rcases added h with ⟨_, rfl⟩ | ⟨c, built, hc, hbuilt, rfl⟩
  · exact hpool
  have hnew : ∀ named, pool.Gives value named → value built = meaning named (r.named name) c :=
    fun named hnamed => hvalue hnamed hbuilt
  intro n config cond hconfig hcond named hnamed
  -- What is right for the pool now was right before: under the new name the
  -- old condition, if there was one, came to the same.
  have hold : pool.Gives value named := by
    intro m old hold
    by_cases hm : m = name
    · have hsame : value built = named name :=
        hnamed name built (by rw [Pool.find?_insert, if_pos rfl])
      obtain ⟨before, hbefore⟩ := pool.exists_gives value
      rw [hm] at hold ⊢
      rw [← hsame, hnew before hbefore]
      exact hpool name c old hc hold before hbefore
    · exact hnamed m old (by rw [Pool.find?_insert, if_neg hm, hold])
  rw [Pool.find?_insert] at hcond
  split at hcond
  · rename_i hn
    cases hcond
    rw [hn, hc] at hconfig
    cases hconfig
    rw [hn]
    exact hnew named hold
  · exact hpool n config cond hconfig hcond named hold

/-- **What the pool that was built comes to fits the configs** of all declared
    names. -/
theorem gives_fits [Nonempty β] (hvalue : Determines value meaning) {pool : Pool}
    (h : (d.build r).result = .ok pool) {named : String → β} (hnamed : pool.Gives value named) :
    d.Fits r meaning named := by
  intro name c hc
  obtain ⟨cond, hcond⟩ := build_mem h (Dictionary.mem_keys_of_find? hc)
  have hsound : d.Sound r value meaning pool := build_induct (P := d.Sound r value meaning)
    (fun _ _ _ _ hfind => nomatch hfind) (added_sound hvalue) h
  rw [← hnamed name cond hcond]
  exact hsound name c cond hc hcond named hnamed

/-- **What fits the configs is what the pool that was built comes to**, so
    nothing else does. -/
theorem fits_gives (hvalue : Determines value meaning) {pool : Pool}
    (h : (d.build r).result = .ok pool) {named : String → β} (hfits : d.Fits r meaning named) :
    pool.Gives value named :=
  build_induct (P := fun pool => pool.Gives value named) (fun _ _ hfind => nomatch hfind)
    (added_gives hvalue hfits) h

end Declarations

end

end BatchFilter
