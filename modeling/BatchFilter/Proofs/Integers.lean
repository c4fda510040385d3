import BatchFilter.Proofs.Casing
import Mathlib.Data.List.TakeWhile
import Mathlib.Data.Nat.Digits.Defs

/-! # Integers in Metadata

    A text denotes an integer by an optional sign and decimal digits, with
    white space around them or not.  However many digits there are, it is read
    as the 64-bit integer it denotes, and is refused if that is out of range:
    nothing wraps around and nothing is cut off at the limits.

    * `Integer.Denotes`, `Integer.Spells`: which integer a text denotes.
    * `Integer.ofString?_eq_some`: texts are read as what they denote.
    * `Config.integers_are_compared`: conditions that compare integers. -/

namespace BatchFilter

namespace Integer

/-! ## Section 1: What texts denote -/

/-- One ASCII digit or more. -/
def AreDigits (ds : List Char) : Prop :=
  ds ≠ [] ∧ ∀ d ∈ ds, d.isDigit = true

/-- The number that decimal digits denote by their places. -/
def placeValue (ds : List Char) : Nat :=
  Nat.ofDigits 10 (ds.reverse.map fun d => d.toNat - '0'.toNat)

/-- A sign or none and digits denote an integer. -/
inductive Denotes : List Char → Int → Prop where
  | unsigned {ds : List Char} (h : AreDigits ds) : Denotes ds (placeValue ds)
  | positive {ds : List Char} (h : AreDigits ds) : Denotes ('+' :: ds) (placeValue ds)
  | negative {ds : List Char} (h : AreDigits ds) : Denotes ('-' :: ds) (-(placeValue ds : Int))

/-- Is there nothing but white space? -/
def AllBlank (cs : List Char) : Prop :=
  ∀ c ∈ cs, isBlank c = true

/-- A text denotes an integer, white space around it aside. -/
def Spells (cs : List Char) (n : Int) : Prop :=
  ∃ before digits after, cs = before ++ digits ++ after ∧ AllBlank before ∧ AllBlank after ∧
    Denotes digits n

/-- Is an integer one of 64 bits? -/
def InRange (n : Int) : Prop :=
  -2 ^ 63 ≤ n ∧ n < 2 ^ 63

theorem inRange_toInt (v : Int64) : InRange v.toInt :=
  ⟨v.le_toInt, v.toInt_lt⟩

theorem toInt_ofInt {n : Int} (h : InRange n) : (Int64.ofInt n).toInt = n :=
  Int64.toInt_ofInt_of_le h.1 h.2

/-! ## Section 2: Digits -/

theorem isDigit_iff {c : Char} : c.isDigit = true ↔ 0x30 ≤ c.toNat ∧ c.toNat ≤ 0x39 :=
  Char.isDigit_iff_toNat

theorem hex?_isDigit {c : Char} (h : c.isDigit = true) :
    Digits.hex? c = some (c.toNat - '0'.toNat) := by
  rw [isDigit_iff] at h
  exact if_pos h

/-- Reading digits one after another gives them the places they have. -/
theorem number_eq {ds : List Char} (h : ∀ d ∈ ds, d.isDigit = true) :
    Digits.number 10 ds = placeValue ds := by
  induction ds using List.reverseRecOn with
  | nil => rfl
  | append_singleton ds d ih =>
    have hd : d.isDigit = true := h d (by simp)
    have hds := ih fun d' hd' => h d' (List.mem_append_left _ hd')
    unfold Digits.number placeValue at hds ⊢
    rw [List.foldl_append, hds, List.foldl_cons, List.foldl_nil, hex?_isDigit hd,
      Option.getD_some, List.reverse_append, List.reverse_singleton, List.singleton_append,
      List.map_cons, Nat.ofDigits_cons]
    omega

/-- Zeros in front change nothing. -/
theorem placeValue_zeros (k : Nat) (ds : List Char) :
    placeValue (List.replicate k '0' ++ ds) = placeValue ds := by
  unfold placeValue
  rw [List.reverse_append, List.map_append, List.reverse_replicate, List.map_replicate]
  exact Nat.ofDigits_append_replicate_zero _

/-- Digits are read as the number they denote; past the bound it is not told
    apart from it. -/
theorem digits?_eq_some {cs : List Char} {n : Nat} :
    digits? cs = some n ↔ AreDigits cs ∧ n = min bound (placeValue cs) := by
  by_cases hne : cs = []
  · simp [hne, digits?, AreDigits]
  by_cases hall : cs.all Char.isDigit = true
  · have hdigits : ∀ d ∈ cs, d.isDigit = true := List.all_eq_true.mp hall
    rw [digits?.eq_2 cs hne, if_pos hall, Digits.numberUpTo_eq, number_eq hdigits]
    rw [Option.some.injEq, and_iff_right ⟨hne, hdigits⟩]
    exact eq_comm
  · rw [digits?.eq_2 cs hne, if_neg hall]
    simp only [reduceCtorEq, false_iff]
    exact fun h => hall (List.all_eq_true.mpr h.1.2)

/-! ## Section 3: Signs -/

theorem signed?_minus (ds : List Char) :
    signed? ('-' :: ds) = (digits? ds).map fun m : Nat => -(m : Int) := by
  rw [signed?]
  cases digits? ds <;> rfl

theorem signed?_plus (ds : List Char) :
    signed? ('+' :: ds) = (digits? ds).map fun m : Nat => (m : Int) := by
  rw [signed?]
  cases digits? ds <;> rfl

theorem signed?_unsigned {cs : List Char} (hminus : ∀ ds, cs ≠ '-' :: ds)
    (hplus : ∀ ds, cs ≠ '+' :: ds) : signed? cs = (digits? cs).map fun m : Nat => (m : Int) := by
  rw [signed?.eq_3 cs hminus hplus]
  cases digits? cs <;> rfl

/-- A text of digits begins with no sign. -/
theorem AreDigits.ne_cons {ds : List Char} (h : AreDigits ds) {sign : Char}
    (hsign : sign.isDigit = false) (rest : List Char) : ds ≠ sign :: rest := by
  rintro rfl
  rw [h.2 sign List.mem_cons_self] at hsign
  cases hsign

/-- A text is read as what it denotes, up to the bound on either side. -/
theorem signed?_eq_some {cs : List Char} {n : Int} :
    signed? cs = some n ↔ ∃ m, Denotes cs m ∧ n = max (-(bound : Int)) (min bound m) := by
  constructor
  · intro h
    by_cases hminus : ∃ ds, cs = '-' :: ds
    · obtain ⟨ds, rfl⟩ := hminus
      rw [signed?_minus] at h
      obtain ⟨m, hm, rfl⟩ := Option.map_eq_some_iff.mp h
      obtain ⟨hds, rfl⟩ := digits?_eq_some.mp hm
      exact ⟨_, .negative hds, by omega⟩
    by_cases hplus : ∃ ds, cs = '+' :: ds
    · obtain ⟨ds, rfl⟩ := hplus
      rw [signed?_plus] at h
      obtain ⟨m, hm, rfl⟩ := Option.map_eq_some_iff.mp h
      obtain ⟨hds, rfl⟩ := digits?_eq_some.mp hm
      exact ⟨_, .positive hds, by omega⟩
    · rw [signed?_unsigned (fun ds h => hminus ⟨ds, h⟩) fun ds h => hplus ⟨ds, h⟩] at h
      obtain ⟨m, hm, rfl⟩ := Option.map_eq_some_iff.mp h
      obtain ⟨hds, rfl⟩ := digits?_eq_some.mp hm
      exact ⟨_, .unsigned hds, by omega⟩
  · rintro ⟨m, hm, rfl⟩
    cases hm with
    | unsigned hds =>
      rw [signed?_unsigned (hds.ne_cons rfl) (hds.ne_cons rfl), digits?_eq_some.mpr ⟨hds, rfl⟩,
        Option.map_some]
      congr 1
      omega
    | positive hds =>
      rw [signed?_plus, digits?_eq_some.mpr ⟨hds, rfl⟩, Option.map_some]
      congr 1
      omega
    | negative hds =>
      rw [signed?_minus, digits?_eq_some.mpr ⟨hds, rfl⟩, Option.map_some]
      congr 1
      omega

theorem narrow?_eq_some {n : Int} {v : Int64} : narrow? n = some v ↔ n = v.toInt := by
  have hrange := inRange_toInt v
  unfold InRange at hrange
  unfold narrow? least greatest
  constructor
  · intro h
    split at h
    · cases h
      exact (toInt_ofInt ⟨by omega, by omega⟩).symm
    · cases h
  · rintro rfl
    rw [if_pos (by omega), Int64.ofInt_toInt]

/-- **A sign and digits are read as the integer they denote**, if that has 64
    bits, and are refused otherwise. -/
theorem parse?_eq_some {cs : List Char} {v : Int64} :
    parse? cs = some v ↔ Denotes cs v.toInt := by
  have hrange := inRange_toInt v
  have hbound : bound = 2 ^ 64 := rfl
  unfold InRange at hrange
  rw [parse?, Option.bind_eq_some_iff]
  simp only [narrow?_eq_some, signed?_eq_some]
  -- The bound is past both ends of the range, so it does not show there.
  constructor
  · rintro ⟨n, ⟨m, hm, hcut⟩, rfl⟩
    obtain rfl : m = v.toInt := by omega
    exact hm
  · intro h
    exact ⟨v.toInt, ⟨v.toInt, h, by omega⟩, rfl⟩

/-! ## Section 4: White space -/

theorem Denotes.unique {cs : List Char} {n m : Int} (hn : Denotes cs n) (hm : Denotes cs m) :
    n = m := by
  cases hn with
  | unsigned hds =>
    cases hm with
    | unsigned _ => rfl
    | positive _ => exact absurd rfl (hds.ne_cons rfl _)
    | negative _ => exact absurd rfl (hds.ne_cons rfl _)
  | positive hds =>
    cases hm with
    | unsigned hds' => exact absurd rfl (hds'.ne_cons rfl _)
    | positive _ => rfl
  | negative hds =>
    cases hm with
    | unsigned hds' => exact absurd rfl (hds'.ne_cons rfl _)
    | negative _ => rfl

theorem isBlank_isDigit {c : Char} (h : c.isDigit = true) : isBlank c = false := by
  rw [isDigit_iff] at h
  simp [isBlank]
  omega

theorem Denotes.not_blank {cs : List Char} {n : Int} (h : Denotes cs n) :
    cs ≠ [] ∧ ∀ c ∈ cs, isBlank c = false := by
  have hsigned : ∀ {sign : Char} {ds : List Char}, isBlank sign = false → AreDigits ds →
      sign :: ds ≠ [] ∧ ∀ c ∈ sign :: ds, isBlank c = false := by
    intro sign ds hsign hds
    refine ⟨List.cons_ne_nil sign ds, ?_⟩
    intro c hc
    rcases List.mem_cons.mp hc with rfl | hc
    · exact hsign
    · exact isBlank_isDigit (hds.2 c hc)
  cases h with
  | unsigned hds => exact ⟨hds.1, fun c hc => isBlank_isDigit (hds.2 c hc)⟩
  | positive hds => exact hsigned (by decide) hds
  | negative hds => exact hsigned (by decide) hds

theorem dropWhile_blank {before cs : List Char} (hbefore : AllBlank before) (hne : cs ≠ [])
    (hcs : ∀ c ∈ cs, isBlank c = false) (after : List Char) :
    (before ++ (cs ++ after)).dropWhile isBlank = cs ++ after := by
  rw [List.dropWhile_append_of_pos hbefore]
  cases cs with
  | nil => exact absurd rfl hne
  | cons c cs =>
    have hc : ¬isBlank c = true := by
      rw [hcs c List.mem_cons_self]
      exact Bool.false_ne_true
    exact List.dropWhile_cons_of_neg hc

/-- The white space around a text without any is left out. -/
theorem trim_eq {before cs after : List Char} (hbefore : AllBlank before) (hafter : AllBlank after)
    (hne : cs ≠ []) (hcs : ∀ c ∈ cs, isBlank c = false) : trim (before ++ cs ++ after) = cs := by
  have hback : AllBlank after.reverse := fun c hc => hafter c (List.mem_reverse.mp hc)
  have hnotBlank : ∀ c ∈ cs.reverse, isBlank c = false := fun c hc =>
    hcs c (List.mem_reverse.mp hc)
  have hend := dropWhile_blank hback (mt List.reverse_eq_nil_iff.mp hne) hnotBlank []
  rw [List.append_nil] at hend
  rw [trim, List.append_assoc, dropWhile_blank hbefore hne hcs, List.reverse_append, hend,
    List.reverse_reverse]

/-- What is left out is white space, at both ends. -/
theorem exists_trim (cs : List Char) :
    ∃ before after, cs = before ++ trim cs ++ after ∧ AllBlank before ∧ AllBlank after := by
  have hstart := List.takeWhile_append_dropWhile (p := isBlank) (l := cs)
  have hend := List.takeWhile_append_dropWhile (p := isBlank)
    (l := (cs.dropWhile isBlank).reverse)
  refine ⟨cs.takeWhile isBlank, ((cs.dropWhile isBlank).reverse.takeWhile isBlank).reverse,
    ?_, ?_, ?_⟩
  · rw [List.append_assoc, trim, ← List.reverse_append, hend, List.reverse_reverse, hstart]
  · intro c hc
    exact List.mem_takeWhile_imp hc
  · intro c hc
    exact List.mem_takeWhile_imp (List.mem_reverse.mp hc)

theorem spells_iff {cs : List Char} {n : Int} : Spells cs n ↔ Denotes (trim cs) n := by
  constructor
  · rintro ⟨before, digits, after, rfl, hbefore, hafter, hdigits⟩
    rwa [trim_eq hbefore hafter hdigits.not_blank.1 hdigits.not_blank.2]
  · intro h
    obtain ⟨before, after, hcs, hbefore, hafter⟩ := exists_trim cs
    exact ⟨before, trim cs, after, hcs, hbefore, hafter, h⟩

theorem Spells.unique {cs : List Char} {n m : Int} (hn : Spells cs n) (hm : Spells cs m) :
    n = m :=
  (spells_iff.mp hn).unique (spells_iff.mp hm)

theorem Denotes.spells {cs : List Char} {n : Int} (h : Denotes cs n) : Spells cs n :=
  ⟨[], cs, [], by simp, nofun, nofun, h⟩

theorem AreDigits.zeros {ds : List Char} (h : AreDigits ds) (k : Nat) :
    AreDigits (List.replicate k '0' ++ ds) := by
  refine ⟨mt (fun hnil => (List.append_eq_nil_iff.mp hnil).2) h.1, ?_⟩
  intro d hd
  rcases List.mem_append.mp hd with hd | hd
  · rw [List.eq_of_mem_replicate hd]
    rfl
  · exact h.2 d hd

/-- Zeros in front of the digits do not change which integer a text denotes. -/
theorem spells_zeros {sign ds : List Char} (hsign : sign ∈ [[], ['+'], ['-']])
    (hds : AreDigits ds) (k : Nat) (n : Int) :
    Spells (sign ++ (List.replicate k '0' ++ ds)) n ↔ Spells (sign ++ ds) n := by
  -- With and without the zeros the same integer is denoted, and no other one.
  have hsame : ∃ m, Denotes (sign ++ (List.replicate k '0' ++ ds)) m ∧ Denotes (sign ++ ds) m := by
    have hzeros := hds.zeros k
    have hvalue := placeValue_zeros k ds
    simp only [List.mem_cons, List.not_mem_nil, or_false] at hsign
    rcases hsign with rfl | rfl | rfl
    · exact ⟨placeValue ds, hvalue ▸ .unsigned hzeros, .unsigned hds⟩
    · exact ⟨placeValue ds, hvalue ▸ .positive hzeros, .positive hds⟩
    · exact ⟨-(placeValue ds : Int), hvalue ▸ .negative hzeros, .negative hds⟩
  obtain ⟨m, hm, hm'⟩ := hsame
  constructor
  · intro h
    rw [h.unique hm.spells]
    exact hm'.spells
  · intro h
    rw [h.unique hm'.spells]
    exact hm.spells

/-- **Texts are read as the integer they denote**, if that has 64 bits. -/
theorem ofString?_eq_some {s : String} {v : Int64} :
    ofString? s = some v ↔ Spells s.toList v.toInt := by
  rw [ofString?, parse?_eq_some, spells_iff]

theorem ofString?_of_spells {s : String} {n : Int} (h : Spells s.toList n) (hn : InRange n) :
    ofString? s = some (Int64.ofInt n) := by
  rw [ofString?_eq_some, toInt_ofInt hn]
  exact h

theorem exists_ofString? {s : String} :
    (∃ v, ofString? s = some v) ↔ ∃ n, Spells s.toList n ∧ InRange n := by
  constructor
  · rintro ⟨v, hv⟩
    exact ⟨v.toInt, ofString?_eq_some.mp hv, inRange_toInt v⟩
  · rintro ⟨n, hn, hrange⟩
    exact ⟨Int64.ofInt n, ofString?_of_spells hn hrange⟩

end Integer

/-! ## Section 5: Operators -/

namespace MetadataOperator

/-- A value is compared by the integer it denotes. -/
theorem greaterThan_holds {n : Int} (hn : Integer.InRange n) (value : String) :
    (greaterThan (Int64.ofInt n)).holds value = true ↔
      ∃ v, Integer.Spells value.toList v ∧ Integer.InRange v ∧ n < v := by
  rw [holds, Option.any_eq_true]
  constructor
  · rintro ⟨v, hv, hlt⟩
    refine ⟨v.toInt, Integer.ofString?_eq_some.mp hv, Integer.inRange_toInt v, ?_⟩
    rw [decide_eq_true_iff, gt_iff_lt, Int64.lt_iff_toInt_lt, Integer.toInt_ofInt hn] at hlt
    exact hlt
  · rintro ⟨v, hv, hrange, hlt⟩
    refine ⟨Int64.ofInt v, Integer.ofString?_of_spells hv hrange, ?_⟩
    rw [decide_eq_true_iff, gt_iff_lt, Int64.lt_iff_toInt_lt, Integer.toInt_ofInt hn,
      Integer.toInt_ofInt hrange]
    exact hlt

theorem lessThan_holds {n : Int} (hn : Integer.InRange n) (value : String) :
    (lessThan (Int64.ofInt n)).holds value = true ↔
      ∃ v, Integer.Spells value.toList v ∧ Integer.InRange v ∧ v < n := by
  rw [holds, Option.any_eq_true]
  constructor
  · rintro ⟨v, hv, hlt⟩
    refine ⟨v.toInt, Integer.ofString?_eq_some.mp hv, Integer.inRange_toInt v, ?_⟩
    rw [decide_eq_true_iff, Int64.lt_iff_toInt_lt, Integer.toInt_ofInt hn] at hlt
    exact hlt
  · rintro ⟨v, hv, hrange, hlt⟩
    refine ⟨Int64.ofInt v, Integer.ofString?_of_spells hv hrange, ?_⟩
    rw [decide_eq_true_iff, Int64.lt_iff_toInt_lt, Integer.toInt_ofInt hn,
      Integer.toInt_ofInt hrange]
    exact hlt

/-- The argument of a comparison of integers denotes one. -/
theorem bound_map_iff {name arg : String} {f : Int64 → MetadataOperator} {op : MetadataOperator} :
    (bound name arg).map f = .ok op ↔
      ∃ n, (Integer.Spells arg.toList n ∧ Integer.InRange n) ∧ op = f (Int64.ofInt n) := by
  constructor
  · intro h
    obtain ⟨v, hv, rfl⟩ := bound_ok h
    refine ⟨v.toInt, ⟨Integer.ofString?_eq_some.mp hv, Integer.inRange_toInt v⟩, ?_⟩
    rw [Int64.ofInt_toInt]
  · rintro ⟨n, ⟨hn, hrange⟩, rfl⟩
    rw [bound, Integer.ofString?_of_spells hn hrange]
    rfl

end MetadataOperator

/-! ## Section 6: Conditions -/

namespace Config

section Numeric

variable {pool : Pool} {r : Registry} {part : Int64} {key arg operator : String} {cond : Condition}

/-- A metadata condition that was built has a key and an operator. -/
theorem ofMetadata_ok (h : ((ofMetadata operator part key arg).build pool r).result = .ok cond) :
    key ≠ "" ∧ ∃ op, MetadataOperator.parse operator arg = .ok op ∧
      ∀ p : Part, cond.holds ⟨p⟩ = (namesPart part && (p.metadata.find? key).any op.holds) := by
  obtain ⟨test, htest, -⟩ := Clause.built_metadata (Config.built h)
  unfold MetadataSection.test at htest
  by_cases hkey : key = ""
  · rw [if_pos hkey] at htest
    cases htest
  rw [if_neg hkey] at htest
  cases hop : MetadataOperator.parse operator arg with
  | error e =>
    simp only [hop] at htest
    cases htest
  | ok op =>
    obtain ⟨built, hbuilt, hholds⟩ := ofMetadata_built pool r part arg operator hkey hop
    obtain rfl : built = cond := Except.ok.inj (hbuilt.symm.trans h)
    exact ⟨hkey, op, rfl, hholds⟩

variable {f : Int64 → MetadataOperator}

/-- A comparison of integers can be built with a key and an integer, and only
    then. -/
theorem ofMetadata_integer
    (hparse : MetadataOperator.parse operator arg = (MetadataOperator.bound operator arg).map f) :
    (∃ cond, ((ofMetadata operator part key arg).build pool r).result = .ok cond) ↔
      key ≠ "" ∧ ∃ n, Integer.Spells arg.toList n ∧ Integer.InRange n := by
  constructor
  · rintro ⟨cond, h⟩
    obtain ⟨hkey, op, hop, -⟩ := ofMetadata_ok h
    obtain ⟨n, hn, -⟩ := MetadataOperator.bound_map_iff.mp (hparse ▸ hop)
    exact ⟨hkey, n, hn⟩
  · rintro ⟨hkey, n, hn⟩
    have hop : MetadataOperator.parse operator arg = .ok (f (Int64.ofInt n)) :=
      hparse.trans (MetadataOperator.bound_map_iff.mpr ⟨n, hn, rfl⟩)
    obtain ⟨cond, h, -⟩ := ofMetadata_built pool r part arg operator hkey hop
    exact ⟨cond, h⟩

/-- It compares with the integer that the argument denotes. -/
theorem ofMetadata_integer_holds
    (hparse : MetadataOperator.parse operator arg = (MetadataOperator.bound operator arg).map f)
    (h : ((ofMetadata operator part key arg).build pool r).result = .ok cond) {n : Int}
    (hn : Integer.Spells arg.toList n) (p : Part) :
    cond.holds ⟨p⟩ = true ↔
      (part = 0 ∨ part = -1) ∧
        ∃ value, p.metadata.find? key = some value ∧ (f (Int64.ofInt n)).holds value = true := by
  obtain ⟨-, op, hop, hholds⟩ := ofMetadata_ok h
  obtain ⟨m, ⟨hm, -⟩, rfl⟩ := MetadataOperator.bound_map_iff.mp (hparse ▸ hop)
  -- The argument denotes one integer only, so it was built with this one.
  obtain rfl := hm.unique hn
  rw [hholds, Bool.and_eq_true, Option.any_eq_true]
  exact and_congr (by simp [namesPart]) Iff.rfl

end Numeric

/-- **Metadata values are compared as integers.**  The two conditions that do so
    can be built with a key and an argument that denotes an integer of 64 bits,
    and only then.  They hold of a part whose value under the key denotes one as
    well, if it is the greater or the lesser of the two.  So of a value that
    denotes an integer of 64 bits one of three things is true: it is greater, or
    less, or the same; and what denotes none is neither greater nor less.  Zeros
    in front of the digits make no difference. -/
theorem integers_are_compared (pool : Pool) (r : Registry) (part : Int64) (key arg : String) :
    let here : Prop := part = 0 ∨ part = -1
    let denotes (s : String) (n : Int) : Prop := Integer.Spells s.toList n ∧ Integer.InRange n
    let builds (operator : String) (cond : Condition) : Prop :=
      ((ofMetadata operator part key arg).build pool r).result = .ok cond
    (∀ sign ∈ [[], ['+'], ['-']], ∀ digits, Integer.AreDigits digits → ∀ (zeros : Nat) (n : Int),
      Integer.Spells (sign ++ (List.replicate zeros '0' ++ digits)) n ↔
        Integer.Spells (sign ++ digits) n) ∧
    ((∃ cond, builds "greater_than" cond) ↔ key ≠ "" ∧ ∃ n, denotes arg n) ∧
    ((∃ cond, builds "less_than" cond) ↔ key ≠ "" ∧ ∃ n, denotes arg n) ∧
    ∀ greater less, builds "greater_than" greater → builds "less_than" less →
      ∀ n, denotes arg n → ∀ p : Part,
        (greater.holds ⟨p⟩ = true ↔
          here ∧ ∃ value v, p.metadata.find? key = some value ∧ denotes value v ∧ n < v) ∧
        (less.holds ⟨p⟩ = true ↔
          here ∧ ∃ value v, p.metadata.find? key = some value ∧ denotes value v ∧ v < n) ∧
        (here → ∀ value, p.metadata.find? key = some value →
          (∀ v, denotes value v →
            (greater.holds ⟨p⟩ = true ∧ less.holds ⟨p⟩ = false ∧ v ≠ n) ∨
            (greater.holds ⟨p⟩ = false ∧ less.holds ⟨p⟩ = true ∧ v ≠ n) ∨
            (greater.holds ⟨p⟩ = false ∧ less.holds ⟨p⟩ = false ∧ v = n)) ∧
          ((¬∃ v, denotes value v) →
            greater.holds ⟨p⟩ = false ∧ less.holds ⟨p⟩ = false)) := by
  intro here denotes builds
  refine ⟨fun _ hsign _ hds => Integer.spells_zeros hsign hds, ofMetadata_integer rfl,
    ofMetadata_integer rfl, ?_⟩
  rintro greater less hgreater hless n ⟨hn, hrange⟩ p
  have hgreaterHolds : greater.holds ⟨p⟩ = true ↔
      here ∧ ∃ value v, p.metadata.find? key = some value ∧ denotes value v ∧ n < v := by
    rw [ofMetadata_integer_holds rfl hgreater hn]
    simp only [MetadataOperator.greaterThan_holds hrange, exists_and_left, and_assoc, here, denotes]
  have hlessHolds : less.holds ⟨p⟩ = true ↔
      here ∧ ∃ value v, p.metadata.find? key = some value ∧ denotes value v ∧ v < n := by
    rw [ofMetadata_integer_holds rfl hless hn]
    simp only [MetadataOperator.lessThan_holds hrange, exists_and_left, and_assoc, here, denotes]
  refine ⟨hgreaterHolds, hlessHolds, ?_⟩
  intro hhere value hvalue
  have hgreaterFalse : (∀ v, denotes value v → ¬n < v) → greater.holds ⟨p⟩ = false := by
    intro h
    rw [Bool.eq_false_iff, ne_eq, hgreaterHolds, hvalue]
    rintro ⟨-, _, v, ⟨rfl⟩, hv, hlt⟩
    exact h v hv hlt
  have hlessFalse : (∀ v, denotes value v → ¬v < n) → less.holds ⟨p⟩ = false := by
    intro h
    rw [Bool.eq_false_iff, ne_eq, hlessHolds, hvalue]
    rintro ⟨-, _, v, ⟨rfl⟩, hv, hlt⟩
    exact h v hv hlt
  constructor
  · intro v hv
    -- A value denotes one integer only.
    have honly : ∀ w, denotes value w → w = v := fun w hw => hw.1.unique hv.1
    rcases lt_trichotomy n v with hlt | rfl | hlt
    · refine Or.inl ⟨hgreaterHolds.mpr ⟨hhere, value, v, hvalue, hv, hlt⟩, hlessFalse ?_, hlt.ne'⟩
      intro w hw
      rw [honly w hw]
      exact hlt.asymm
    · refine Or.inr (Or.inr ⟨hgreaterFalse ?_, hlessFalse ?_, rfl⟩) <;>
        intro w hw <;> rw [honly w hw] <;> exact lt_irrefl n
    · refine Or.inr (Or.inl
        ⟨hgreaterFalse ?_, hlessHolds.mpr ⟨hhere, value, v, hvalue, hv, hlt⟩, hlt.ne⟩)
      intro w hw
      rw [honly w hw]
      exact hlt.asymm
  · intro hnone
    exact ⟨hgreaterFalse fun v hv => absurd ⟨v, hv⟩ hnone,
      hlessFalse fun v hv => absurd ⟨v, hv⟩ hnone⟩

/-- The least integer of 64 bits, compared with the greatest one, with itself,
    with one that is out of range and with a sign. -/
theorem integers_are_compared_extremes :
    let arg := " -9223372036854775808\u3000"
    let valued (value : String) : Part := ⟨[], .ofList [("size", value)]⟩
    ∃ greater less,
      ((ofMetadata "greater_than" (-1) "size" arg).build .empty .discard).result = .ok greater ∧
      ((ofMetadata "less_than" (-1) "size" arg).build .empty .discard).result = .ok less ∧
      greater.holds ⟨valued "+0009223372036854775807"⟩ = true ∧
      less.holds ⟨valued "+0009223372036854775807"⟩ = false ∧
      (greater.holds ⟨valued "-009223372036854775808"⟩ = false ∧
        less.holds ⟨valued "-009223372036854775808"⟩ = false) ∧
      ∀ value ∈ ["-9223372036854775809", "+", "1 2", ""],
        greater.holds ⟨valued value⟩ = false ∧ less.holds ⟨valued value⟩ = false := by
  intro arg valued
  have hdenotes : ∀ {s : String} (v : Int64), Integer.ofString? s = some v →
      Integer.Spells s.toList v.toInt ∧ Integer.InRange v.toInt :=
    fun v h => ⟨Integer.ofString?_eq_some.mp h, Integer.inRange_toInt v⟩
  have harg := hdenotes (s := arg) Int64.minValue (by decide)
  obtain ⟨-, hgreater, hless, hcompare⟩ := integers_are_compared .empty .discard (-1) "size" arg
  obtain ⟨greater, hgreater⟩ := hgreater.mpr ⟨by decide, _, harg⟩
  obtain ⟨less, hless⟩ := hless.mpr ⟨by decide, _, harg⟩
  have hvalued : ∀ value, (valued value).metadata.find? "size" = some value := fun _ => rfl
  have hcompare := fun value => hcompare greater less hgreater hless _ harg (valued value)
  have hmost : greater.holds ⟨valued "+0009223372036854775807"⟩ = true ∧
      less.holds ⟨valued "+0009223372036854775807"⟩ = false := by
    have hmax := hdenotes (s := "+0009223372036854775807") Int64.maxValue (by decide)
    have hholds := (hcompare _).1.mpr ⟨Or.inr rfl, _, _, hvalued _, hmax, by decide⟩
    rcases ((hcompare _).2.2 (Or.inr rfl) _ (hvalued _)).1 _ hmax with h | h | h
    · exact ⟨h.1, h.2.1⟩
    · exact absurd (hholds.symm.trans h.1) nofun
    · exact absurd (hholds.symm.trans h.1) nofun
  have hsame : greater.holds ⟨valued "-009223372036854775808"⟩ = false ∧
      less.holds ⟨valued "-009223372036854775808"⟩ = false := by
    have hmin := hdenotes (s := "-009223372036854775808") Int64.minValue (by decide)
    rcases ((hcompare _).2.2 (Or.inr rfl) _ (hvalued _)).1 _ hmin with h | h | h
    · exact absurd rfl h.2.2
    · exact absurd rfl h.2.2
    · exact ⟨h.1, h.2.1⟩
  have hnone : ∀ {value}, Integer.ofString? value = none →
      greater.holds ⟨valued value⟩ = false ∧ less.holds ⟨valued value⟩ = false := by
    intro value h
    refine ((hcompare value).2.2 (Or.inr rfl) value (hvalued value)).2 ?_
    intro hv
    obtain ⟨v, hv⟩ := Integer.exists_ofString?.mpr hv
    rw [h] at hv
    cases hv
  refine ⟨greater, less, hgreater, hless, hmost.1, hmost.2, hsame, ?_⟩
  intro value hvalue
  have hvalue : Integer.ofString? value = none := by
    revert value
    decide
  exact hnone hvalue

end Config

end BatchFilter
