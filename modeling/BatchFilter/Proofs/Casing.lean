import BatchFilter.Proofs.Meaning
import BatchFilter.Proofs.Slices

/-! # With and Without Regard to Case

    Lowercase is taken of whole texts, and one letter looks at what is around
    it: a capital sigma has another small form at the end of a word.  So the
    lowercase of a text that occurs in another one occurs in the lowercase of
    that one, as long as its capital sigmas stay at the end of a word, or stay
    within one.  All other letters are the same wherever they are.

    * `Lowercase.within`: the lowercase of a text in a context.
    * `Lowercase.KeepsFinals`: what is around a text does not matter to it.
    * `Comparison.Keeps`: the same, at a place where an argument is found.
    * `Config.loose_holds_of_strict`: what is found with regard to case, and
      when it is found without it. -/

namespace BatchFilter

namespace Lowercase

/-! ## Section 1: Texts in a context -/

/-- Is a capital sigma between `before` (nearest first) and `after` at the end
    of a word? -/
def isFinal (before after : List Char) : Bool :=
  startsCased before && !startsCased after

/-- The lowercase of a text between `before` (nearest first) and `after`. -/
def within (before : List Char) : List Char → List Char → List Char
  | [], _ => []
  | c :: cs, after => letter before c (cs ++ after) ++ within (c :: before) cs after

theorem mapFrom_eq (done before cs : List Char) :
    mapFrom done before cs = done.reverse ++ within before cs [] := by
  induction cs generalizing done before with
  | nil => simp [mapFrom, within]
  | cons c cs ih => simp [mapFrom, within, ih]

/-- The lowercase of a text is the one it has in no context. -/
theorem map_eq (cs : List Char) : map cs = within [] cs [] :=
  mapFrom_eq [] [] cs

/-- The parts of a text are in the context of each other. -/
theorem within_append (before xs ys after : List Char) :
    within before (xs ++ ys) after
      = within before xs (ys ++ after) ++ within (xs.reverse ++ before) ys after := by
  induction xs generalizing before with
  | nil => rfl
  | cons x xs ih => simp [within, ih]

/-- A letter takes as many characters in any context. -/
theorem letter_length (before before' : List Char) (c : Char) (after after' : List Char) :
    (letter before c after).length = (letter before' c after').length := by
  unfold letter
  by_cases hc : c = 'Σ'
  · rw [if_pos hc, if_pos hc]
    split <;> split <;> rfl
  · rw [if_neg hc, if_neg hc]

theorem within_length (before before' cs after after' : List Char) :
    (within before cs after).length = (within before' cs after').length := by
  induction cs generalizing before before' with
  | nil => rfl
  | cons c cs ih =>
    rw [within, within, List.length_append, List.length_append, ih (c :: before) (c :: before'),
      letter_length before before' c (cs ++ after) (cs ++ after')]

/-- Only a capital sigma looks at its context, and only for the end of a
    word. -/
theorem letter_eq {before before' : List Char} {c : Char} {after after' : List Char} :
    letter before c after = letter before' c after' ↔
      (c = 'Σ' → isFinal before after = isFinal before' after') := by
  unfold letter
  by_cases hc : c = 'Σ'
  · rw [if_pos hc, if_pos hc]
    show (if isFinal before after = true then _ else _)
      = (if isFinal before' after' = true then _ else _) ↔ _
    cases isFinal before after <;> cases isFinal before' after' <;> simp [hc]
  · rw [if_neg hc, if_neg hc]
    exact ⟨fun _ h => absurd h hc, fun _ => rfl⟩

/-- **In two contexts a text has the same lowercase** if each of its capital
    sigmas is at the end of a word in both or in neither. -/
theorem within_eq {before before' cs after after' : List Char} :
    within before cs after = within before' cs after' ↔
      ∀ xs ys, cs = xs ++ 'Σ' :: ys →
        isFinal (xs.reverse ++ before) (ys ++ after)
          = isFinal (xs.reverse ++ before') (ys ++ after') := by
  induction cs generalizing before before' with
  | nil => simp [within]
  | cons c cs ih =>
    rw [within, within]
    constructor
    · intro h xs ys hcs
      obtain ⟨hletter, hrest⟩ := List.append_inj h (letter_length _ _ _ _ _)
      cases xs with
      | nil =>
        obtain ⟨rfl, rfl⟩ := List.cons.inj hcs
        exact letter_eq.mp hletter rfl
      | cons x xs =>
        obtain ⟨rfl, rfl⟩ := List.cons.inj hcs
        have hfinal := ih.mp hrest xs ys rfl
        simpa using hfinal
    · intro h
      have hletter : letter before c (cs ++ after) = letter before' c (cs ++ after') := by
        refine letter_eq.mpr ?_
        rintro rfl
        exact h [] cs rfl
      have hrest : within (c :: before) cs after = within (c :: before') cs after' := by
        refine ih.mpr ?_
        intro xs ys hcs
        have hfinal := h (c :: xs) ys (by rw [hcs, List.cons_append])
        simpa using hfinal
      rw [hletter, hrest]

/-! ## Section 2: Texts in other texts -/

/-- Each capital sigma of a text is at the end of a word between `before`
    (nearest first) and `after` if it is when the text stands alone, and only
    then. -/
def KeepsFinals (before cs after : List Char) : Prop :=
  ∀ xs ys, cs = xs ++ 'Σ' :: ys →
    isFinal (xs.reverse ++ before) (ys ++ after) = isFinal xs.reverse ys

theorem keepsFinals_iff {before cs after : List Char} :
    KeepsFinals before cs after ↔ within before cs after = map cs := by
  rw [map_eq, within_eq]
  simp only [List.append_nil]
  rfl

/-- A text without capital sigmas keeps those it has. -/
theorem keepsFinals_of_not_mem {cs : List Char} (h : 'Σ' ∉ cs) (before after : List Char) :
    KeepsFinals before cs after := by
  rintro xs ys rfl
  simp at h

/-- The lowercase of a text, between those of what is around it. -/
theorem map_append (as cs bs : List Char) :
    map (as ++ cs ++ bs) = within [] as (cs ++ bs) ++ within as.reverse cs bs
      ++ within (cs.reverse ++ as.reverse) bs [] := by
  rw [map_eq, within_append, within_append]
  simp

theorem map_prefix {cs bs : List Char} : map cs <+: map (cs ++ bs) ↔ KeepsFinals [] cs bs := by
  have hmap : map (cs ++ bs) = within [] cs bs ++ within cs.reverse bs [] := by
    rw [map_eq, within_append, List.append_nil, List.append_nil]
  rw [hmap, keepsFinals_iff]
  constructor
  · rintro ⟨rest, hrest⟩
    rw [map_eq] at hrest ⊢
    exact (List.append_inj hrest (within_length _ _ _ _ _)).1.symm
  · intro h
    rw [h]
    exact List.prefix_append _ _

theorem map_suffix {as cs : List Char} :
    map cs <:+ map (as ++ cs) ↔ KeepsFinals as.reverse cs [] := by
  have hmap : map (as ++ cs) = within [] as cs ++ within as.reverse cs [] := by
    rw [map_eq, within_append, List.append_nil, List.append_nil]
  rw [hmap, keepsFinals_iff]
  constructor
  · rintro ⟨rest, hrest⟩
    rw [map_eq] at hrest ⊢
    exact (List.append_inj' hrest (within_length _ _ _ _ _)).2.symm
  · intro h
    rw [h]
    exact List.suffix_append _ _

theorem map_infix {as cs bs : List Char} (h : KeepsFinals as.reverse cs bs) :
    map cs <:+: map (as ++ cs ++ bs) := by
  rw [map_append, keepsFinals_iff.mp h]
  exact List.infix_append _ _ _

end Lowercase

/-! ## Section 3: Comparisons -/

namespace Comparison

/-- What a comparison says of what is searched and what is sought. -/
def Relates (c : Comparison) (hay needle : Bytes) : Prop :=
  match c with
  | .equals => hay = needle
  | .contains => needle <:+: hay
  | .startsWith => needle <+: hay
  | .endsWith => needle <:+ hay

theorem holds_iff (c : Comparison) (hay needle : Bytes) :
    c.holds hay needle = true ↔ c.Relates hay needle := by
  cases c with
  | equals => exact beq_iff_eq
  | contains =>
    show Search.contains needle hay = true ↔ _
    rw [Search.contains_eq, decide_eq_true_iff]
    rfl
  | startsWith =>
    show Search.startsWith needle hay = true ↔ _
    rw [Search.startsWith_eq, decide_eq_true_iff]
    rfl
  | endsWith =>
    show Search.endsWith needle hay = true ↔ _
    rw [Search.endsWith_eq, decide_eq_true_iff]
    rfl

/-- Where a comparison finds an argument in content, its capital sigmas are at
    the end of a word if they are when it stands alone, and only then. -/
def Keeps (c : Comparison) (content : Bytes) (arg : List Char) : Prop :=
  match c with
  | .equals => True
  | .contains => ∃ as bs, content = as ++ Utf8.encode arg ++ bs ∧
      Lowercase.KeepsFinals (Utf8.decodeLossy as).reverse arg (Utf8.decodeLossy bs)
  | .startsWith => ∃ bs, content = Utf8.encode arg ++ bs ∧
      Lowercase.KeepsFinals [] arg (Utf8.decodeLossy bs)
  | .endsWith => ∃ as, content = as ++ Utf8.encode arg ∧
      Lowercase.KeepsFinals (Utf8.decodeLossy as).reverse arg []

variable {c : Comparison} {content : Bytes} {arg : List Char}

/-- Without capital sigmas nothing is asked for. -/
theorem keeps_of_not_mem (h : 'Σ' ∉ arg) (hexact : c.Relates content (Utf8.encode arg)) :
    c.Keeps content arg := by
  cases c with
  | equals => trivial
  | contains =>
    obtain ⟨as, bs, hcontent⟩ := hexact
    exact ⟨as, bs, hcontent.symm, Lowercase.keepsFinals_of_not_mem h _ _⟩
  | startsWith =>
    obtain ⟨bs, hcontent⟩ := hexact
    exact ⟨bs, hcontent.symm, Lowercase.keepsFinals_of_not_mem h _ _⟩
  | endsWith =>
    obtain ⟨as, hcontent⟩ := hexact
    exact ⟨as, hcontent.symm, Lowercase.keepsFinals_of_not_mem h _ _⟩

/-- **What is found as it is written is found in lowercase**, if it is found
    where its capital sigmas are as they are alone. -/
theorem relates_lower (hexact : c.Relates content (Utf8.encode arg))
    (hkeeps : c.Keeps content arg) :
    c.Relates (Utf8.encode (Lowercase.map (Utf8.decodeLossy content)))
      (Utf8.encode (Lowercase.map arg)) := by
  cases c with
  | equals =>
    obtain rfl : content = Utf8.encode arg := hexact
    show Utf8.encode _ = _
    rw [Utf8.decodeLossy_encode]
  | contains =>
    obtain ⟨as, bs, rfl, hfinals⟩ := hkeeps
    by_cases harg : arg = []
    · rw [harg]
      exact List.nil_infix
    · show _ <:+: Utf8.encode _
      rw [Utf8.decodeLossy_slice as bs harg]
      exact Utf8.encode_infix (Lowercase.map_infix hfinals)
  | startsWith =>
    obtain ⟨bs, rfl, hfinals⟩ := hkeeps
    show _ <+: Utf8.encode _
    rw [Utf8.decodeLossy_append, Utf8.encode_prefix]
    exact Lowercase.map_prefix.mpr hfinals
  | endsWith =>
    obtain ⟨as, rfl, hfinals⟩ := hkeeps
    show _ <:+ Utf8.encode _
    rw [Utf8.decodeLossy_append_encode, Utf8.encode_suffix]
    exact Lowercase.map_suffix.mpr hfinals

/-- At the start and at the end there is no other place where the lowercase
    could be found. -/
theorem keeps_of_lower (hc : c ≠ .contains) (hexact : c.Relates content (Utf8.encode arg))
    (hlower : c.Relates (Utf8.encode (Lowercase.map (Utf8.decodeLossy content)))
      (Utf8.encode (Lowercase.map arg))) : c.Keeps content arg := by
  cases c with
  | equals => trivial
  | contains => exact absurd rfl hc
  | startsWith =>
    obtain ⟨bs, rfl⟩ := hexact
    have hprefix : Utf8.encode (Lowercase.map arg)
        <+: Utf8.encode (Lowercase.map (Utf8.decodeLossy (Utf8.encode arg ++ bs))) := hlower
    rw [Utf8.decodeLossy_append, Utf8.encode_prefix] at hprefix
    exact ⟨bs, rfl, Lowercase.map_prefix.mp hprefix⟩
  | endsWith =>
    obtain ⟨as, rfl⟩ := hexact
    have hsuffix : Utf8.encode (Lowercase.map arg)
        <:+ Utf8.encode (Lowercase.map (Utf8.decodeLossy (as ++ Utf8.encode arg))) := hlower
    rw [Utf8.decodeLossy_append_encode, Utf8.encode_suffix] at hsuffix
    exact ⟨as, rfl, Lowercase.map_suffix.mp hsuffix⟩

end Comparison

/-! ## Section 4: Conditions -/

/-- The name of an operator. -/
def TextOperator.name : TextOperator → String
  | ⟨.equals, true⟩ => "equals_cs"
  | ⟨.equals, false⟩ => "equals"
  | ⟨.contains, true⟩ => "contains_cs"
  | ⟨.contains, false⟩ => "contains"
  | ⟨.startsWith, true⟩ => "prefix_cs"
  | ⟨.startsWith, false⟩ => "prefix"
  | ⟨.endsWith, true⟩ => "suffix_cs"
  | ⟨.endsWith, false⟩ => "suffix"

theorem TextOperator.parse_name (op : TextOperator) : parse op.name = .ok op := by
  obtain ⟨c, caseSensitive⟩ := op
  cases c <;> cases caseSensitive <;> rfl

namespace Config

/-- A text condition with an operator. -/
def ofText (op : TextOperator) (part : Int64) (arg : String) : Config :=
  { kind := Kind.text.name, text := { operator := op.name, part := part, arg := arg } }

/-- A metadata condition with an operator. -/
def ofMetadata (operator : String) (part : Int64) (key arg : String) : Config :=
  { kind := Kind.metadata.name,
    metadata := { operator := operator, part := part, key := key, arg := arg } }

variable (pool : Pool) (r : Registry) (part : Int64) (arg : String)

/-- A text condition can always be built, and compares the only part there is. -/
theorem ofText_built (op : TextOperator) : ∃ cond,
    ((ofText op part arg).build pool r).result = .ok cond ∧
    ∀ p : Part, cond.holds ⟨p⟩ = (namesPart part && op.holds (op.prepare arg) p) := by
  have htest : TextSection.test { operator := op.name, part := part, arg := arg }
      = .ok (.text op part (op.prepare arg)) := by
    unfold TextSection.test
    rw [TextOperator.parse_name]
    rfl
  refine ⟨.leaf (.text op part (op.prepare arg)) (.ofKind r Kind.text.name), ?_, ?_⟩
  · show ((Attempt.ofExcept (TextSection.test _)).bind (buildLeaf r .text)).result = _
    rw [htest]
    rfl
  · intro p
    rw [Condition.holds_leaf]
    simp only [Test.holds, get?_namesPart]
    cases namesPart part <;> rfl

/-- A metadata condition that compares values can be built if it has a key. -/
theorem ofMetadata_built (operator : String) {key : String} {op : MetadataOperator}
    (hkey : key ≠ "") (hop : MetadataOperator.parse operator arg = .ok op) : ∃ cond,
    ((ofMetadata operator part key arg).build pool r).result = .ok cond ∧
    ∀ p : Part, cond.holds ⟨p⟩ = (namesPart part && (p.metadata.find? key).any op.holds) := by
  have htest : MetadataSection.test
      { operator := operator, part := part, key := key, arg := arg }
      = .ok (.metadata op part key) := by
    unfold MetadataSection.test
    rw [if_neg hkey, hop]
    rfl
  refine ⟨.leaf (.metadata op part key) (.ofKind r Kind.metadata.name), ?_, ?_⟩
  · show ((Attempt.ofExcept (MetadataSection.test _)).bind (buildLeaf r .metadata)).result = _
    rw [htest]
    rfl
  · intro p
    rw [Condition.holds_leaf]
    simp only [Test.holds, get?_namesPart]
    cases namesPart part <;> rfl

/-- **What is found as it is written, and what is found without regard to
    case.**  A comparison for equality never loses anything, of content or of
    a metadata value.  An argument that is found in content, or where it
    starts or ends, is found there as well if its capital sigmas are at the end
    of a word just as they are when it stands alone, and so always if it has
    none; where content starts or ends it is found only then. -/
theorem loose_holds_of_strict (pool : Pool) (r r' : Registry) (part : Int64) (arg : String) :
    (∀ c : Comparison, ∃ strict loose,
      ((ofText ⟨c, true⟩ part arg).build pool r).result = .ok strict ∧
      ((ofText ⟨c, false⟩ part arg).build pool r').result = .ok loose ∧
      ∀ p : Part, strict.holds ⟨p⟩ = true →
        (c.Keeps p.content arg.toList → loose.holds ⟨p⟩ = true) ∧
        ('Σ' ∉ arg.toList → loose.holds ⟨p⟩ = true) ∧
        (c ≠ .contains → loose.holds ⟨p⟩ = true → c.Keeps p.content arg.toList)) ∧
    ∀ key : String, key ≠ "" → ∃ strict loose,
      ((ofMetadata "equals_cs" part key arg).build pool r).result = .ok strict ∧
      ((ofMetadata "equals" part key arg).build pool r').result = .ok loose ∧
      ∀ p : Part, strict.holds ⟨p⟩ = true → loose.holds ⟨p⟩ = true := by
  constructor
  · intro c
    obtain ⟨strict, hstrict, hstrictHolds⟩ := ofText_built pool r part arg ⟨c, true⟩
    obtain ⟨loose, hloose, hlooseHolds⟩ := ofText_built pool r' part arg ⟨c, false⟩
    refine ⟨strict, loose, hstrict, hloose, ?_⟩
    intro p h
    rw [hstrictHolds, Bool.and_eq_true] at h
    obtain ⟨hpart, h⟩ := h
    have hfound : c.Relates p.content (Utf8.encode arg.toList) := (c.holds_iff _ _).mp h
    have hlower : loose.holds ⟨p⟩ = true ↔
        c.Relates (Utf8.encode (Lowercase.map (Utf8.decodeLossy p.content)))
          (Utf8.encode (Lowercase.map arg.toList)) := by
      rw [hlooseHolds, hpart, Bool.true_and]
      exact c.holds_iff _ _
    rw [hlower]
    exact ⟨Comparison.relates_lower hfound,
      fun hsigma => Comparison.relates_lower hfound (Comparison.keeps_of_not_mem hsigma hfound),
      fun hc => Comparison.keeps_of_lower hc hfound⟩
  · intro key hkey
    obtain ⟨strict, hstrict, hstrictHolds⟩ :=
      ofMetadata_built pool r part arg "equals_cs" hkey rfl
    obtain ⟨loose, hloose, hlooseHolds⟩ := ofMetadata_built pool r' part arg "equals" hkey rfl
    refine ⟨strict, loose, hstrict, hloose, ?_⟩
    intro p h
    rw [hstrictHolds, Bool.and_eq_true, Option.any_eq_true] at h
    obtain ⟨hpart, value, hvalue, hequal⟩ := h
    rw [hlooseHolds, hpart, hvalue]
    obtain rfl : value = arg := beq_iff_eq.mp hequal
    exact beq_self_eq_true _

/-- A word that ends in a capital sigma, at the end of a longer word; a text
    without one; and a metadata value. -/
theorem loose_holds_of_strict_word :
    let p : Part := ⟨Utf8.ofString "ΟΔΟΣ", .ofList [("title", "ΔΟΣ")]⟩
    (∃ strict loose,
      ((ofText ⟨.endsWith, true⟩ 0 "ΔΟΣ").build .empty .discard).result = .ok strict ∧
      ((ofText ⟨.endsWith, false⟩ 0 "ΔΟΣ").build .empty .discard).result = .ok loose ∧
      strict.holds ⟨p⟩ = true ∧ loose.holds ⟨p⟩ = true ∧
      Comparison.endsWith.Keeps p.content "ΔΟΣ".toList) ∧
    (∃ strict loose,
      ((ofText ⟨.contains, true⟩ 0 "ΔΟ").build .empty .discard).result = .ok strict ∧
      ((ofText ⟨.contains, false⟩ 0 "ΔΟ").build .empty .discard).result = .ok loose ∧
      strict.holds ⟨p⟩ = true ∧ loose.holds ⟨p⟩ = true) ∧
    ∃ strict loose,
      ((ofMetadata "equals_cs" 0 "title" "ΔΟΣ").build .empty .discard).result = .ok strict ∧
      ((ofMetadata "equals" 0 "title" "ΔΟΣ").build .empty .discard).result = .ok loose ∧
      strict.holds ⟨p⟩ = true ∧ loose.holds ⟨p⟩ = true := by
  intro p
  refine ⟨?_, ?_, ?_⟩
  · obtain ⟨strict, loose, hstrict, hloose, h⟩ :=
      (loose_holds_of_strict .empty .discard .discard 0 "ΔΟΣ").1 .endsWith
    have hfound : strict.holds ⟨p⟩ = true := by
      cases hstrict
      decide
    have hkeeps : Comparison.endsWith.Keeps p.content "ΔΟΣ".toList :=
      ⟨Utf8.ofString "Ο", by decide, Lowercase.keepsFinals_iff.mpr (by decide)⟩
    obtain ⟨hholds, -, hback⟩ := h p hfound
    exact ⟨strict, loose, hstrict, hloose, hfound, hholds hkeeps, hback nofun (hholds hkeeps)⟩
  · obtain ⟨strict, loose, hstrict, hloose, h⟩ :=
      (loose_holds_of_strict .empty .discard .discard 0 "ΔΟ").1 .contains
    have hfound : strict.holds ⟨p⟩ = true := by
      cases hstrict
      decide
    exact ⟨strict, loose, hstrict, hloose, hfound, (h p hfound).2.1 (by decide)⟩
  · obtain ⟨strict, loose, hstrict, hloose, h⟩ :=
      (loose_holds_of_strict .empty .discard .discard 0 "ΔΟΣ").2 "title" (by decide)
    have hequal : strict.holds ⟨p⟩ = true := by
      cases hstrict
      decide
    exact ⟨strict, loose, hstrict, hloose, hequal, h p hequal⟩

/-- An argument that ends in a capital sigma, in content where a word goes on
    after it. -/
theorem loose_rejects_inner_sigma :
    let p : Part := ⟨Utf8.ofString "ΑΣΑ", ∅⟩
    ∃ strict loose,
      ((ofText ⟨.contains, true⟩ 0 "ΑΣ").build .empty .discard).result = .ok strict ∧
      ((ofText ⟨.contains, false⟩ 0 "ΑΣ").build .empty .discard).result = .ok loose ∧
      strict.holds ⟨p⟩ = true ∧ loose.holds ⟨p⟩ = false :=
  ⟨_, _, rfl, rfl, by decide, by decide⟩

end Config

end BatchFilter
