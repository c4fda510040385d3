import BatchFilter.Text.Utf8

/-! # UTF-8 There and Back

    Decoding what was encoded gives the characters back, whatever follows
    them; the bytes of a character past the first 128 are all above them, so
    no byte of a text is mistaken for a line feed or another control
    character that the text does not have.  Texts come in the same order as
    their bytes. -/

namespace BatchFilter.Utf8

/-! ## Section 1: Bytes -/

theorem toNat_toUInt8 {n : Nat} (h : n < 0x100) : n.toUInt8.toNat = n := by
  rw [Nat.toUInt8_eq, UInt8.toNat_ofNat']
  exact Nat.mod_eq_of_lt h

/-- The code points of characters. -/
theorem toNat_valid (c : Char) : c.toNat < 0xD800 ∨ 0xDFFF < c.toNat ∧ c.toNat < 0x110000 :=
  c.valid

theorem lead_one {b : UInt8} (h : b.toNat < 0x80) : lead b = .complete (Char.ofNat b.toNat) := by
  unfold lead
  rw [if_pos h]

theorem lead_two {b : UInt8} {n : Nat} (hb : b.toNat = n) (h : 0xC2 ≤ n) (h' : n < 0xE0) :
    lead b = .begins ⟨1, 0x80, 0xBF, n - 0xC0⟩ := by
  unfold lead
  rw [hb, if_neg (by omega), if_neg (by omega), if_pos h']

/-- The first byte of three narrows the second one to leave out overlong forms
    and surrogates. -/
theorem lead_three {b : UInt8} {n : Nat} (hb : b.toNat = n) (h : 0xE0 ≤ n) (h' : n < 0xF0) :
    ∃ low high, lead b = .begins ⟨2, low, high, n - 0xE0⟩ ∧
      ∀ m, 0x80 ≤ m → m ≤ 0xBF → (n = 0xE0 → 0xA0 ≤ m) → (n = 0xED → m ≤ 0x9F) →
        low ≤ m ∧ m ≤ high := by
  unfold lead
  rw [hb, if_neg (by omega), if_neg (by omega), if_neg (by omega)]
  by_cases h₀ : n = 0xE0
  · rw [if_pos h₀, h₀]
    exact ⟨0xA0, 0xBF, rfl, fun m _ hm hlow _ => ⟨hlow rfl, hm⟩⟩
  by_cases hd : n = 0xED
  · rw [if_neg h₀, if_pos hd]
    exact ⟨0x80, 0x9F, rfl, fun m hm _ _ hhigh => ⟨hm, hhigh hd⟩⟩
  · rw [if_neg h₀, if_neg hd, if_pos h']
    exact ⟨0x80, 0xBF, rfl, fun m hm hm' _ _ => ⟨hm, hm'⟩⟩

/-- The first byte of four narrows the second one to leave out overlong forms
    and what is past the last code point. -/
theorem lead_four {b : UInt8} {n : Nat} (hb : b.toNat = n) (h : 0xF0 ≤ n) (h' : n ≤ 0xF4) :
    ∃ low high, lead b = .begins ⟨3, low, high, n - 0xF0⟩ ∧
      ∀ m, 0x80 ≤ m → m ≤ 0xBF → (n = 0xF0 → 0x90 ≤ m) → (n = 0xF4 → m ≤ 0x8F) →
        low ≤ m ∧ m ≤ high := by
  unfold lead
  rw [hb, if_neg (by omega), if_neg (by omega), if_neg (by omega), if_neg (by omega),
    if_neg (by omega), if_neg (by omega)]
  by_cases h₀ : n = 0xF0
  · rw [if_pos h₀, h₀]
    exact ⟨0x90, 0xBF, rfl, fun m _ hm hlow _ => ⟨hlow rfl, hm⟩⟩
  by_cases h₄ : n = 0xF4
  · rw [if_neg h₀, if_neg (by omega), if_pos h₄]
    exact ⟨0x80, 0x8F, rfl, fun m hm _ _ hhigh => ⟨hm, hhigh h₄⟩⟩
  · rw [if_neg h₀, if_pos (by omega)]
    exact ⟨0x80, 0xBF, rfl, fun m hm hm' _ _ => ⟨hm, hm'⟩⟩

/-! ## Section 2: Scanning -/

theorem scan_begin {done : List (Option Char)} {b : UInt8} {p : Partial} (h : lead b = .begins p)
    (bs : Bytes) : scan done none (b :: bs) = scan done (some p) bs := by
  rw [scan, h]

/-- A byte that continues a character. -/
theorem scan_more {done : List (Option Char)} {missing low high value m : Nat} {b : UInt8}
    (hb : b.toNat = m) (hlow : low ≤ m) (hhigh : m ≤ high) (bs : Bytes) :
    scan done (some ⟨missing + 2, low, high, value⟩) (b :: bs)
      = scan done (some ⟨missing + 1, 0x80, 0xBF, value * 0x40 + (m - 0x80)⟩) bs := by
  subst hb
  rw [scan, if_pos ⟨hlow, hhigh⟩]
  exact if_neg (by simp)

/-- The last byte of a character. -/
theorem scan_last {done : List (Option Char)} {low high value m : Nat} {b : UInt8}
    (hb : b.toNat = m) (hlow : low ≤ m) (hhigh : m ≤ high) (bs : Bytes) :
    scan done (some ⟨1, low, high, value⟩) (b :: bs)
      = scan (some (Char.ofNat (value * 0x40 + (m - 0x80))) :: done) none bs := by
  subst hb
  rw [scan, if_pos ⟨hlow, hhigh⟩]
  exact if_pos (Nat.le_refl 1)

/-- A character is read from its bytes. -/
theorem scan_encodeChar (done : List (Option Char)) (c : Char) (bs : Bytes) :
    scan done none (encodeChar c ++ bs) = scan (some c :: done) none bs := by
  have hvalid := toNat_valid c
  have hback : ∀ {n}, n = c.toNat → Char.ofNat n = c := by
    intro n hn
    rw [hn, Char.ofNat_toNat]
  unfold encodeChar
  generalize c.toNat = n at hvalid hback
  have htail : ∀ k, (0x80 + k % 0x40).toUInt8.toNat = 0x80 + k % 0x40 := by
    intro k
    exact toNat_toUInt8 (by omega)
  -- As many bytes as the code point needs.
  by_cases h₁ : n < 0x80
  · have hn : n.toUInt8.toNat = n := toNat_toUInt8 (by omega)
    rw [if_pos h₁, List.singleton_append, scan, lead_one (by omega), hn, hback rfl]
  by_cases h₂ : n < 0x800
  · have hn : (0xC0 + n / 0x40).toUInt8.toNat = 0xC0 + n / 0x40 := toNat_toUInt8 (by omega)
    rw [if_neg h₁, if_pos h₂, List.cons_append, List.singleton_append,
      scan_begin (lead_two hn (by omega) (by omega)),
      scan_last (htail n) (by omega) (by omega), hback (by omega)]
  by_cases h₃ : n < 0x10000
  · have hn : (0xE0 + n / 0x1000).toUInt8.toNat = 0xE0 + n / 0x1000 := toNat_toUInt8 (by omega)
    obtain ⟨low, high, hlead, hrange⟩ := lead_three hn (by omega) (by omega)
    obtain ⟨hlow, hhigh⟩ := hrange (0x80 + n / 0x40 % 0x40) (by omega) (by omega) (by omega)
      (by omega)
    rw [if_neg h₁, if_neg h₂, if_pos h₃, List.cons_append, List.cons_append,
      List.singleton_append, scan_begin hlead, scan_more (htail _) hlow hhigh,
      scan_last (htail n) (by omega) (by omega), hback (by omega)]
  · have hn : (0xF0 + n / 0x40000).toUInt8.toNat = 0xF0 + n / 0x40000 := toNat_toUInt8 (by omega)
    obtain ⟨low, high, hlead, hrange⟩ := lead_four hn (by omega) (by omega)
    obtain ⟨hlow, hhigh⟩ := hrange (0x80 + n / 0x1000 % 0x40) (by omega) (by omega) (by omega)
      (by omega)
    rw [if_neg h₁, if_neg h₂, if_neg h₃, List.cons_append, List.cons_append, List.cons_append,
      List.singleton_append, scan_begin hlead, scan_more (htail _) hlow hhigh,
      scan_more (htail _) (by omega) (by omega), scan_last (htail n) (by omega) (by omega),
      hback (by omega)]

theorem encode_cons (c : Char) (cs : List Char) : encode (c :: cs) = encodeChar c ++ encode cs :=
  List.flatMap_cons

theorem scan_encode (done : List (Option Char)) (cs : List Char) (bs : Bytes) :
    scan done none (encode cs ++ bs) = scan ((cs.map some).reverse ++ done) none bs := by
  induction cs generalizing done with
  | nil => rfl
  | cons c cs ih =>
    rw [encode_cons, List.append_assoc, scan_encodeChar, ih]
    simp

/-- The pieces of a text's bytes are its characters. -/
theorem pieces_encode (cs : List Char) : pieces (encode cs) = cs.map some := by
  have hscan := scan_encode [] cs []
  rw [List.append_nil, List.append_nil] at hscan
  rw [pieces, hscan, scan, List.reverse_reverse]

/-- **A text is decoded from its bytes**, strictly. -/
theorem decode?_encode (cs : List Char) : decode? (encode cs) = some cs := by
  unfold decode?
  rw [pieces_encode]
  simp

/-- **A text is decoded from its bytes**, lossily as well. -/
theorem decodeLossy_encode (cs : List Char) : decodeLossy (encode cs) = cs := by
  unfold decodeLossy
  rw [pieces_encode, List.map_map]
  exact List.map_id cs

/-! ## Section 3: What the bytes of a text are -/

/-- A byte of the first 128 stands for itself. -/
theorem mem_encodeChar_ascii {c : Char} {b : UInt8} (h : b ∈ encodeChar c)
    (hb : b.toNat < 0x80) : c.toNat = b.toNat := by
  have hvalid := toNat_valid c
  unfold encodeChar at h
  generalize c.toNat = n at hvalid h
  -- All bytes of a longer encoding are at least 0x80.
  have hhigh : ∀ {k}, 0x80 ≤ k → k < 0x100 → b ≠ k.toUInt8 := by
    rintro k hk hk' rfl
    rw [toNat_toUInt8 hk'] at hb
    omega
  by_cases h₁ : n < 0x80
  · rw [if_pos h₁, List.mem_singleton] at h
    rw [h, toNat_toUInt8 (by omega)]
  exfalso
  by_cases h₂ : n < 0x800
  · rw [if_neg h₁, if_pos h₂] at h
    simp only [List.mem_cons, List.not_mem_nil, or_false] at h
    rcases h with h | h <;> exact hhigh (by omega) (by omega) h
  by_cases h₃ : n < 0x10000
  · rw [if_neg h₁, if_neg h₂, if_pos h₃] at h
    simp only [List.mem_cons, List.not_mem_nil, or_false] at h
    rcases h with h | h | h <;> exact hhigh (by omega) (by omega) h
  · rw [if_neg h₁, if_neg h₂, if_neg h₃] at h
    simp only [List.mem_cons, List.not_mem_nil, or_false] at h
    rcases h with h | h | h | h <;> exact hhigh (by omega) (by omega) h

theorem mem_encode_ascii {cs : List Char} {b : UInt8} (h : b ∈ encode cs)
    (hb : b.toNat < 0x80) : ∃ c ∈ cs, c.toNat = b.toNat := by
  obtain ⟨c, hc, hbc⟩ := List.mem_flatMap.mp h
  exact ⟨c, hc, mem_encodeChar_ascii hbc hb⟩

theorem encodeChar_length (c : Char) : (encodeChar c).length = c.utf8Size := by
  have hsize : c.utf8Size = if c.toNat ≤ 0x7F then 1 else if c.toNat ≤ 0x7FF then 2
      else if c.toNat ≤ 0xFFFF then 3 else 4 := rfl
  rw [hsize]
  unfold encodeChar
  generalize c.toNat = n
  by_cases h₁ : n < 0x80
  · rw [if_pos h₁, if_pos (by omega)]
    rfl
  by_cases h₂ : n < 0x800
  · rw [if_neg h₁, if_pos h₂, if_neg (by omega), if_pos (by omega)]
    rfl
  by_cases h₃ : n < 0x10000
  · rw [if_neg h₁, if_neg h₂, if_pos h₃, if_neg (by omega), if_neg (by omega),
      if_pos (by omega)]
    rfl
  · rw [if_neg h₁, if_neg h₂, if_neg h₃, if_neg (by omega), if_neg (by omega),
      if_neg (by omega)]
    rfl

/-- A text takes as many bytes as it has. -/
theorem encode_length (cs : List Char) : (encode cs).length = size cs := by
  suffices h : ∀ n, cs.foldl (fun n c => n + c.utf8Size) n = n + (encode cs).length by
    rw [size, h 0, Nat.zero_add]
  induction cs with
  | nil => intro n; rfl
  | cons c cs ih =>
    intro n
    rw [List.foldl_cons, ih, encode_cons, List.length_append, encodeChar_length, Nat.add_assoc]

/-! ## Section 4: What decodes is the bytes of a text -/

/-- What has been scanned stays. -/
theorem scan_done (done : List (Option Char)) (p : Option Partial) (bs : Bytes) :
    scan done p bs = done.reverse ++ scan [] p bs := by
  induction bs generalizing done p with
  | nil => cases p <;> simp [scan]
  | cons b bs ih =>
    -- Whatever the byte adds to what was scanned, the rest adds to that.
    have hpush : ∀ (first : List (Option Char)) (p : Option Partial),
        scan (first ++ done) p bs = done.reverse ++ scan first p bs := by
      intro first p
      rw [ih (first ++ done), ih first, List.reverse_append, List.append_assoc]
    cases p with
    | none =>
      rw [scan, scan]
      cases lead b with
      | complete c => exact hpush [some c] none
      | begins p => exact hpush [] (some p)
      | illFormed => exact hpush [none] none
    | some p =>
      rw [scan, scan]
      split
      · dsimp only
        split
        · exact hpush [_] none
        · exact hpush [] _
      · cases lead b with
        | complete c => exact hpush [some c, none] none
        | begins p => exact hpush [none] (some p)
        | illFormed => exact hpush [none, none] none

/-- Pieces none of which is ill-formed. -/
def Clean (ps : List (Option Char)) : Prop :=
  none ∉ ps

theorem not_clean {done : List (Option Char)} {p : Option Partial} {bs : Bytes}
    (h : none ∈ done) : ¬Clean (scan done p bs) := by
  intro hclean
  rw [scan_done] at hclean
  exact hclean (List.mem_append_left _ (List.mem_reverse.mpr h))

/-- A character that has begun goes on with a byte of its range. -/
theorem clean_partial {done : List (Option Char)} {missing low high value : Nat} {bs : Bytes}
    (h : Clean (scan done (some ⟨missing, low, high, value⟩) bs)) :
    ∃ b rest, bs = b :: rest ∧ low ≤ b.toNat ∧ b.toNat ≤ high := by
  cases bs with
  | nil => exact absurd h (by simp [Clean, scan])
  | cons b rest =>
    refine ⟨b, rest, rfl, ?_⟩
    by_cases hrange : low ≤ b.toNat ∧ b.toNat ≤ high
    · exact hrange
    · exfalso
      rw [scan, if_neg hrange] at h
      cases hl : lead b <;> simp only [hl] at h <;> exact not_clean (by simp) h

/-- If more than one byte is missing it then goes on with the next one. -/
theorem clean_more {missing low high value : Nat} {bs : Bytes}
    (h : Clean (scan [] (some ⟨missing + 2, low, high, value⟩) bs)) :
    ∃ b rest, bs = b :: rest ∧ low ≤ b.toNat ∧ b.toNat ≤ high ∧
      Clean (scan [] (some ⟨missing + 1, 0x80, 0xBF, value * 0x40 + (b.toNat - 0x80)⟩) rest) := by
  obtain ⟨b, rest, rfl, hlow, hhigh⟩ := clean_partial h
  rw [scan_more rfl hlow hhigh] at h
  exact ⟨b, rest, rfl, hlow, hhigh, h⟩

/-- What a byte says that is a character. -/
theorem lead_complete {b : UInt8} {c : Char} (h : lead b = .complete c) :
    b.toNat < 0x80 ∧ c = Char.ofNat b.toNat := by
  by_cases hn : b.toNat < 0x80
  · rw [lead_one hn] at h
    cases h
    exact ⟨hn, rfl⟩
  · unfold lead at h
    rw [if_neg hn] at h
    repeat' split at h
    all_goals cases h

/-- What a byte says that begins a longer character. -/
theorem lead_begins {b : UInt8} {p : Partial} (h : lead b = .begins p) :
    (0xC2 ≤ b.toNat ∧ b.toNat < 0xE0 ∧ p = ⟨1, 0x80, 0xBF, b.toNat - 0xC0⟩) ∨
    (0xE0 ≤ b.toNat ∧ b.toNat < 0xF0 ∧ ∃ low high, p = ⟨2, low, high, b.toNat - 0xE0⟩ ∧
      0x80 ≤ low ∧ high ≤ 0xBF ∧ (b.toNat = 0xE0 → low = 0xA0) ∧
      (b.toNat = 0xED → high = 0x9F)) ∨
    (0xF0 ≤ b.toNat ∧ b.toNat ≤ 0xF4 ∧ ∃ low high, p = ⟨3, low, high, b.toNat - 0xF0⟩ ∧
      0x80 ≤ low ∧ high ≤ 0xBF ∧ (b.toNat = 0xF0 → low = 0x90) ∧
      (b.toNat = 0xF4 → high = 0x8F)) := by
  unfold lead at h
  generalize b.toNat = n at h
  simp only at h
  by_cases h₁ : n < 0xC2
  · rw [if_pos h₁] at h
    split at h <;> cases h
  rw [if_neg (by omega), if_neg h₁] at h
  by_cases h₂ : n < 0xE0
  · rw [if_pos h₂] at h
    cases h
    exact Or.inl ⟨by omega, h₂, rfl⟩
  rw [if_neg h₂] at h
  by_cases h₃ : n < 0xF0
  · refine Or.inr (Or.inl ⟨by omega, h₃, ?_⟩)
    by_cases h₀ : n = 0xE0
    · rw [if_pos h₀] at h
      cases h
      exact ⟨0xA0, 0xBF, by rw [h₀], by omega, by omega, by omega, by omega⟩
    by_cases hd : n = 0xED
    · rw [if_neg h₀, if_pos hd] at h
      cases h
      exact ⟨0x80, 0x9F, rfl, by omega, by omega, by omega, by omega⟩
    · rw [if_neg h₀, if_neg hd, if_pos h₃] at h
      cases h
      exact ⟨0x80, 0xBF, rfl, by omega, by omega, by omega, by omega⟩
  rw [if_neg (by omega), if_neg (by omega), if_neg h₃] at h
  by_cases h₄ : n ≤ 0xF4
  · refine Or.inr (Or.inr ⟨by omega, h₄, ?_⟩)
    by_cases h₀ : n = 0xF0
    · rw [if_pos h₀] at h
      cases h
      exact ⟨0x90, 0xBF, by rw [h₀], by omega, by omega, by omega, by omega⟩
    by_cases h₅ : n = 0xF4
    · rw [if_neg h₀, if_neg (by omega), if_pos h₅] at h
      cases h
      exact ⟨0x80, 0x8F, rfl, by omega, by omega, by omega, by omega⟩
    · rw [if_neg h₀, if_pos (by omega)] at h
      cases h
      exact ⟨0x80, 0xBF, rfl, by omega, by omega, by omega, by omega⟩
  · rw [if_neg (by omega), if_neg (by omega), if_neg (by omega)] at h
    cases h

theorem toNat_ofNat {n : Nat} (h : n < 0xD800 ∨ 0xDFFF < n ∧ n < 0x110000) :
    (Char.ofNat n).toNat = n := by
  unfold Char.ofNat
  rw [dif_pos (show n.isValidChar from h)]
  rfl

theorem toUInt8_eq {n : Nat} {b : UInt8} (h : n = b.toNat) : n.toUInt8 = b := by
  rw [h, Nat.toUInt8_eq, UInt8.ofNat_toNat]

/-- If no piece is ill-formed the bytes begin with those of a character. -/
theorem clean_first {b : UInt8} {bs : Bytes} (h : Clean (scan [] none (b :: bs))) :
    ∃ c rest, b :: bs = encodeChar c ++ rest := by
  cases hl : lead b with
  | illFormed =>
    rw [scan, hl] at h
    exact absurd h (not_clean (by simp))
  | complete c =>
    obtain ⟨hn, rfl⟩ := lead_complete hl
    refine ⟨Char.ofNat b.toNat, bs, ?_⟩
    unfold encodeChar
    rw [toNat_ofNat (by omega), if_pos hn, toUInt8_eq rfl]
    rfl
  | begins p =>
    -- The range of the second byte is what makes the code point one that takes
    -- as many bytes as there are.
    rw [scan_begin hl] at h
    rcases lead_begins hl with ⟨hn, hn', rfl⟩ | ⟨hn, hn', low, high, rfl, hrange⟩ |
      ⟨hn, hn', low, high, rfl, hrange⟩
    · obtain ⟨b₂, bs, rfl, hlow, hhigh⟩ := clean_partial h
      refine ⟨Char.ofNat ((b.toNat - 0xC0) * 0x40 + (b₂.toNat - 0x80)), bs, ?_⟩
      unfold encodeChar
      rw [toNat_ofNat (by omega), if_neg (by omega), if_pos (by omega),
        toUInt8_eq (b := b) (by omega), toUInt8_eq (b := b₂) (by omega)]
      rfl
    · obtain ⟨b₂, bs, rfl, hlow, hhigh, h⟩ := clean_more h
      obtain ⟨b₃, bs, rfl, hlow₃, hhigh₃⟩ := clean_partial h
      refine ⟨Char.ofNat (((b.toNat - 0xE0) * 0x40 + (b₂.toNat - 0x80)) * 0x40
        + (b₃.toNat - 0x80)), bs, ?_⟩
      unfold encodeChar
      rw [toNat_ofNat (by omega), if_neg (by omega), if_neg (by omega), if_pos (by omega),
        toUInt8_eq (b := b) (by omega), toUInt8_eq (b := b₂) (by omega),
        toUInt8_eq (b := b₃) (by omega)]
      rfl
    · obtain ⟨b₂, bs, rfl, hlow, hhigh, h⟩ := clean_more h
      obtain ⟨b₃, bs, rfl, hlow₃, hhigh₃, h⟩ := clean_more h
      obtain ⟨b₄, bs, rfl, hlow₄, hhigh₄⟩ := clean_partial h
      refine ⟨Char.ofNat ((((b.toNat - 0xF0) * 0x40 + (b₂.toNat - 0x80)) * 0x40
        + (b₃.toNat - 0x80)) * 0x40 + (b₄.toNat - 0x80)), bs, ?_⟩
      unfold encodeChar
      rw [toNat_ofNat (by omega), if_neg (by omega), if_neg (by omega), if_neg (by omega),
        toUInt8_eq (b := b) (by omega), toUInt8_eq (b := b₂) (by omega),
        toUInt8_eq (b := b₃) (by omega), toUInt8_eq (b := b₄) (by omega)]
      rfl

/-- If no piece is ill-formed the bytes are those of a text. -/
theorem clean_encode (bs : Bytes) (h : Clean (scan [] none bs)) : ∃ cs, bs = encode cs := by
  cases bs with
  | nil => exact ⟨[], rfl⟩
  | cons b bs =>
    obtain ⟨c, rest, hbs⟩ := clean_first h
    have hlt : rest.length < (b :: bs).length := by
      have hpos := Char.utf8Size_pos c
      rw [hbs, List.length_append, encodeChar_length]
      omega
    rw [hbs, scan_encodeChar, scan_done] at h
    obtain ⟨cs, hcs⟩ := clean_encode rest fun hmem => h (List.mem_append_right _ hmem)
    exact ⟨c :: cs, by rw [hbs, hcs, encode_cons]⟩
termination_by bs.length

/-- **What decodes strictly is exactly the bytes of a text.** -/
theorem decode?_eq_some {bs : Bytes} {cs : List Char} : decode? bs = some cs ↔ bs = encode cs := by
  constructor
  · intro h
    have hclean : Clean (scan [] none bs) := by
      intro hmem
      have hall : ¬(pieces bs).all Option.isSome = true := fun hall =>
        absurd (List.all_eq_true.mp hall none hmem) nofun
      rw [decode?, if_neg hall] at h
      cases h
    obtain ⟨cs', rfl⟩ := clean_encode bs hclean
    rw [decode?_encode] at h
    rw [Option.some.inj h]
  · rintro rfl
    exact decode?_encode cs

/-! ## Section 5: The order of texts -/

theorem toUInt8_lt {m n : Nat} (hm : m < 0x100) (hn : n < 0x100) :
    m.toUInt8 < n.toUInt8 ↔ m < n := by
  rw [UInt8.lt_iff_toNat_lt, toNat_toUInt8 hm, toNat_toUInt8 hn]

theorem toUInt8_inj {m n : Nat} (hm : m < 0x100) (hn : n < 0x100) :
    m.toUInt8 = n.toUInt8 ↔ m = n := by
  rw [← UInt8.toNat_inj, toNat_toUInt8 hm, toNat_toUInt8 hn]

/-- The bytes of the lesser one of two characters come first, whatever follows
    them. -/
theorem encodeChar_append_lt {c d : Char} (h : c < d) (bs bs' : Bytes) :
    encodeChar c ++ bs < encodeChar d ++ bs' := by
  have hc := toNat_valid c
  have hd := toNat_valid d
  have hlt : c.toNat < d.toNat := h
  unfold encodeChar
  generalize c.toNat = m at hc hlt
  generalize d.toNat = n at hd hlt
  -- The first byte tells how many there are, and is greater if there are more;
  -- of as many bytes the first one that differs decides.
  dsimp only
  repeat' split
  all_goals
    simp (disch := omega) only [List.cons_append, List.nil_append, List.cons_lt_cons_iff,
      toUInt8_lt, toUInt8_inj]
    omega

/-- **The order of texts is that of their bytes.** -/
theorem encode_lt {cs ds : List Char} (h : cs < ds) : encode cs < encode ds := by
  induction h with
  | @nil d ds =>
    have hpos := Char.utf8Size_pos d
    show [] < encode (d :: ds)
    cases hbs : encode (d :: ds) with
    | nil =>
      have hlength := congrArg List.length hbs
      rw [encode_cons, List.length_append, encodeChar_length, List.length_nil] at hlength
      omega
    | cons b bs => exact List.nil_lt_cons b bs
  | rel hlt =>
    rw [encode_cons, encode_cons]
    exact encodeChar_append_lt hlt _ _
  | cons _ ih =>
    rw [encode_cons, encode_cons]
    exact List.append_left_lt ih

end BatchFilter.Utf8
