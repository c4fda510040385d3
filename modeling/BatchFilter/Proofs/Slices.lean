import BatchFilter.Proofs.Encoding
import Mathlib.Data.List.Infix

/-! # Texts Inside Bytes

    Bytes are cut into characters without regard to what is around them,
    wherever a cut falls before a byte that does not continue a character.
    Such a byte is the first one of every text.  So a text that occurs among
    bytes, well-formed or not, occurs in what they decode to, between what
    comes before it and what comes after it.

    * `Utf8.scan_append`: scanning up to a cut and on from there.
    * `Utf8.decodeLossy_slice`: decoding around a text.
    * `Utf8.encode_prefix`, `Utf8.encode_suffix`: where the bytes of a text
      are found in those of another one. -/

namespace BatchFilter.Utf8

/-! ## Section 1: Cuts -/

/-- Bytes that do not begin with one that continues a character. -/
def Begins (bs : Bytes) : Prop :=
  ∀ b ∈ bs.head?, b.toNat < 0x80 ∨ 0xBF < b.toNat

/-- A character that has begun goes on with bytes that continue one. -/
def Partial.Inner (p : Partial) : Prop :=
  0x80 ≤ p.low ∧ p.high ≤ 0xBF

/-- What a byte begins goes on with bytes that continue a character. -/
theorem lead_inner {b : UInt8} {p : Partial} (h : lead b = .begins p) : p.Inner := by
  unfold Partial.Inner
  rcases lead_begins h with ⟨_, _, rfl⟩ | ⟨_, _, low, high, rfl, hlow, hhigh, _⟩ |
    ⟨_, _, low, high, rfl, hlow, hhigh, _⟩
  · exact ⟨Nat.le_refl _, Nat.le_refl _⟩
  · exact ⟨hlow, hhigh⟩
  · exact ⟨hlow, hhigh⟩

/-- A character that is cut short is an ill-formed piece of its own. -/
theorem scan_cut {p : Partial} (hp : p.Inner) {bs : Bytes} (h : Begins bs) :
    scan [] (some p) bs = none :: scan [] none bs := by
  cases bs with
  | nil => rfl
  | cons b bs =>
    have hb := h b rfl
    have hout : ¬(p.low ≤ b.toNat ∧ b.toNat ≤ p.high) := by
      unfold Partial.Inner at hp
      omega
    have hpush : ∀ (first : List (Option Char)) (q : Option Partial),
        scan (first ++ [none]) q bs = none :: scan first q bs := by
      intro first q
      rw [scan_done, scan_done first, List.reverse_append]
      rfl
    conv_lhs => rw [scan, if_neg hout]
    rw [scan]
    cases lead b with
    | complete c => exact hpush [some c] none
    | begins q => exact hpush [] (some q)
    | illFormed => exact hpush [none] none

/-- **Bytes are scanned up to a cut, and then on from there.** -/
theorem scan_append (as : Bytes) {bs : Bytes} (h : Begins bs) (p : Option Partial)
    (hp : ∀ q ∈ p, q.Inner) : scan [] p (as ++ bs) = scan [] p as ++ scan [] none bs := by
  induction as generalizing p with
  | nil =>
    cases p with
    | none => rfl
    | some p => exact scan_cut (hp p rfl) h
  | cons a as ih =>
    -- Wherever the first byte leads, the rest is scanned up to the cut.
    have hrest : ∀ (done : List (Option Char)) (p : Option Partial), (∀ q ∈ p, q.Inner) →
        scan done p (as ++ bs) = scan done p as ++ scan [] none bs := by
      intro done p hp
      rw [scan_done, scan_done done p as, ih p hp, List.append_assoc]
    have hnone : ∀ q ∈ (none : Option Partial), q.Inner := by simp
    have hsome : ∀ {q : Partial}, q.Inner → ∀ q' ∈ some q, q'.Inner := by simp
    rw [List.cons_append]
    cases p with
    | none =>
      rw [scan, scan]
      cases hl : lead a with
      | complete c => exact hrest [some c] none hnone
      | begins q => exact hrest [] (some q) (hsome (lead_inner hl))
      | illFormed => exact hrest [none] none hnone
    | some p =>
      rw [scan, scan]
      split
      · dsimp only
        split
        · exact hrest [_] none hnone
        · exact hrest [] (some _) (hsome (by simp [Partial.Inner]))
      · cases hl : lead a with
        | complete c => exact hrest [some c, none] none hnone
        | begins q => exact hrest [none] (some q) (hsome (lead_inner hl))
        | illFormed => exact hrest [none, none] none hnone

/-! ## Section 2: Texts -/

/-- The first byte of a character does not continue one. -/
theorem begins_encodeChar (c : Char) (bs : Bytes) : Begins (encodeChar c ++ bs) := by
  have hvalid := toNat_valid c
  unfold encodeChar
  generalize c.toNat = n at hvalid
  dsimp only
  repeat' split
  all_goals
    rintro b ⟨⟩
    rw [toNat_toUInt8 (by omega)]
    omega

/-- **What is around a text is decoded as if it were alone.** -/
theorem decodeLossy_slice (as bs : Bytes) {cs : List Char} (hcs : cs ≠ []) :
    decodeLossy (as ++ encode cs ++ bs) = decodeLossy as ++ cs ++ decodeLossy bs := by
  have hbegins : Begins (encode cs ++ bs) := by
    obtain ⟨c, cs, rfl⟩ := List.exists_cons_of_ne_nil hcs
    rw [encode_cons, List.append_assoc]
    exact begins_encodeChar c _
  have htext : scan [] none (encode cs ++ bs) = cs.map some ++ scan [] none bs := by
    rw [scan_encode, scan_done, List.append_nil, List.reverse_reverse]
  unfold decodeLossy pieces
  rw [List.append_assoc, scan_append as hbegins none (by simp), htext, List.map_append,
    List.map_append, List.map_map]
  show _ ++ (cs.map id ++ _) = _
  rw [List.map_id, List.append_assoc]

/-- What follows a text is decoded as if it were alone, also if the text is
    empty. -/
theorem decodeLossy_append (cs : List Char) (bs : Bytes) :
    decodeLossy (encode cs ++ bs) = cs ++ decodeLossy bs := by
  by_cases hcs : cs = []
  · rw [hcs]
    rfl
  · have hslice := decodeLossy_slice [] bs hcs
    exact hslice

/-- So is what a text follows. -/
theorem decodeLossy_append_encode (as : Bytes) (cs : List Char) :
    decodeLossy (as ++ encode cs) = decodeLossy as ++ cs := by
  by_cases hcs : cs = []
  · rw [hcs]
    show decodeLossy (as ++ []) = _
    rw [List.append_nil, List.append_nil]
  · have hslice := decodeLossy_slice as [] hcs
    rw [List.append_nil] at hslice
    rw [hslice]
    exact List.append_nil _

theorem encode_append (cs ds : List Char) : encode (cs ++ ds) = encode cs ++ encode ds :=
  List.flatMap_append

/-- **A text begins with another one if its bytes do.** -/
theorem encode_prefix {cs ds : List Char} : encode cs <+: encode ds ↔ cs <+: ds := by
  constructor
  · rintro ⟨bs, hbs⟩
    refine ⟨decodeLossy bs, ?_⟩
    rw [← decodeLossy_append, hbs, decodeLossy_encode]
  · rintro ⟨es, rfl⟩
    rw [encode_append]
    exact List.prefix_append _ _

/-- **A text ends with another one if its bytes do.** -/
theorem encode_suffix {cs ds : List Char} : encode cs <:+ encode ds ↔ cs <:+ ds := by
  constructor
  · rintro ⟨as, has⟩
    refine ⟨decodeLossy as, ?_⟩
    rw [← decodeLossy_append_encode, has, decodeLossy_encode]
  · rintro ⟨es, rfl⟩
    rw [encode_append]
    exact List.suffix_append _ _

/-- The bytes of a text are found where the text is. -/
theorem encode_infix {cs ds : List Char} (h : cs <:+: ds) : encode cs <:+: encode ds := by
  obtain ⟨as, bs, rfl⟩ := h
  rw [encode_append, encode_append]
  exact List.infix_append _ _ _

end BatchFilter.Utf8
