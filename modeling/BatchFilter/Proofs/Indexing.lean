import BatchFilter.Batch

/-! # Signed Indices

    Indices name the parts of a batch from the start and, if they are
    negative, from the end.  A part that is seen alone is indexed by two
    fixed cases instead, which are what a batch of one part has.

    * `Batch.wordPosition?`: positions in machine words, where the least
      index has no opposite.
    * `Batch.get?_eq`: the part at an index.
    * `Batch.indices_agree`: all ways to index, next to each other. -/

namespace BatchFilter

namespace Batch

/-! ## Section 1: Positions in words -/

/-- The position that a signed index names among `n` parts, in words of 64
    bits.  The absolute value of the least index is that index again, and as an
    unsigned word its true distance from the end. -/
def wordPosition? (i : Int64) (n : UInt64) : Option UInt64 :=
  if 0 ≤ i then some i.toUInt64
  else
    let back := i.abs.toUInt64
    if back ≤ n then some (n - back) else none

theorem toNat_toUInt64 {i : Int64} (h : 0 ≤ i.toInt) : i.toUInt64.toNat = i.toInt.toNat := by
  have hlt := i.toBitVec.isLt
  have hint : i.toInt = _ := BitVec.toInt_eq_msb_cond i.toBitVec
  have hnat : i.toUInt64.toNat = i.toBitVec.toNat := rfl
  split at hint <;> omega

/-- The absolute value does not overflow as an unsigned word. -/
theorem toNat_abs (i : Int64) : i.abs.toUInt64.toNat = i.toInt.natAbs := by
  have hlt := i.toBitVec.isLt
  have hint : i.toInt = _ := BitVec.toInt_eq_msb_cond i.toBitVec
  have hnat : i.abs.toUInt64.toNat = _ := BitVec.toNat_abs (x := i.toBitVec)
  split at hint <;> split at hnat <;> first | contradiction | omega

/-- **Nothing overflows.**  Positions in words are those in unbounded
    numbers. -/
theorem wordPosition?_eq (i : Int64) (n : UInt64) :
    (wordPosition? i n).map UInt64.toNat = position? i n.toNat := by
  have hsign : 0 ≤ i ↔ 0 ≤ i.toInt := Int64.le_iff_toInt_le
  have hroom : i.abs.toUInt64 ≤ n ↔ i.toInt.natAbs ≤ n.toNat := by
    rw [UInt64.le_iff_toNat_le, toNat_abs]
  unfold wordPosition? position?
  dsimp only
  by_cases hpos : 0 ≤ i.toInt
  · rw [if_pos (hsign.mpr hpos), if_pos hpos, Option.map_some, toNat_toUInt64 hpos]
  rw [if_neg (mt hsign.mp hpos), if_neg hpos]
  by_cases hback : i.toInt.natAbs ≤ n.toNat
  · rw [if_pos (hroom.mpr hback), if_pos hback, Option.map_some,
      UInt64.toNat_sub_of_le _ _ (hroom.mpr hback), toNat_abs]
  · rw [if_neg (mt hroom.mp hback), if_neg hback, Option.map_none]

/-! ## Section 2: Parts at positions -/

/-- **The part at an index** is counted from the start or from the end, and
    there is none past either of them. -/
theorem get?_eq (b : Batch) (i : Int64) :
    b.get? i =
      if 0 ≤ i.toInt ∧ i.toInt < b.parts.length then b.parts[i.toInt.toNat]?
      else if -(b.parts.length : Int) ≤ i.toInt ∧ i.toInt < 0 then
        b.parts[(b.parts.length + i.toInt).toNat]?
      else none := by
  unfold get? position? size
  dsimp only
  by_cases hpos : 0 ≤ i.toInt
  · rw [if_pos hpos, Option.bind_some]
    by_cases hlt : i.toInt < b.parts.length
    · rw [if_pos ⟨hpos, hlt⟩]
    · rw [if_neg (fun h => hlt h.2), if_neg (by omega)]
      exact List.getElem?_eq_none (by omega)
  rw [if_neg hpos]
  by_cases hback : i.toInt.natAbs ≤ b.parts.length
  · have hposition : b.parts.length - i.toInt.natAbs = (b.parts.length + i.toInt).toNat := by
      omega
    rw [if_pos hback, Option.bind_some, hposition, if_neg (by omega), if_pos (by omega)]
  · rw [if_neg hback, Option.bind_none, if_neg (by omega), if_neg (by omega)]

theorem isSome_get? (b : Batch) (i : Int64) :
    (b.get? i).isSome = true ↔
      -(b.parts.length : Int) ≤ i.toInt ∧ i.toInt < b.parts.length := by
  rw [get?_eq]
  split
  · rw [isSome_getElem?]
    omega
  · split
    · rw [isSome_getElem?]
      omega
    · simp only [Option.isSome_none, Bool.false_eq_true, false_iff]
      omega

/-- A part that is seen alone is indexed like a batch of it. -/
theorem get?_singleton (p : Part) (i : Int64) : get? ⟨[p]⟩ i = SinglePart.get? ⟨p⟩ i := by
  have hfirst : i = 0 ↔ i.toInt = 0 := Int64.toInt_inj.symm
  have hlast : i = -1 ↔ i.toInt = -1 := Int64.toInt_inj.symm
  rw [get?_eq, SinglePart.get?]
  simp only [hfirst, hlast, List.length_singleton]
  by_cases hzero : i.toInt = 0
  · simp [hzero]
  by_cases hone : i.toInt = -1
  · simp [hone]
  · rw [if_neg (by omega), if_neg (by omega), if_neg (by omega)]

/-! ## Section 3: All ways to index -/

/-- **Indices from both ends.**  An index from 0 on is a position, a negative one
    counts back from the end, and just those from `-n` to `n - 1` have a part;
    computing in words comes to the same at every index.  Seeing the part at an
    index alone succeeds when there is one and shows that part, and the indices
    of a part that is seen alone are those of a batch of it. -/
theorem indices_agree (b : Batch) (i : Int64) :
    let n := b.parts.length
    (b.get? i =
      if 0 ≤ i.toInt ∧ i.toInt < n then b.parts[i.toInt.toNat]?
      else if -(n : Int) ≤ i.toInt ∧ i.toInt < 0 then b.parts[(n + i.toInt).toNat]?
      else none) ∧
    ((b.get? i).isSome = true ↔ -(n : Int) ≤ i.toInt ∧ i.toInt < n) ∧
    (∀ size : UInt64, (wordPosition? i size).map UInt64.toNat = position? i size.toNat) ∧
    ((b.single? i).isSome = (b.get? i).isSome ∧
      (b.single? i).map SinglePart.part = b.get? i) ∧
    ∀ (p : Part) (j : Int64), (SinglePart.mk p).get? j = (Batch.mk [p]).get? j := by
  intro n
  refine ⟨get?_eq b i, isSome_get? b i, wordPosition?_eq i, ⟨Option.isSome_map, ?_⟩, ?_⟩
  · rw [single?, Option.map_map]
    exact Option.map_id_apply
  · intro p j
    exact (get?_singleton p j).symm

/-- The least and the greatest index, and those at both ends of three parts. -/
example :
    let b : Batch := ⟨[⟨[0x61], ∅⟩, ⟨[0x62], ∅⟩, ⟨[0x63], ∅⟩]⟩
    [Int64.minValue, -4, -3, -1, 0, 2, 3, Int64.maxValue].map (fun i => (b.get? i).map Part.content)
      = [none, none, some [0x61], some [0x63], some [0x61], some [0x63], none, none] := by
  decide

end Batch

end BatchFilter
