import BatchFilter.Text.Utf8

/-! # Sources

    A source delivers bytes in pieces, as a buffered reader does, and then
    either ends or fails.  Bytes are taken from the front; a piece that is
    used up makes room for the next one.  How the bytes are cut into pieces
    is nobody's business but the source's. -/

namespace BatchFilter

/-- Where bytes come from. -/
structure Source where
  /-- The pieces that are left. -/
  pieces : List Bytes
  /-- What happens after the last piece: nothing, or this failure. -/
  failure : Option String := none
  deriving DecidableEq

/-- The byte that ends a line. -/
def lineFeed : UInt8 := 0x0A

/-- The byte that may come before the end of a line. -/
def carriageReturn : UInt8 := 0x0D

namespace Source

/-- All the bytes that are left. -/
def bytes (s : Source) : Bytes :=
  s.pieces.flatten

/-! ## Section 1: Up to a line feed -/

/-- Why bytes were no longer taken from a piece. -/
inductive Halt where
  /-- The line feed was taken. -/
  | lineFeed
  /-- As many bytes were taken as were wanted. -/
  | full
  /-- The piece has no more; so many bytes are still wanted. -/
  | empty (wanted : Nat)
  deriving DecidableEq

/-- Take at most `wanted` bytes of a piece, up to and including a line feed,
    and put them in front of `taken` (newest first).  Gives what was taken,
    what is left of the piece, and why it ended. -/
def takeFrom (taken : Bytes) : Nat → Bytes → Bytes × Bytes × Halt
  | 0, piece => (taken, piece, .full)
  | wanted + 1, [] => (taken, [], .empty (wanted + 1))
  | wanted + 1, b :: piece =>
      if b = BatchFilter.lineFeed then (b :: taken, piece, .lineFeed)
      else takeFrom (b :: taken) wanted piece

/-- Take at most `wanted` bytes of the pieces, up to and including a line
    feed.  `none` if the pieces ran out before either. -/
def takeLine (taken : Bytes) (wanted : Nat) : List Bytes → Bytes × List Bytes × Bool
  | [] => (taken, [], wanted == 0)
  | piece :: rest =>
      match takeFrom taken wanted piece with
      | (taken, _, .empty wanted) => takeLine taken wanted rest
      | (taken, left, _) => (taken, left :: rest, true)

/-! ## Section 2: Past a line feed -/

/-- Drop bytes of a piece up to and including a line feed: how many were
    dropped on top of `count`, what is left, and whether there was one. -/
def dropFrom (count : Nat) : Bytes → Nat × Bytes × Bool
  | [] => (count, [], false)
  | b :: piece =>
      if b = BatchFilter.lineFeed then (count + 1, piece, true)
      else dropFrom (count + 1) piece

/-- Drop bytes of the pieces up to and including a line feed. -/
def dropLine (count : Nat) : List Bytes → Nat × List Bytes × Bool
  | [] => (count, [], false)
  | piece :: rest =>
      match dropFrom count piece with
      | (count, left, true) => (count, left :: rest, true)
      | (count, _, false) => dropLine count rest

/-! ## Section 3: No byte is lost -/

theorem takeFrom_length (taken : Bytes) (wanted : Nat) (piece : Bytes) :
    (takeFrom taken wanted piece).1.length + (takeFrom taken wanted piece).2.1.length
      = taken.length + piece.length := by
  induction piece generalizing taken wanted with
  | nil => cases wanted <;> simp [takeFrom]
  | cons b piece ih =>
    cases wanted with
    | zero => simp [takeFrom]
    | succ wanted =>
      rw [takeFrom]
      split
      · simp
        omega
      · rw [ih]
        simp
        omega

theorem takeFrom_le (taken : Bytes) (wanted : Nat) (piece : Bytes) :
    taken.length ≤ (takeFrom taken wanted piece).1.length := by
  induction piece generalizing taken wanted with
  | nil => cases wanted <;> simp [takeFrom]
  | cons b piece ih =>
    cases wanted with
    | zero => simp [takeFrom]
    | succ wanted =>
      rw [takeFrom]
      split
      · simp
      · exact Nat.le_trans (by simp) (ih (b :: taken) wanted)

/-- Whatever ends the taking, an empty piece is one that was used up. -/
theorem takeFrom_empty {taken : Bytes} {wanted : Nat} {piece : Bytes}
    {taken' left : Bytes} {wanted' : Nat}
    (h : takeFrom taken wanted piece = (taken', left, .empty wanted')) :
    left = [] ∧ 0 < wanted' := by
  induction piece generalizing taken wanted with
  | nil =>
    cases wanted with
    | zero => simp [takeFrom] at h
    | succ wanted =>
      simp only [takeFrom, Prod.mk.injEq, Halt.empty.injEq] at h
      exact ⟨h.2.1.symm, by omega⟩
  | cons b piece ih =>
    cases wanted with
    | zero => simp [takeFrom] at h
    | succ wanted =>
      rw [takeFrom] at h
      split at h
      · simp at h
      · exact ih h

theorem takeFrom_length_lt {taken : Bytes} {wanted : Nat} {piece : Bytes}
    (hw : 0 < wanted) (h : ∀ n, (takeFrom taken wanted piece).2.2 ≠ .empty n) :
    taken.length < (takeFrom taken wanted piece).1.length := by
  induction piece generalizing taken wanted with
  | nil =>
    cases wanted with
    | zero => omega
    | succ wanted => exact absurd rfl (h (wanted + 1))
  | cons b piece ih =>
    cases wanted with
    | zero => omega
    | succ wanted =>
      rw [takeFrom] at h ⊢
      split
      · simp
      · rename_i hb
        rw [if_neg hb] at h
        cases wanted with
        | zero => cases piece <;> simp [takeFrom]
        | succ wanted =>
          have := ih (Nat.succ_pos wanted) h
          simp only [List.length_cons, Nat.succ_eq_add_one] at this ⊢
          omega

theorem takeLine_length (taken : Bytes) (wanted : Nat) (pieces : List Bytes) :
    (takeLine taken wanted pieces).1.length
        + (takeLine taken wanted pieces).2.1.flatten.length
      = taken.length + pieces.flatten.length := by
  induction pieces generalizing taken wanted with
  | nil => simp [takeLine]
  | cons piece rest ih =>
    have hl := takeFrom_length taken wanted piece
    rw [takeLine]
    split
    · rename_i taken' left wanted' heq
      obtain ⟨rfl, _⟩ := takeFrom_empty heq
      rw [heq] at hl
      rw [ih]
      simp only [List.length_nil, List.flatten_cons, List.length_append] at hl ⊢
      omega
    · rename_i taken' left halt _ heq
      rw [heq] at hl
      simp only [List.flatten_cons, List.length_append] at hl ⊢
      omega

theorem takeLine_length_lt {taken : Bytes} {wanted : Nat} {pieces : List Bytes}
    (hw : 0 < wanted) (h : (takeLine taken wanted pieces).2.2 = true) :
    taken.length < (takeLine taken wanted pieces).1.length := by
  induction pieces generalizing taken wanted with
  | nil => simp [takeLine] at h; omega
  | cons piece rest ih =>
    have hl := takeFrom_length taken wanted piece
    rw [takeLine] at h ⊢
    split
    · rename_i taken' left wanted' heq
      obtain ⟨rfl, hw'⟩ := takeFrom_empty heq
      rw [heq] at hl h
      have hlt := ih hw' h
      have hle : taken.length ≤ taken'.length := by
        have := takeFrom_le taken wanted piece
        rw [heq] at this
        exact this
      omega
    · rename_i taken' left halt hne heq
      have hlt := @takeFrom_length_lt taken wanted piece hw (by
        rw [heq]
        exact fun n hn => hne n hn)
      rw [heq] at hlt
      exact hlt

theorem dropFrom_length (count : Nat) (piece : Bytes) :
    (dropFrom count piece).1 + (dropFrom count piece).2.1.length
      = count + piece.length := by
  induction piece generalizing count with
  | nil => simp [dropFrom]
  | cons b piece ih =>
    rw [dropFrom]
    split
    · simp
      omega
    · rw [ih]
      simp
      omega

theorem dropFrom_false {count : Nat} {piece : Bytes} {count' : Nat} {left : Bytes}
    (h : dropFrom count piece = (count', left, false)) : left = [] := by
  induction piece generalizing count with
  | nil => simp_all [dropFrom]
  | cons b piece ih =>
    rw [dropFrom] at h
    split at h
    · simp at h
    · exact ih h

theorem dropLine_length (count : Nat) (pieces : List Bytes) :
    (dropLine count pieces).1 + (dropLine count pieces).2.1.flatten.length
      = count + pieces.flatten.length := by
  induction pieces generalizing count with
  | nil => simp [dropLine]
  | cons piece rest ih =>
    have hd := dropFrom_length count piece
    rw [dropLine]
    split
    · rename_i count' left heq
      rw [heq] at hd
      simp only [List.flatten_cons, List.length_append] at hd ⊢
      omega
    · rename_i count' left heq
      have hleft := dropFrom_false heq
      rw [heq] at hd
      rw [ih]
      subst hleft
      simp only [List.length_nil, List.flatten_cons, List.length_append] at hd ⊢
      omega

theorem le_dropFrom (count : Nat) (piece : Bytes) :
    count ≤ (dropFrom count piece).1 := by
  induction piece generalizing count with
  | nil => simp [dropFrom]
  | cons b piece ih =>
    rw [dropFrom]
    split
    · simp
    · exact Nat.le_trans (Nat.le_succ count) (ih (count + 1))

theorem le_dropLine (count : Nat) (pieces : List Bytes) :
    count ≤ (dropLine count pieces).1 := by
  induction pieces generalizing count with
  | nil => simp [dropLine]
  | cons piece rest ih =>
    have hd := le_dropFrom count piece
    rw [dropLine]
    split
    · rename_i heq
      rw [heq] at hd
      exact hd
    · rename_i heq
      rw [heq] at hd
      exact Nat.le_trans hd (ih _)

end Source

end BatchFilter
