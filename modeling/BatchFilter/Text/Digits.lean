/-! # Digits

    The digits of numbers in bases up to sixteen; letters stand for those
    from ten on, in either case. -/

namespace BatchFilter.Digits

/-- The number that a character is a digit for in base sixteen. -/
def hex? (c : Char) : Option Nat :=
  if '0' ≤ c ∧ c ≤ '9' then some (c.toNat - '0'.toNat)
  else if 'a' ≤ c ∧ c ≤ 'f' then some (c.toNat - 'a'.toNat + 10)
  else if 'A' ≤ c ∧ c ≤ 'F' then some (c.toNat - 'A'.toNat + 10)
  else none

/-- Is the character a digit in a base up to sixteen? -/
def isDigit (base : Nat) (c : Char) : Bool :=
  (hex? c).any (· < base)

/-- The number that digits denote in a base. -/
def number (base : Nat) (ds : List Char) : Nat :=
  ds.foldl (fun n d => n * base + (hex? d).getD 0) 0

/-- The number that digits denote in a base, or `limit` if that is less.
    However many digits there are, no greater number is ever held. -/
def numberUpTo (limit base : Nat) (ds : List Char) : Nat :=
  ds.foldl (fun n d => min limit (n * base + (hex? d).getD 0)) 0

theorem min_step (limit base d n : Nat) :
    min limit (min limit n * base + d) = min limit (n * base + d) := by
  rcases Nat.le_total n limit with h | h
  · rw [Nat.min_eq_right h]
  · rw [Nat.min_eq_left h]
    rcases Nat.eq_zero_or_pos base with hb | hb
    · simp [hb]
    · have h1 : limit ≤ limit * base := Nat.le_mul_of_pos_right limit hb
      have h2 : limit * base ≤ n * base := Nat.mul_le_mul_right base h
      omega

theorem numberUpTo_eq (limit base : Nat) (ds : List Char) :
    numberUpTo limit base ds = min limit (number base ds) := by
  suffices h : ∀ n, ds.foldl (fun n d => min limit (n * base + (hex? d).getD 0)) (min limit n)
      = min limit (ds.foldl (fun n d => n * base + (hex? d).getD 0) n) by
    have := h 0
    rwa [Nat.min_eq_right (Nat.zero_le limit)] at this
  induction ds with
  | nil => intro n; rfl
  | cons d ds ih =>
    intro n
    rw [List.foldl_cons, List.foldl_cons, min_step]
    exact ih _

end BatchFilter.Digits
