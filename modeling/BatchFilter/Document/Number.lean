import BatchFilter.Text.Digits

/-! # Numbers of a Document

    A document's number matters here only as an integer.  Of the others it
    is enough to know whether they are small enough to be held as a
    double-precision number, or are refused by whoever reads them. -/

namespace BatchFilter

/-- A number as a document gives it. -/
inductive Number where
  /-- An integer. -/
  | int (n : Int)
  /-- Any other number that a double-precision number can approximate. -/
  | real
  /-- A number past the largest double-precision one. -/
  | overflow
  deriving DecidableEq

namespace Number

/-- The least magnitude that rounds past the largest double-precision
    number: halfway between it and the next power of two. -/
def overflowBound : Nat := Nat.pow 2 1024 - Nat.pow 2 970

/-- How many digits `overflowBound` has. -/
def overflowPlaces : Nat := 309

/-- Is a number at least `overflowBound`, the point standing behind its last
    digit and then `exponent` places further on?  Of a number with as many
    places as the bound only those places count. -/
def overflows (digits : List Char) (exponent : Int) : Bool :=
  let digits := digits.dropWhile (· == '0')
  let places : Int := digits.length + exponent
  if digits.isEmpty ∨ places < overflowPlaces then false
  else if overflowPlaces < places then true
  else
    let zeros := List.replicate (overflowPlaces - digits.length) '0'
    overflowBound ≤ Digits.number 10 (digits.take overflowPlaces ++ zeros)

/-- The number that decimal digits with a fraction and an exponent denote,
    whatever its sign. -/
def ofDecimal (whole fraction : List Char) (exponent : Int) : Number :=
  if overflows (whole ++ fraction) (exponent - fraction.length) then .overflow else .real

/-- The least and the greatest integer that fit a signed or an unsigned
    word of so many bits. -/
def fits (bits : Nat) : Number → Bool
  | .int n => -(Int.pow 2 (bits - 1)) ≤ n ∧ n < Int.pow 2 bits
  | .real => true
  | .overflow => false

end Number

end BatchFilter
