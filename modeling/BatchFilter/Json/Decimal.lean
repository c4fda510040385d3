import BatchFilter.Document.Number

/-! # Decimal Numbers of JSON

    A JSON number that is no 64-bit integer is approximated in double
    precision in two steps, each of which rounds: its first digits, as many
    as a 64-bit word can hold, and then those times a power of ten.  So which
    numbers are too large is not decided by their exact value alone.

    * `Significand`: the digits that count, and the power of ten.
    * `Significand.overflows`: is the approximation past the largest number?
    * `Number.ofWritten`: the number that is written. -/

namespace BatchFilter

/-! ## Section 1: Rounding -/

/-- How many bits of a number double precision keeps. -/
def Number.precision : Nat := 53

/-- The natural number nearest to `n` that has no more than so many bits up to
    zeros at its end; of two that are equally near, the even one. -/
def Number.nearest (n : Nat) : Nat :=
  let unit := Nat.pow 2 (n.log2 + 1 - precision)
  let quotient := n / unit
  let rest := n % unit
  if unit < 2 * rest ∨ (2 * rest = unit ∧ quotient % 2 = 1) then (quotient + 1) * unit
  else quotient * unit

/-! ## Section 2: Digits -/

/-- `digits * 10 ^ exponent`. -/
structure Significand where
  digits : Nat := 0
  exponent : Int := 0
  deriving DecidableEq

namespace Significand

/-- The digits must stay below this. -/
def digitsLimit : Nat := Nat.pow 2 64

/-- Read the digits in front of the point.  From the first that does not fit
    they only count for the place of the others. -/
def takeWhole (s : Significand) : List Char → Significand
  | [] => s
  | c :: cs =>
      let digits := s.digits * 10 + (c.toNat - '0'.toNat)
      if digits < digitsLimit then takeWhole { s with digits := digits } cs
      else { s with exponent := s.exponent + (c :: cs).length }

/-- Read the digits behind the point.  From the first that does not fit they
    count for nothing.  A digit may fit here although one in front of the
    point did not. -/
def takeFraction (s : Significand) : List Char → Significand
  | [] => s
  | c :: cs =>
      let digits := s.digits * 10 + (c.toNat - '0'.toNat)
      if digits < digitsLimit then takeFraction ⟨digits, s.exponent - 1⟩ cs
      else s

/-- The digits of a written number with the power of ten that they have
    together with the written one. -/
def ofWritten (whole fraction : List Char) (exponent : Int) : Significand :=
  let s := (takeWhole {} whole).takeFraction fraction
  { s with exponent := s.exponent + exponent }

/-- The greatest power of ten in double precision. -/
def greatestPower : Nat := 308

/-- Is the product past the largest double-precision number?  Both factors
    are rounded before the product is. -/
def overflows (s : Significand) : Bool :=
  if s.digits = 0 ∨ s.exponent < 0 then false
  else if greatestPower < s.exponent.toNat then true
  else
    let power := Nat.pow 10 s.exponent.toNat
    Nat.pow 2 1024 ≤ Number.nearest (Number.nearest s.digits * Number.nearest power)

end Significand

/-! ## Section 3: Numbers -/

namespace Number

/-- The number that digits with a power of ten denote. -/
def ofSignificand (s : Significand) : Number :=
  if s.overflows then .overflow else .real

/-- The number of a written one without a fraction and an exponent.  Minus
    zero is no integer, and one that fits no 64-bit word is not kept as
    one. -/
def ofWhole (negative : Bool) (whole : List Char) : Number :=
  let s := Significand.ofWritten whole [] 0
  let value : Int := if negative then -(s.digits : Int) else s.digits
  if s.exponent = 0 ∧ (Number.int value).fits 64 ∧ ¬(negative ∧ s.digits = 0) then
    .int value
  else .ofSignificand s

/-- An exponent that is out of every range; all that are greater mean the
    same. -/
def exponentBound : Nat := Nat.pow 2 31

/-- The exponent that digits denote. -/
def exponentOf (ds : List Char) : Nat :=
  Digits.numberUpTo exponentBound 10 ds

/-- The exponent that an optional sign and digits denote. -/
def signedExponent : List Char → Int
  | '-' :: cs => -(exponentOf cs : Int)
  | '+' :: cs => exponentOf cs
  | cs => exponentOf cs

/-- The number that a written one denotes. -/
def ofWritten (cs : List Char) : Number :=
  let negative := cs.head? == some '-'
  let unsigned := if negative then cs.tail else cs
  let whole := unsigned.takeWhile Char.isDigit
  match unsigned.dropWhile Char.isDigit with
  | [] => .ofWhole negative whole
  | '.' :: rest =>
      let fraction := rest.takeWhile Char.isDigit
      let exponent := signedExponent (rest.dropWhile Char.isDigit).tail
      .ofSignificand (.ofWritten whole fraction exponent)
  | _ :: rest => .ofSignificand (.ofWritten whole [] (signedExponent rest))

end Number

end BatchFilter
