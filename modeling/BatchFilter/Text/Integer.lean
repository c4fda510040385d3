import BatchFilter.Text.Digits

/-! # Integers in Text

    The decimal texts that denote a signed 64-bit integer, with the white
    space around them that a reader of metadata leaves out. -/

namespace BatchFilter.Integer

/-- White space in the sense of the Unicode property. -/
def isBlank (c : Char) : Bool :=
  let n := c.toNat
  (0x09 ≤ n && n ≤ 0x0D) || n == 0x20 || n == 0x85 || n == 0xA0 || n == 0x1680 ||
    (0x2000 ≤ n && n ≤ 0x200A) || n == 0x2028 || n == 0x2029 || n == 0x202F ||
    n == 0x205F || n == 0x3000

/-- A text without the white space at its two ends. -/
def trim (cs : List Char) : List Char :=
  ((cs.dropWhile isBlank).reverse.dropWhile isBlank).reverse

/-- A number past all words of 64 bits.  No greater one is told apart from
    it. -/
def bound : Nat := Nat.pow 2 64

/-- The number that a non-empty run of ASCII digits denotes, if it is less
    than `bound`, and else `bound`. -/
def digits? : List Char → Option Nat
  | [] => none
  | cs => if cs.all Char.isDigit then some (Digits.numberUpTo bound 10 cs) else none

/-- The integer that an optional sign and ASCII digits denote. -/
def signed? : List Char → Option Int
  | '-' :: cs => (digits? cs).map fun n => -(n : Int)
  | '+' :: cs => (digits? cs).map fun n => (n : Int)
  | cs => (digits? cs).map fun n => (n : Int)

/-- The least integer of 64 bits. -/
def least : Int := -9223372036854775808

/-- The greatest integer of 64 bits. -/
def greatest : Int := 9223372036854775807

/-- An integer as a 64-bit one, if it is in range. -/
def narrow? (n : Int) : Option Int64 :=
  if least ≤ n ∧ n ≤ greatest then some (Int64.ofInt n) else none

/-- The 64-bit integer that a text denotes: a sign or none, then digits. -/
def parse? (cs : List Char) : Option Int64 :=
  (signed? cs).bind narrow?

/-- The 64-bit integer that a string denotes, white space around it aside. -/
def ofString? (s : String) : Option Int64 :=
  parse? (trim s.toList)

end BatchFilter.Integer
