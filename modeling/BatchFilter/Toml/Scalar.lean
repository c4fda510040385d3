import BatchFilter.Document.Node
import BatchFilter.Text.Digits
import BatchFilter.Toml.Moment

/-! # Unquoted Values

    The values of a TOML document that stand without quotes: truth values,
    integers in four bases, floating-point numbers, dates and times. -/

namespace BatchFilter.Toml

/-! ## Section 1: Digits -/

/-- The digits of a run after those in `done` (newest first).  Underscores
    may stand between two digits and nowhere else, so one is refused unless
    it comes right after a digit, and so is the end. -/
def ungroupFrom (isDigit : Char → Bool) (done : List Char) (afterDigit : Bool) :
    List Char → Option (List Char)
  | [] => if afterDigit then some done.reverse else none
  | c :: cs =>
      if isDigit c then ungroupFrom isDigit (c :: done) true cs
      else if c = '_' ∧ afterDigit then ungroupFrom isDigit done false cs
      else none

/-- The digits of a run in which underscores may stand between two digits,
    and nowhere else. -/
def ungroup? (isDigit : Char → Bool) (cs : List Char) : Option (List Char) :=
  ungroupFrom isDigit [] false cs

/-- A decimal run that does not begin with a zero unless it is one. -/
def whole? (cs : List Char) : Option (List Char) :=
  match cs with
  | '0' :: _ :: _ => none
  | cs => ungroup? Char.isDigit cs

/-! ## Section 2: Numbers -/

/-- An integer that nobody can hold; all that are greater mean the same. -/
def integerBound : Nat := Nat.pow 2 128

/-- An integer in a base, after the mark of the base. -/
def based? (base : Nat) (cs : List Char) : Option Number :=
  (ungroup? (Digits.isDigit base) cs).map fun ds =>
    .int (Digits.numberUpTo integerBound base ds)

/-- An exponent that is read no further: the digits after it are not looked
    at. -/
def exponentBound : Nat := 0x10000

/-- The exponent that digits denote. -/
def exponentOf (ds : List Char) : Nat :=
  ds.foldl (fun n d => if n < exponentBound then n * 10 + (d.toNat - '0'.toNat) else n) 0

/-- The exponent of a number, its mark aside: a sign or none, then digits. -/
def exponent? : List Char → Option Int
  | '-' :: cs => (ungroup? Char.isDigit cs).map fun ds => -(exponentOf ds : Int)
  | '+' :: cs => (ungroup? Char.isDigit cs).map fun ds => (exponentOf ds : Int)
  | cs => (ungroup? Char.isDigit cs).map fun ds => (exponentOf ds : Int)

/-- Does the character begin an exponent? -/
def isExponentMark (c : Char) : Bool := c == 'e' || c == 'E'

/-- A number after its sign: an integer, or one with a fraction, an exponent
    or both. -/
def unsigned? (negative : Bool) (cs : List Char) : Option Number := do
  let mantissa := cs.takeWhile (!isExponentMark ·)
  let power := cs.dropWhile (!isExponentMark ·)
  let whole ← whole? (mantissa.takeWhile (· != '.'))
  let exponent ← match power with
    | [] => some 0
    | _ :: cs => exponent? cs
  match mantissa.dropWhile (· != '.'), power with
  | [], [] =>
      let n : Int := Digits.numberUpTo integerBound 10 whole
      return .int (if negative then -n else n)
  | [], _ => return .ofDecimal whole [] exponent
  | _ :: fraction, _ =>
      return .ofDecimal whole (← ungroup? Char.isDigit fraction) exponent

/-- A number.  Only decimal ones have a sign. -/
def number? : List Char → Option Number
  | '0' :: 'x' :: cs => based? 16 cs
  | '0' :: 'o' :: cs => based? 8 cs
  | '0' :: 'b' :: cs => based? 2 cs
  | '-' :: cs => signed? true cs
  | '+' :: cs => signed? false cs
  | cs => signed? false cs
where
  /-- What may follow a sign. -/
  signed? (negative : Bool) : List Char → Option Number
    | ['i', 'n', 'f'] => some .real
    | ['n', 'a', 'n'] => some .real
    | cs => unsigned? negative cs

/-! ## Section 3: Values -/

/-- A date or a time, as a table of the one entry that keeps its text. -/
def momentNode (cs : List Char) : Node :=
  .table [(some "$moment", .text (some (String.ofList cs)))]

/-- The value that an unquoted text denotes. -/
def scalar? (cs : List Char) : Option Node :=
  match cs with
  | ['t', 'r', 'u', 'e'] => some (.bool true)
  | ['f', 'a', 'l', 's', 'e'] => some (.bool false)
  | cs =>
      if Moment.isMoment cs then some (momentNode cs)
      else (number? cs).map Node.number

end BatchFilter.Toml
