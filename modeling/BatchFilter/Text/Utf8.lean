/-! # UTF-8

    Byte strings as lists of bytes, and UTF-8 in both directions.

    Decoding splits a byte string into characters and ill-formed pieces;
    the strict and the lossy reading are two views of that one split.  An
    ill-formed piece is as long as it could still have become a character
    (a maximal subpart), and never swallows a byte that starts a new one. -/

namespace BatchFilter

/-- A byte string. -/
abbrev Bytes : Type := List UInt8

namespace Utf8

/-! ## Section 1: Encoding -/

/-- The one to four bytes of a character. -/
def encodeChar (c : Char) : Bytes :=
  let n := c.toNat
  if n < 0x80 then [n.toUInt8]
  else if n < 0x800 then
    [(0xC0 + n / 0x40).toUInt8, (0x80 + n % 0x40).toUInt8]
  else if n < 0x10000 then
    [(0xE0 + n / 0x1000).toUInt8, (0x80 + n / 0x40 % 0x40).toUInt8,
      (0x80 + n % 0x40).toUInt8]
  else
    [(0xF0 + n / 0x40000).toUInt8, (0x80 + n / 0x1000 % 0x40).toUInt8,
      (0x80 + n / 0x40 % 0x40).toUInt8, (0x80 + n % 0x40).toUInt8]

/-- The bytes of a text. -/
def encode (cs : List Char) : Bytes :=
  cs.flatMap encodeChar

/-- The bytes of a string. -/
def ofString (s : String) : Bytes :=
  encode s.toList

/-- How many bytes a text takes. -/
def size (cs : List Char) : Nat :=
  cs.foldl (fun n c => n + c.utf8Size) 0

/-! ## Section 2: Decoding -/

/-- A character that has begun: how many bytes are missing, the range the
    next one must lie in, and the code point read so far. -/
structure Partial where
  missing : Nat
  low : Nat
  high : Nat
  value : Nat

/-- What a byte says at the start of a character. -/
inductive Lead where
  | complete (c : Char)
  | begins (p : Partial)
  | illFormed

/-- Classify a leading byte.  The narrowed ranges for the second byte leave
    out overlong forms, surrogates and code points past the last one. -/
def lead (b : UInt8) : Lead :=
  let n := b.toNat
  if n < 0x80 then .complete (Char.ofNat n)
  else if n < 0xC2 then .illFormed
  else if n < 0xE0 then .begins ⟨1, 0x80, 0xBF, n - 0xC0⟩
  else if n = 0xE0 then .begins ⟨2, 0xA0, 0xBF, 0⟩
  else if n = 0xED then .begins ⟨2, 0x80, 0x9F, n - 0xE0⟩
  else if n < 0xF0 then .begins ⟨2, 0x80, 0xBF, n - 0xE0⟩
  else if n = 0xF0 then .begins ⟨3, 0x90, 0xBF, 0⟩
  else if n < 0xF4 then .begins ⟨3, 0x80, 0xBF, n - 0xF0⟩
  else if n = 0xF4 then .begins ⟨3, 0x80, 0x8F, n - 0xF0⟩
  else .illFormed

/-- The pieces of a byte string, newest first in `done`: a character, or
    `none` for an ill-formed piece. -/
def scan (done : List (Option Char)) : Option Partial → Bytes → List (Option Char)
  | none, [] => done.reverse
  | some _, [] => (none :: done).reverse
  | none, b :: bs =>
      match lead b with
      | .complete c => scan (some c :: done) none bs
      | .begins p => scan done (some p) bs
      | .illFormed => scan (none :: done) none bs
  | some p, b :: bs =>
      if p.low ≤ b.toNat ∧ b.toNat ≤ p.high then
        let value := p.value * 0x40 + (b.toNat - 0x80)
        if p.missing ≤ 1 then scan (some (Char.ofNat value) :: done) none bs
        else scan done (some ⟨p.missing - 1, 0x80, 0xBF, value⟩) bs
      else
        match lead b with
        | .complete c => scan (some c :: none :: done) none bs
        | .begins p => scan (none :: done) (some p) bs
        | .illFormed => scan (none :: none :: done) none bs

/-- Split a byte string into characters and ill-formed pieces. -/
def pieces (bs : Bytes) : List (Option Char) :=
  scan [] none bs

/-- The text a byte string encodes, if it is well-formed throughout. -/
def decode? (bs : Bytes) : Option (List Char) :=
  let ps := pieces bs
  if ps.all Option.isSome then some (ps.filterMap id) else none

/-- The text of a byte string, with U+FFFD for each ill-formed piece. -/
def decodeLossy (bs : Bytes) : List Char :=
  (pieces bs).map (·.getD '\uFFFD')

end Utf8

end BatchFilter
