import BatchFilter.Dictionary
import BatchFilter.Text.Utf8

/-! # Batches

    A part is a payload with named values beside it; a batch is a list of
    parts.  Parts are reached by signed index, negative ones counting from
    the end.  A condition sees one part alone, as if it were a whole batch. -/

namespace BatchFilter

/-! ## Section 1: Parts -/

/-- A payload and its metadata. -/
structure Part where
  content : Bytes
  metadata : Dictionary String := ∅
  deriving DecidableEq

namespace Part

/-- The payload as text, with U+FFFD where it is not UTF-8. -/
def text (p : Part) : List Char :=
  Utf8.decodeLossy p.content

/-- The part with a metadata value set. -/
def withMetadata (p : Part) (key value : String) : Part :=
  { p with metadata := p.metadata.insert key value }

end Part

/-! ## Section 2: Batches -/

/-- An ordered list of parts. -/
structure Batch where
  parts : List Part
  deriving DecidableEq

namespace Batch

/-- How many parts there are. -/
def size (b : Batch) : Nat :=
  b.parts.length

/-- Are there no parts? -/
def isEmpty (b : Batch) : Bool :=
  b.parts.isEmpty

/-- Add a part at the end. -/
def push (b : Batch) (p : Part) : Batch :=
  ⟨b.parts ++ [p]⟩

/-- The position that a signed index names among `n` parts: itself, or for
    a negative one the distance from the end.  It may lie past the end. -/
def position? (i : Int64) (n : Nat) : Option Nat :=
  if 0 ≤ i.toInt then some i.toInt.toNat
  else
    let back := i.toInt.natAbs
    if back ≤ n then some (n - back) else none

/-- The part at a signed index. -/
def get? (b : Batch) (i : Int64) : Option Part :=
  (position? i b.size).bind fun k => b.parts[k]?

/-- Change the part at a position, if there is one. -/
def modify (b : Batch) (k : Nat) (f : Part → Part) : Batch :=
  ⟨b.parts.modify k f⟩

end Batch

/-! ## Section 3: One part alone -/

/-- One part of a batch, seen as a batch of its own. -/
structure SinglePart where
  part : Part
  deriving DecidableEq

namespace SinglePart

/-- A single part is one part. -/
def size (_ : SinglePart) : Nat := 1

/-- A single part is never nothing. -/
def isEmpty (_ : SinglePart) : Bool := false

/-- The first part and the last one are the part; there is no other. -/
def get? (s : SinglePart) (i : Int64) : Option Part :=
  if i = 0 ∨ i = -1 then some s.part else none

end SinglePart

/-- The part at a signed index, seen alone. -/
def Batch.single? (b : Batch) (i : Int64) : Option SinglePart :=
  (b.get? i).map SinglePart.mk

end BatchFilter
