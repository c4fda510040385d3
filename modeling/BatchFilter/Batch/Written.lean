import BatchFilter.Batch
import BatchFilter.Document.Record
import BatchFilter.Error
import BatchFilter.Json.Reader
import BatchFilter.Json.Value
import BatchFilter.Limits

/-! # Batches as Lines

    A batch on a line is a JSON list of its parts, each a record of its
    content and its metadata.  Content is written as text, with U+FFFD where
    it is not UTF-8; metadata is left out where there is none. -/

namespace BatchFilter

/-! ## Section 1: Writing -/

/-- A part as JSON. -/
def Part.toJson (p : Part) : Json :=
  .object (("content", .text (String.ofList p.text)) ::
    if p.metadata.isEmpty then []
    else [("metadata", .object (p.metadata.entries.map fun e => (e.1, .text e.2)))])

/-- A batch as JSON. -/
def Batch.toJson (b : Batch) : Json :=
  .list (b.parts.map Part.toJson)

/-- The text of the line that carries a batch, without its end. -/
def Batch.encode (b : Batch) : String :=
  b.toJson.compact

/-! ## Section 2: Reading -/

namespace Part

/-- The names of the fields, in order. -/
def fieldNames : List String := ["content", "metadata"]

/-- The metadata that a node denotes.  A later value of a key wins. -/
def metadata? (room : Nat) (node : Node) : Option (Dictionary String) :=
  if room = 0 then none
  else do
    let entries ← node.entries?
    let values ← entries.mapM fun e => e.2.text?.map fun v => (e.1, v)
    return Dictionary.ofList values

/-- The part that a node denotes.  It must have content. -/
def ofNode? (room : Nat) (node : Node) : Option Part :=
  if room = 0 then none
  else
    match node.fields? .skipping fieldNames with
    | some [some content, metadata] => do
        let content ← content.text?
        let metadata ← Node.fieldOr ∅ (metadata? (room - 1)) metadata
        return ⟨Utf8.ofString content, metadata⟩
    | _ => none

end Part

/-- The batch that a node denotes. -/
def Batch.ofNode? (room : Nat) (node : Node) : Option Batch :=
  if room = 0 then none
  else node.items?.bind fun items =>
    (items.mapM (Part.ofNode? (room - 1))).map Batch.mk

/-- The batch on a line of text. -/
def Batch.decode (line : List Char) : Except Error Batch :=
  if Utf8.size line > Limits.lineBytes then
    .error (.invalidBatch (.tooLong (Utf8.size line) Limits.lineBytes))
  else
    match (Json.read? line).bind (Batch.ofNode? Limits.documentDepth) with
    | some b => .ok b
    | none => .error (.invalidBatch .malformed)

/-- The batch on a line of bytes. -/
def Batch.ofLine (line : Bytes) : Except Error Batch :=
  match Utf8.decode? line with
  | some text => Batch.decode text
  | none => .error (.invalidBatch .notText)

end BatchFilter
