import BatchFilter.Document.Record
import BatchFilter.Json.Value

/-! # Replies

    What the source of a batch is told when nothing is passed on: that the
    batch was dealt with, or that it could not be.  As a document a reply is
    a record of its kind and, for an error, the reason. -/

namespace BatchFilter

/-! ## Section 1: Replies -/

/-- An answer to the source of a batch. -/
inductive Reply where
  | ack
  | error (reason : String)
  deriving DecidableEq

namespace Reply

/-- Is it an acknowledgment? -/
def isAck : Reply → Bool
  | .ack => true
  | .error _ => false

/-- The reason of an error. -/
def reason? : Reply → Option String
  | .ack => none
  | .error reason => some reason

/-- The reply in words. -/
def message : Reply → String
  | .ack => "ack"
  | .error reason => "error: " ++ reason

/-! ## Section 2: As a document -/

/-- The reply as JSON. -/
def toJson : Reply → Json
  | .ack => .object [("kind", .text "ack")]
  | .error reason => .object [("kind", .text "error"), ("reason", .text reason)]

/-- The name of a kind: a text, or a table of the kind with nothing in it. -/
def kindName? : Node → Option String
  | .table [(some name, .null)] => some name
  | node => node.text?

/-- The reply of a kind with a reason that may be missing. -/
def ofKind? (kind : String) (reason : Option Node) : Option Reply :=
  match kind, reason with
  | "ack", none => some .ack
  | "ack", some .null => some .ack
  | "error", some node => node.text?.map .error
  | _, _ => none

/-- The names of the fields, in order. -/
def fieldNames : List String := ["kind", "reason"]

/-- Does the reason stand in front of the kind? -/
def reasonFirst (entries : List (Option String × Node)) : Bool :=
  match entries.find? fun e => e.1.any fieldNames.contains with
  | some (some key, _) => key == "reason"
  | _ => false

/-- A reason that is no more than an empty table says as little as null does.
    This is seen only if it is read before the kind is known. -/
def blankReason : Node → Node
  | .table [] => .null
  | node => node

/-- The reply that a node denotes.  As a list it must have both items. -/
def ofNode? : Node → Option Reply
  | .list [kind, reason] => kind.text?.bind fun k => ofKind? k (some reason)
  | .table entries => do
      let fields ← Node.fields? .skipping fieldNames (.table entries)
      match fields with
      | [some kind, reason] =>
          let reason := if reasonFirst entries then reason.map blankReason else reason
          ofKind? (← kindName? kind) reason
      | _ => none
  | _ => none

end Reply

end BatchFilter
