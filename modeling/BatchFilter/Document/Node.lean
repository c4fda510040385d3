import BatchFilter.Document.Number
import BatchFilter.Text.Integer

/-! # Nodes

    A node is a value as it stands in a document, before anyone decides what
    it is for.  It keeps what a reader may later refuse: a text with an
    unpaired surrogate (`none` where the text would be), a number that
    cannot be held, repeated keys. -/

namespace BatchFilter

/-! ## Section 1: Nodes -/

/-- A value of a document. -/
inductive Node where
  | null
  | bool (b : Bool)
  | number (n : Number)
  | text (s : Option String)
  | list (items : List Node)
  | table (entries : List (Option String × Node))

namespace Node

instance : Inhabited Node := ⟨.null⟩

mutual

/-- How deep lists and tables nest in a node; a scalar has height 0. -/
def height : Node → Nat
  | .list items => heightItems items + 1
  | .table entries => heightEntries entries + 1
  | _ => 0

/-- The greatest height among nodes. -/
def heightItems : List Node → Nat
  | [] => 0
  | item :: rest => max item.height (heightItems rest)

/-- The greatest height among the values of entries. -/
def heightEntries : List (Option String × Node) → Nat
  | [] => 0
  | (_, value) :: rest => max value.height (heightEntries rest)

end

mutual

/-- Can every text, key and number in a node be read, its integers in words
    of so many bits? -/
def legible (bits : Nat) : Node → Bool
  | .number n => n.fits bits
  | .text s => s.isSome
  | .list items => legibleItems bits items
  | .table entries => legibleEntries bits entries
  | _ => true

/-- Is every node legible? -/
def legibleItems (bits : Nat) : List Node → Bool
  | [] => true
  | item :: rest => item.legible bits && legibleItems bits rest

/-- Is every key and every value legible? -/
def legibleEntries (bits : Nat) : List (Option String × Node) → Bool
  | [] => true
  | (key, value) :: rest =>
      key.isSome && value.legible bits && legibleEntries bits rest

end

/-! ## Section 2: Scalars -/

/-- The text of a node that is one. -/
def text? : Node → Option String
  | .text s => s
  | _ => none

/-- The truth value of a node that is one. -/
def bool? : Node → Option Bool
  | .bool b => some b
  | _ => none

/-- The 64-bit integer of a node that is one. -/
def int64? : Node → Option Int64
  | .number (.int n) => Integer.narrow? n
  | _ => none

/-- The items of a node that is a list. -/
def items? : Node → Option (List Node)
  | .list items => some items
  | _ => none

/-- The entries of a node that is a table whose keys can be read. -/
def entries? : Node → Option (List (String × Node))
  | .table entries =>
      entries.mapM fun e => e.1.map fun key => (key, e.2)
  | _ => none

end Node

end BatchFilter
