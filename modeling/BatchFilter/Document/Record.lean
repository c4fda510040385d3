import BatchFilter.Document.Node

/-! # Records

    A record of named fields is written as a table, in any order and with
    fields left out, or as a list of its fields in their declared order
    with trailing ones left out.  A field given twice is refused, a field
    nobody asked for is not.

    Formats differ in how they treat what nobody asked for; a `Dialect`
    says how. -/

namespace BatchFilter

/-- How a format treats what a record does not ask for. -/
structure Dialect where
  /-- May a list hold more items than the record has fields? -/
  surplusItems : Bool
  /-- Is the value of an unknown field read, and so refused when its numbers
      cannot be held in 128 bits? -/
  readsUnknown : Bool
  deriving DecidableEq

/-- Nothing may be left over in a list, and unknown fields are skipped. -/
def Dialect.skipping : Dialect := ⟨false, false⟩

/-- What is left over in a list is not looked at, and unknown fields are
    read. -/
def Dialect.reading : Dialect := ⟨true, true⟩

namespace Node

/-- How many entries have the key. -/
def countKey (key : String) (entries : List (Option String × Node)) : Nat :=
  entries.countP fun e => e.1 == some key

/-- The value of the first entry with the key. -/
def valueOf? (key : String) (entries : List (Option String × Node)) : Option Node :=
  (entries.find? fun e => e.1 == some key).map Prod.snd

/-- May a record with these field names be given by these entries?  Every
    key is legible, no field is given twice, and unknown fields hold what
    the dialect wants of them. -/
def admits (d : Dialect) (names : List String)
    (entries : List (Option String × Node)) : Bool :=
  (entries.all fun e =>
      match e.1 with
      | none => false
      | some key => names.contains key || !d.readsUnknown || e.2.legible 128)
    && names.all fun name => countKey name entries ≤ 1

/-- The values that a node gives to the fields of a record, `none` for a
    field it leaves out. -/
def fields? (d : Dialect) (names : List String) : Node → Option (List (Option Node))
  | .table entries =>
      if admits d names entries then some (names.map fun name => valueOf? name entries)
      else none
  | .list items =>
      if items.length ≤ names.length || d.surplusItems then
        some (names.zipIdx.map fun e => items[e.2]?)
      else none
  | _ => none

/-- Read a field, or take the default if it is left out. -/
def fieldOr {α : Type} (default : α) (read : Node → Option α) :
    Option Node → Option α
  | none => some default
  | some node => read node

end Node

end BatchFilter
