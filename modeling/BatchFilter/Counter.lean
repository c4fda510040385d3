import BatchFilter.Dictionary

/-! # Counters

    A counter is a 64-bit sum under a dotted path of some table.  Who wants
    to count asks a registry for a path and gets the counter that path
    stands for there; a registry may put a namespace in front, and may lead
    nowhere at all.

    * `Registry.counter` says where a path leads, `Ledger` holds the sums.
    * Resolving a counter makes it exist (`Ledger.register`), adding to it
      wraps around (`Ledger.add`). -/

namespace BatchFilter

/-! ## Section 1: Where a path leads -/

/-- A counter: a path of a numbered table, or none that is kept. -/
inductive Counter where
  | discarded
  | kept (table : Nat) (path : String)
  deriving DecidableEq

/-- A place to ask for counters. -/
inductive Registry where
  | table (id : Nat)
  | discard
  | within (ns : String) (inner : Registry)
  deriving DecidableEq

/-- The counter of a path.  Every namespace goes in front of what was asked
    for, so the one nearest the table comes first in the full path. -/
def Registry.counter : Registry → String → Counter
  | .table id, path => .kept id path
  | .discard, _ => .discarded
  | .within ns inner, path => inner.counter (ns ++ "." ++ path)

/-! ## Section 2: The sums -/

/-- A table of counters. -/
abbrev CounterTable : Type := Dictionary Int64

namespace CounterTable

/-- Make a path exist, at zero if it is new. -/
def register (t : CounterTable) (path : String) : CounterTable :=
  match t.find? path with
  | some _ => t
  | none => t.insert path 0

/-- Add to the counter of a path. -/
def add (t : CounterTable) (path : String) (n : Int64) : CounterTable :=
  t.insert path ((t.find? path).getD 0 + n)

end CounterTable

/-- All tables, by number. -/
structure Ledger where
  tables : List CounterTable
  deriving DecidableEq

/-- A counter and how much is added to it. -/
structure Increment where
  counter : Counter
  amount : Int64
  deriving DecidableEq

namespace Ledger

/-- No tables. -/
def empty : Ledger := ⟨[]⟩

/-- Add an empty table; its number is how many there were. -/
def addTable (l : Ledger) : Ledger :=
  ⟨l.tables ++ [∅]⟩

/-- Make a counter exist. -/
def register (l : Ledger) : Counter → Ledger
  | .discarded => l
  | .kept id path => ⟨l.tables.modify id (·.register path)⟩

/-- Make counters exist, in order. -/
def registerAll (l : Ledger) (cs : List Counter) : Ledger :=
  cs.foldl register l

/-- Add to a counter. -/
def add (l : Ledger) (i : Increment) : Ledger :=
  match i.counter with
  | .discarded => l
  | .kept id path => ⟨l.tables.modify id (·.add path i.amount)⟩

/-- Add to counters, in order. -/
def addAll (l : Ledger) (is : List Increment) : Ledger :=
  is.foldl add l

/-- The table of a number. -/
def table? (l : Ledger) (id : Nat) : Option CounterTable :=
  l.tables[id]?

/-- The sum of a path, if the path exists. -/
def value? (l : Ledger) (id : Nat) (path : String) : Option Int64 :=
  (l.table? id).bind (·.find? path)

/-- Every path of a table with its sum, in order. -/
def snapshot (l : Ledger) (id : Nat) : List (String × Int64) :=
  match l.table? id with
  | some t => t.entries
  | none => []

end Ledger

end BatchFilter
