import BatchFilter.Counter

/-! # Metering

    Tables are made one after another, and registries that lead to them are
    asked for counters.  Who got a counter holds it from then on and adds to
    it at any time, whatever was asked for and added by others since.

    * `Metering.Event`: what can happen to tables and counters.
    * `Metering.Step`: one event, and `Metering.After`: a history of them. -/

namespace BatchFilter

/-- The table that a registry leads to, or none if it leads nowhere. -/
def Registry.root? : Registry → Option Nat
  | .table id => some id
  | .discard => none
  | .within _ inner => inner.root?

/-- Tables, and the counters in them that somebody holds. -/
structure Metering where
  ledger : Ledger
  /-- The counters that were handed out, oldest first. -/
  handles : List Counter

namespace Metering

/-- What can happen. -/
inductive Event where
  /-- A table is made. -/
  | create
  /-- A registry is asked for the counter of a path, which gets the next
      number among the handles. -/
  | resolve (r : Registry) (path : String)
  /-- Something is added to the counter of a handle. -/
  | add (handle : Nat) (amount : Int64)

/-- Before anything has happened. -/
def start : Metering := ⟨.empty, []⟩

/-- What an event does.  A registry can only be asked once the table is there
    that it leads to, and only a counter that was handed out can be added to. -/
inductive Step (m : Metering) : Event → Metering → Prop where
  | create : Step m .create { m with ledger := m.ledger.addTable }
  | resolve {r : Registry} {path : String}
      (hroot : ∀ id, r.root? = some id → (m.ledger.table? id).isSome) :
      Step m (.resolve r path)
        ⟨m.ledger.register (r.counter path), m.handles ++ [r.counter path]⟩
  | add {handle : Nat} {k : Counter} {amount : Int64} (hhandle : m.handles[handle]? = some k) :
      Step m (.add handle amount) { m with ledger := m.ledger.add ⟨k, amount⟩ }

/-- What there is after events, the oldest of which comes first. -/
inductive After : List Event → Metering → Prop where
  | start : After [] start
  | step {es : List Event} {e : Event} {m m' : Metering} :
      After es m → Step m e m' → After (es ++ [e]) m'

end Metering

end BatchFilter
