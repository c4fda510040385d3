import BatchFilter.Counter
import BatchFilter.Error

/-! # Attempts

    Building something registers counters on the way, and may fail after
    some of them.  An attempt is what came of it together with the counters
    it has registered, in order; a later step adds to them only if the
    earlier ones succeeded. -/

namespace BatchFilter

/-- The outcome of building something, and the counters registered for it. -/
structure Attempt (α : Type) where
  result : Except Error α
  registered : List Counter

namespace Attempt

variable {α β : Type}

/-- Fail without registering anything. -/
def fail (e : Error) : Attempt α := ⟨.error e, []⟩

/-- Register counters. -/
def register (cs : List Counter) : Attempt Unit := ⟨.ok (), cs⟩

/-- What an outcome that registers nothing amounts to. -/
def ofExcept (x : Except Error α) : Attempt α := ⟨x, []⟩

/-- One step after another. -/
def bind (x : Attempt α) (f : α → Attempt β) : Attempt β :=
  match x.result with
  | .ok a =>
      let y := f a
      ⟨y.result, x.registered ++ y.registered⟩
  | .error e => ⟨.error e, x.registered⟩

instance : Monad Attempt where
  pure a := ⟨.ok a, []⟩
  bind := bind

/-- Word the failure differently. -/
def mapError (f : Error → Error) (x : Attempt α) : Attempt α :=
  match x.result with
  | .ok a => ⟨.ok a, x.registered⟩
  | .error e => ⟨.error (f e), x.registered⟩

end Attempt

end BatchFilter
