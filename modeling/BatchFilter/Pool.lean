import BatchFilter.Condition.Basic

/-! # Pools

    The conditions that can be referred to by name.  A reference is resolved
    when a condition is built: what it got stays as it was, whatever its
    name is given to later. -/

namespace BatchFilter

/-- Conditions by name. -/
structure Pool where
  conditions : Dictionary Condition

namespace Pool

/-- No conditions. -/
def empty : Pool := ⟨∅⟩

/-- The condition of a name. -/
def find? (p : Pool) (name : String) : Option Condition :=
  p.conditions.find? name

/-- The condition of a name, or the error that there is none. -/
def resolve (p : Pool) (name : String) : Except Error Condition :=
  match p.find? name with
  | some c => .ok c
  | none => .error (.resourceNotFound name)

/-- The names, in order. -/
def names (p : Pool) : List String :=
  p.conditions.keys

/-- Give a name to a condition. -/
def insert (p : Pool) (name : String) (c : Condition) : Pool :=
  ⟨p.conditions.insert name c⟩

end Pool

end BatchFilter
