import BatchFilter.Condition.Build

/-! # Declarations

    Named conditions as they are declared together, in any order, one
    referring to another.  Each is built after those it refers to; a
    condition that refers to itself, directly or through others, cannot be
    built at all.

    The order is a depth-first walk: `visit` puts everything a name needs
    in front of it.  `path` holds the names whose references are being
    followed, so that meeting one of them again is a cycle. -/

namespace BatchFilter

/-- Named conditions as they are declared. -/
structure Declarations where
  conditions : Dictionary Config := ∅

namespace Declarations

/-- What the declared conditions say, by name. -/
def clauses (d : Declarations) : Dictionary Clause :=
  d.conditions.map Config.clause

/-! ## Section 1: The order of building -/

/-- How many names are declared and not on a path. -/
def unvisited (clauses : Dictionary Clause) (path : List String) : Nat :=
  clauses.keys.countP fun name => !path.contains name

/-- Going on from a declared name that is not on the path leaves fewer. -/
theorem unvisited_lt {clauses : Dictionary Clause} {path : List String}
    {name : String} (hd : name ∈ clauses.keys) (hp : name ∉ path) :
    unvisited clauses (name :: path) < unvisited clauses path := by
  unfold unvisited
  generalize clauses.keys = keys at hd
  have mono : ∀ ks : List String,
      ks.countP (fun n => !(name :: path).contains n)
        ≤ ks.countP (fun n => !path.contains n) := by
    intro ks
    apply List.countP_mono_left
    intro n _ hn
    simp_all
  induction keys with
  | nil => cases hd
  | cons k ks ih =>
    rcases List.mem_cons.mp hd with rfl | hks
    · have := mono ks
      simp [hp] at this ⊢
      omega
    · have := ih hks
      by_cases hk : k = name
      · subst hk
        have := mono ks
        simp [hp] at this ⊢
        omega
      · by_cases hkp : k ∈ path <;> simp [hk, hkp] at this ⊢ <;> omega

/-- Add a name to the order `done` (newest first), after what it refers to.
    An undeclared name is left to whoever builds the reference. -/
def visit (clauses : Dictionary Clause) (path done : List String) (name : String) :
    Except Error (List String) :=
  if done.contains name then .ok done
  else if _hp : name ∈ path then .error (.invalidConfig (.selfReference name))
  else
    match _hc : clauses.find? name with
    | none => .ok done
    | some clause =>
        -- The name itself comes after everything it refers to.
        (clause.references.foldlM (fun done target =>
            visit clauses (name :: path) done target) done).map (name :: ·)
termination_by unvisited clauses path
decreasing_by exact unvisited_lt (Dictionary.mem_keys_of_find? _hc) _hp

/-- The declared names, each after those its condition refers to, and else
    in the order of the names. -/
def order (d : Declarations) : Except Error (List String) :=
  (d.conditions.keys.foldlM (fun done name => visit d.clauses [] done name) []).map
    List.reverse

/-! ## Section 2: Building -/

/-- Build the declared condition of a name and add it to a pool. -/
def addNamed (d : Declarations) (r : Registry) (pool : Pool) (name : String) :
    Attempt Pool :=
  match d.conditions.find? name with
  | none => pure pool
  | some c => (pool.add r name c).mapError (.resourceConstruction name)

/-- Build declared conditions one after another. -/
def addAll (d : Declarations) (r : Registry) (pool : Pool) :
    List String → Attempt Pool
  | [] => pure pool
  | name :: rest => (d.addNamed r pool name).bind fun pool => d.addAll r pool rest

/-- Build every declared condition. -/
def build (d : Declarations) (r : Registry) : Attempt Pool :=
  (Attempt.ofExcept d.order).bind fun names => d.addAll r .empty names

end Declarations

end BatchFilter
