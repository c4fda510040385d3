import BatchFilter.Config.Basic

/-! # Clauses

    What a config says, once every section its type does not read is
    forgotten.  Whatever depends on the meaning of a config is a function
    of its clause: how deep it nests, which named conditions it needs, what
    is built from it and what documents it. -/

namespace BatchFilter

/-! ## Section 1: What a config says -/

/-- The selected section of a config, at every level. -/
inductive Clause where
  /-- No type is registered under the name. -/
  | unknown (kind : String)
  | static (value : Bool)
  | text (s : TextSection)
  | metadata (s : MetadataSection)
  | all (children : List Clause)
  | any (children : List Clause)
  | not (child : Option Clause)
  | resource (name : String)

namespace Config

mutual

/-- What a config says. -/
def clause : Config → Clause
  | ⟨kind, static, text, metadata, all, any, not, resource⟩ =>
      match Kind.ofName? kind with
      | none => .unknown kind
      | some .static => .static static
      | some .text => .text text
      | some .metadata => .metadata metadata
      | some .all => .all (clauses all)
      | some .any => .any (clauses any)
      | some .not => .not (clause? not)
      | some .resource => .resource resource

/-- What configs say. -/
def clauses : List Config → List Clause
  | [] => []
  | c :: rest => c.clause :: clauses rest

/-- What a config says, if there is one. -/
def clause? : Option Config → Option Clause
  | none => none
  | some c => some c.clause

end

end Config

namespace Clause

mutual

/-- The config that says this and nothing else. -/
def config : Clause → Config
  | .unknown kind => .ofKind kind
  | .static value => { kind := Kind.static.name, static := value }
  | .text s => { kind := Kind.text.name, text := s }
  | .metadata s => { kind := Kind.metadata.name, metadata := s }
  | .all children => { kind := Kind.all.name, all := configs children }
  | .any children => { kind := Kind.any.name, any := configs children }
  | .not child => { kind := Kind.not.name, not := config? child }
  | .resource name => { kind := Kind.resource.name, resource := name }

/-- The configs that say these things. -/
def configs : List Clause → List Config
  | [] => []
  | c :: rest => c.config :: configs rest

/-- The config that says this, if there is something to say. -/
def config? : Option Clause → Option Config
  | none => none
  | some c => some c.config

end

/-! ## Section 2: Depth and references -/

mutual

/-- How deep combinations nest.  What has no children has depth 1. -/
def depth : Clause → Nat
  | .all children => depthAll children + 1
  | .any children => depthAll children + 1
  | .not child => depth? child + 1
  | _ => 1

/-- The greatest depth among clauses. -/
def depthAll : List Clause → Nat
  | [] => 0
  | c :: rest => max c.depth (depthAll rest)

/-- The depth of a clause that may be missing. -/
def depth? : Option Clause → Nat
  | none => 0
  | some c => c.depth

end

mutual

/-- The names of the conditions a clause refers to, in order. -/
def references : Clause → List String
  | .resource name => [name]
  | .all children => referencesAll children
  | .any children => referencesAll children
  | .not child => references? child
  | _ => []

/-- The names that clauses refer to, in order. -/
def referencesAll : List Clause → List String
  | [] => []
  | c :: rest => c.references ++ referencesAll rest

/-- The names that a clause refers to, if there is one. -/
def references? : Option Clause → List String
  | none => []
  | some c => c.references

end

end Clause

/-- How deep the combinations of a config nest. -/
def Config.depth (c : Config) : Nat :=
  c.clause.depth

end BatchFilter
