/-! # Condition Types

    The registered types of condition, by the name a config selects them
    with. -/

namespace BatchFilter

/-- The registered types of condition. -/
inductive Kind where
  | all
  | metadata
  | not
  | any
  | resource
  | static
  | text
  deriving DecidableEq

namespace Kind

/-- The name of a type, which is also the name of the section it reads. -/
def name : Kind → String
  | .all => "and"
  | .metadata => "metadata"
  | .not => "not"
  | .any => "or"
  | .resource => "resource"
  | .static => "static"
  | .text => "text"

/-- What a type does, for the listing of types. -/
def description : Kind → String
  | .all =>
      "Resolves to true only if every child condition does. "
        ++ "Children are evaluated in order and stop at the first false."
  | .metadata =>
      "Tests a metadata value of a part. Operators: equals_cs, "
        ++ "equals, exists, has_prefix, greater_than, less_than."
  | .not => "Inverts the result of its child condition."
  | .any =>
      "Resolves to true if any child condition does. Children "
        ++ "are evaluated in order and stop at the first true."
  | .resource =>
      "Delegates to a condition declared under "
        ++ "`resources.conditions`, referenced by name."
  | .static => "Always resolves to the configured boolean value."
  | .text =>
      "Tests the content of a part against a string argument "
        ++ "using one of the equals, contains, prefix or suffix "
        ++ "operators, each with a case-sensitive `_cs` variant."

/-- Every type, in the order of the names. -/
def every : List Kind :=
  [.all, .metadata, .not, .any, .resource, .static, .text]

/-- The type of a name. -/
def ofName? (s : String) : Option Kind :=
  every.find? fun k => k.name == s

end Kind

end BatchFilter
