import BatchFilter.Config.Kind

/-! # Condition Configs

    A config names a type of condition and has one section for every type.
    Only the section of its own type says anything; the others are kept as
    they were written. -/

namespace BatchFilter

/-- The section of a text condition. -/
structure TextSection where
  operator : String := "equals_cs"
  part : Int64 := 0
  arg : String := ""
  deriving DecidableEq

/-- The section of a metadata condition. -/
structure MetadataSection where
  operator : String := "equals_cs"
  part : Int64 := 0
  key : String := ""
  arg : String := ""
  deriving DecidableEq

/-- A config: the name of a type, and the sections of all types. -/
structure Config where
  kind : String := "text"
  static : Bool := true
  text : TextSection := {}
  metadata : MetadataSection := {}
  all : List Config := []
  any : List Config := []
  not : Option Config := none
  resource : String := ""

namespace Config

instance : Inhabited Config := ⟨{}⟩

/-- The default config of a type. -/
def ofKind (kind : String) : Config :=
  { kind := kind }

end Config

end BatchFilter
