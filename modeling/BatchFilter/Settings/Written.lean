import BatchFilter.Config.Written
import BatchFilter.Settings

/-! # Settings as Documents

    How stages, declarations and settings are written and read.  The section
    of the filtering stage is its condition's config, without a level of its
    own in between. -/

namespace BatchFilter

/-! ## Section 1: Stages -/

namespace StageConfig

/-- The stage's config as JSON. -/
def toJson (c : StageConfig) : Json :=
  .object [("type", .text c.kind), (Stage.typeName, c.condition.toJson)]

/-- The names of the fields, in order. -/
def fieldNames : List String := ["type", Stage.typeName]

/-- The stage's config that a node denotes. -/
def ofNode? (d : Dialect) (room : Nat) (node : Node) : Option StageConfig :=
  if room = 0 then none
  else
    match node.fields? d fieldNames with
    | some [kind, condition] => do
        let kind ← Node.fieldOr Stage.typeName Node.text? kind
        let condition ← Node.fieldOr {} (Config.ofSection? (room - 1)) condition
        return ⟨kind, condition⟩
    | _ => none

/-- The stage's config reduced to what it says. -/
def documented (c : StageConfig) : Except Error Json :=
  if c.kind = Stage.typeName then
    c.condition.documented.map fun j =>
      .object [("type", .text c.kind), (c.kind, j)]
  else .error (.unknownProcessorType c.kind)

end StageConfig

/-! ## Section 2: Declarations -/

namespace Declarations

/-- The declared conditions as JSON, by name. -/
def toJson (d : Declarations) : Json :=
  .object [("conditions",
    .object (d.conditions.entries.map fun e => (e.1, e.2.toJson)))]

/-- The names of the fields, in order. -/
def fieldNames : List String := ["conditions"]

/-- The configs by name that a node denotes.  A later one of a name wins. -/
def conditions? (d : Dialect) (room : Nat) (node : Node) : Option (Dictionary Config) :=
  if room = 0 then none
  else do
    let entries ← node.entries?
    let configs ← entries.mapM fun e =>
      (Config.ofNode? d (room - 1) e.2).map fun c => (e.1, c)
    return Dictionary.ofList configs

/-- The declarations that a node denotes. -/
def ofNode? (d : Dialect) (room : Nat) (node : Node) : Option Declarations :=
  if room = 0 then none
  else
    match node.fields? d fieldNames with
    | some [conditions] => do
        let conditions ← Node.fieldOr ∅ (conditions? d (room - 1)) conditions
        return ⟨conditions⟩
    | _ => none

/-- The declared conditions reduced to what they say, by name, or the first
    error in the order of the names. -/
def documented (d : Declarations) : Except Error (List (String × Json)) :=
  d.conditions.entries.mapM fun e => e.2.documented.map fun j => (e.1, j)

end Declarations

/-! ## Section 3: Settings -/

namespace Settings

/-- The settings as JSON. -/
def toJson (s : Settings) : Json :=
  .object [("processor", s.processor.toJson), ("resources", s.resources.toJson)]

/-- The names of the fields, in order. -/
def fieldNames : List String := ["processor", "resources"]

/-- The settings that a node denotes. -/
def ofNode? (d : Dialect) (room : Nat) (node : Node) : Option Settings :=
  if room = 0 then none
  else
    match node.fields? d fieldNames with
    | some [processor, resources] => do
        let processor ← Node.fieldOr {} (StageConfig.ofNode? d (room - 1)) processor
        let resources ← Node.fieldOr {} (Declarations.ofNode? d (room - 1)) resources
        return ⟨processor, resources⟩
    | _ => none

/-- The settings reduced to what they say.  Declared conditions come first
    when it comes to errors, and are left out if there are none. -/
def documented (s : Settings) : Except Error Json := do
  let conditions ← s.resources.documented
  let processor ← s.processor.documented
  return .object (("processor", processor) ::
    if conditions.isEmpty then []
    else [("resources", .object [("conditions", .object conditions)])])

end Settings

end BatchFilter
