import BatchFilter.Config.Clause
import BatchFilter.Document.Record
import BatchFilter.Error
import BatchFilter.Json.Value

/-! # Configs as Documents

    How a condition config is written and read.  Writing gives every
    section in its declared order, only a negation that has no child is left
    out.  Reading takes the default for whatever is left out.

    A value that is read may nest no deeper than the reader is allowed to
    go: `room` counts the lists and tables that may still begin. -/

namespace BatchFilter

/-! ## Section 1: Sections -/

namespace TextSection

/-- The section as JSON. -/
def toJson (s : TextSection) : Json :=
  .object [("operator", .text s.operator), ("part", .int s.part.toInt),
    ("arg", .text s.arg)]

/-- The names of the fields, in order. -/
def fieldNames : List String := ["operator", "part", "arg"]

/-- The section that a node denotes. -/
def ofNode? (d : Dialect) (room : Nat) (node : Node) : Option TextSection :=
  if room = 0 then none
  else
    match node.fields? d fieldNames with
    | some [operator, part, arg] => do
        let operator ← Node.fieldOr "equals_cs" Node.text? operator
        let part ← Node.fieldOr 0 Node.int64? part
        let arg ← Node.fieldOr "" Node.text? arg
        return ⟨operator, part, arg⟩
    | _ => none

end TextSection

namespace MetadataSection

/-- The section as JSON. -/
def toJson (s : MetadataSection) : Json :=
  .object [("operator", .text s.operator), ("part", .int s.part.toInt),
    ("key", .text s.key), ("arg", .text s.arg)]

/-- The names of the fields, in order. -/
def fieldNames : List String := ["operator", "part", "key", "arg"]

/-- The section that a node denotes. -/
def ofNode? (d : Dialect) (room : Nat) (node : Node) : Option MetadataSection :=
  if room = 0 then none
  else
    match node.fields? d fieldNames with
    | some [operator, part, key, arg] => do
        let operator ← Node.fieldOr "equals_cs" Node.text? operator
        let part ← Node.fieldOr 0 Node.int64? part
        let key ← Node.fieldOr "" Node.text? key
        let arg ← Node.fieldOr "" Node.text? arg
        return ⟨operator, part, key, arg⟩
    | _ => none

end MetadataSection

/-! ## Section 2: Configs -/

namespace Config

mutual

/-- The config as JSON, all sections included. -/
def toJson : Config → Json
  | ⟨kind, static, text, metadata, all, any, not, resource⟩ =>
      .object ([("type", .text kind), ("static", .bool static),
          ("text", text.toJson), ("metadata", metadata.toJson),
          ("and", .list (toJsonAll all)), ("or", .list (toJsonAll any))]
        ++ toJson? not ++ [("resource", .text resource)])

/-- Configs as JSON. -/
def toJsonAll : List Config → List Json
  | [] => []
  | c :: rest => c.toJson :: toJsonAll rest

/-- The entry for the child of a negation, if there is one. -/
def toJson? : Option Config → List (String × Json)
  | none => []
  | some c => [("not", c.toJson)]

end

/-- The names of the fields, in order. -/
def fieldNames : List String :=
  ["type", "static", "text", "metadata", "and", "or", "not", "resource"]

/-- The config that a node denotes. -/
def ofNode? (d : Dialect) : Nat → Node → Option Config
  | 0, _ => none
  | room + 1, node =>
      match node.fields? d fieldNames with
      | some [kind, static, text, metadata, all, any, not, resource] => do
          let children (field : Option Node) : Option (List Config) :=
            Node.fieldOr [] (fun node =>
              match room with
              | 0 => none
              | inner + 1 => node.items?.bind fun items => items.mapM (ofNode? d inner))
              field
          let kind ← Node.fieldOr "text" Node.text? kind
          let static ← Node.fieldOr true Node.bool? static
          let text ← Node.fieldOr {} (TextSection.ofNode? d room) text
          let metadata ← Node.fieldOr {} (MetadataSection.ofNode? d room) metadata
          let all ← children all
          let any ← children any
          let not ← Node.fieldOr none (fun node =>
            match node with
            | .null => some none
            | node => (ofNode? d room node).map some) not
          let resource ← Node.fieldOr "" Node.text? resource
          return ⟨kind, static, text, metadata, all, any, not, resource⟩
      | _ => none

/-- The config that stands where a section of fields is expected: a table,
    all of which is read, known or not, before anything is made of it. -/
def ofSection? (room : Nat) (node : Node) : Option Config :=
  match node with
  | .table _ =>
      if node.height ≤ room && node.legible 64 then ofNode? .skipping node.height node
      else none
  | _ => none

end Config

/-! ## Section 3: What documents a config -/

namespace Clause

/-- A type and its section. -/
def entry (kind : Kind) (value : Json) : Json :=
  .object [("type", .text kind.name), (kind.name, value)]

mutual

/-- A config reduced to its type and the section its type reads. -/
def documented : Clause → Except Error Json
  | .unknown kind => .error (.unknownConditionType kind)
  | .static value => .ok (entry .static (.bool value))
  | .text s => .ok (entry .text s.toJson)
  | .metadata s => .ok (entry .metadata s.toJson)
  | .all children => (documentedAll children).map fun js => entry .all (.list js)
  | .any children => (documentedAll children).map fun js => entry .any (.list js)
  | .not child => (documented? child).map (entry .not)
  | .resource name => .ok (entry .resource (.text name))

/-- What documents children, or the first error among them. -/
def documentedAll : List Clause → Except Error (List Json)
  | [] => .ok []
  | c :: rest => do
      let first ← c.documented
      let others ← documentedAll rest
      return first :: others

/-- What documents the child of a negation, null if it is missing. -/
def documented? : Option Clause → Except Error Json
  | none => .ok .null
  | some c => c.documented

end

end Clause

/-- The config reduced to what it says. -/
def Config.documented (c : Config) : Except Error Json :=
  c.clause.documented

end BatchFilter
