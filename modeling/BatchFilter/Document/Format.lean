import BatchFilter.Document.Record
import BatchFilter.Error
import BatchFilter.Json.Reader
import BatchFilter.Limits
import BatchFilter.Toml.Reader

/-! # Formats

    Configs are written in one of two formats.  A text that is not of its
    format, or holds something else than what is wanted, is malformed. -/

namespace BatchFilter

/-- A format of config texts. -/
inductive Format where
  | json
  | toml
  deriving DecidableEq

/-- How a thing is made of a node: in a dialect, with room for so many levels
    of lists and tables. -/
abbrev NodeReader (α : Type) : Type := Dialect → Nat → Node → Option α

/-- What a text of the format denotes to a reader of nodes.  The values of
    a JSON text that are read may nest only so deep; what the other format
    allows to nest can be read. -/
def Format.read? {α : Type} (f : Format) (make : NodeReader α) (text : List Char) :
    Option α :=
  match f with
  | .json => (Json.read? text).bind (make .skipping Limits.documentDepth)
  | .toml => (Toml.read? text).bind fun node => make .reading node.height node

/-- What a config text denotes to a reader of nodes. -/
def Format.decode {α : Type} (f : Format) (make : NodeReader α) (text : List Char) :
    Except Error α :=
  match f.read? make text with
  | some a => .ok a
  | none => .error (.invalidConfig .malformed)

end BatchFilter
