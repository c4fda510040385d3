import BatchFilter.Batch
import BatchFilter.Error
import BatchFilter.Text.Integer
import BatchFilter.Text.Lowercase
import BatchFilter.Text.Search

/-! # Operators

    The comparisons of the text and metadata conditions, by name.  What can
    be prepared from the argument (its lowercase, the integer it denotes)
    is prepared when the operator is read, and an argument that cannot be
    used is refused then. -/

namespace BatchFilter

/-! ## Section 1: Text operators -/

/-- How content is compared with an argument. -/
inductive Comparison where
  | equals
  | contains
  | startsWith
  | endsWith
  deriving DecidableEq

/-- Does the comparison hold between what is searched and what is sought? -/
def Comparison.holds (c : Comparison) (hay needle : Bytes) : Bool :=
  match c with
  | .equals => hay == needle
  | .contains => Search.contains needle hay
  | .startsWith => Search.startsWith needle hay
  | .endsWith => Search.endsWith needle hay

/-- A comparison of content, with or without regard to case. -/
structure TextOperator where
  comparison : Comparison
  caseSensitive : Bool
  deriving DecidableEq

namespace TextOperator

/-- The operator of a name. -/
def ofName? : String → Option TextOperator
  | "equals_cs" => some ⟨.equals, true⟩
  | "equals" => some ⟨.equals, false⟩
  | "contains_cs" => some ⟨.contains, true⟩
  | "contains" => some ⟨.contains, false⟩
  | "prefix_cs" => some ⟨.startsWith, true⟩
  | "prefix" => some ⟨.startsWith, false⟩
  | "suffix_cs" => some ⟨.endsWith, true⟩
  | "suffix" => some ⟨.endsWith, false⟩
  | _ => none

/-- The operator of a name, or why there is none. -/
def parse (name : String) : Except Error TextOperator :=
  match ofName? name with
  | some op => .ok op
  | none => .error (.invalidConfig (.unknownTextOperator name))

/-- The argument as it is compared. -/
def prepare (op : TextOperator) (arg : String) : Bytes :=
  if op.caseSensitive then Utf8.ofString arg
  else Utf8.encode (Lowercase.map arg.toList)

/-- The content of a part as it is compared. -/
def subject (op : TextOperator) (p : Part) : Bytes :=
  if op.caseSensitive then p.content
  else Utf8.encode (Lowercase.map p.text)

/-- Does a part's content compare with a prepared argument? -/
def holds (op : TextOperator) (needle : Bytes) (p : Part) : Bool :=
  op.comparison.holds (op.subject p) needle

end TextOperator

/-! ## Section 2: Metadata operators -/

/-- A comparison of a metadata value, with its argument. -/
inductive MetadataOperator where
  | equalsExactly (arg : String)
  /-- The argument is in lowercase. -/
  | equals (arg : String)
  | present
  | startsWith (arg : String)
  | greaterThan (bound : Int64)
  | lessThan (bound : Int64)
  deriving DecidableEq

namespace MetadataOperator

/-- The integer argument of a numeric operator. -/
def bound (name arg : String) : Except Error Int64 :=
  match Integer.ofString? arg with
  | some n => .ok n
  | none => .error (.invalidConfig (.integerRequired name arg))

/-- The operator of a name and an argument, or why there is none. -/
def parse (name arg : String) : Except Error MetadataOperator :=
  match name with
  | "equals_cs" => .ok (.equalsExactly arg)
  | "equals" => .ok (.equals (Lowercase.string arg))
  | "exists" => .ok .present
  | "has_prefix" => .ok (.startsWith arg)
  | "greater_than" => (bound name arg).map .greaterThan
  | "less_than" => (bound name arg).map .lessThan
  | _ => .error (.invalidConfig (.unknownMetadataOperator name))

/-- Does a value compare as the operator says?  A value that denotes no
    integer is neither greater nor less than one. -/
def holds (op : MetadataOperator) (value : String) : Bool :=
  match op with
  | .equalsExactly arg => value == arg
  | .equals arg => Lowercase.string value == arg
  | .present => true
  | .startsWith arg => Search.startsWith arg.toList value.toList
  | .greaterThan n => (Integer.ofString? value).any fun v => v > n
  | .lessThan n => (Integer.ofString? value).any fun v => v < n

end MetadataOperator

end BatchFilter
