/-! # JSON Values and Their Text

    The values this library writes as JSON, and how they are written.  Two
    layouts are in use: everything on one line, and one item a line with two
    more spaces for every level.  They differ in white space only. -/

namespace BatchFilter

/-- A JSON value.  The entries of an object keep the order they are written
    in. -/
inductive Json where
  | null
  | bool (b : Bool)
  | int (n : Int)
  | text (s : String)
  | list (items : List Json)
  | object (entries : List (String × Json))

namespace Json

instance : Inhabited Json := ⟨.null⟩

/-! ## Section 1: Texts -/

/-- The two hexadecimal digits of a control character. -/
def hexPair (n : Nat) : List Char :=
  [Nat.digitChar (n / 16), Nat.digitChar (n % 16)]

/-- A character inside a JSON text.  Quotes, backslashes and control
    characters are escaped, the common ones by a letter. -/
def escape (c : Char) : List Char :=
  match c with
  | '"' => ['\\', '"']
  | '\\' => ['\\', '\\']
  | '\x08' => ['\\', 'b']
  | '\x0c' => ['\\', 'f']
  | '\n' => ['\\', 'n']
  | '\r' => ['\\', 'r']
  | '\t' => ['\\', 't']
  | c => if c.toNat < 0x20 then ['\\', 'u', '0', '0'] ++ hexPair c.toNat else [c]

/-- A text between quotes. -/
def quote (s : String) : List Char :=
  '"' :: (s.toList.flatMap escape ++ ['"'])

/-- The digits of an integer, after a minus sign if it is negative. -/
def digits (n : Int) : List Char :=
  if n < 0 then '-' :: Nat.toDigits 10 n.natAbs else Nat.toDigits 10 n.natAbs

/-! ## Section 2: Layouts -/

/-- The white space of a layout: what comes before an item at a given depth,
    and what separates a key from its value. -/
structure Layout where
  gap : Nat → List Char
  colon : List Char

/-- Everything on one line, without a space. -/
def Layout.compact : Layout where
  gap := fun _ => []
  colon := [':']

/-- Every item on a line of its own, two spaces further in per level. -/
def Layout.indented : Layout where
  gap := fun depth => '\n' :: List.replicate (2 * depth) ' '
  colon := [':', ' ']

mutual

/-- A value in a layout, itself at the given depth. -/
def render (l : Layout) (depth : Nat) : Json → List Char
  | .null => ['n', 'u', 'l', 'l']
  | .bool true => ['t', 'r', 'u', 'e']
  | .bool false => ['f', 'a', 'l', 's', 'e']
  | .int n => digits n
  | .text s => quote s
  | .list [] => ['[', ']']
  | .list (item :: rest) =>
      '[' :: (l.gap (depth + 1) ++ render l (depth + 1) item
        ++ renderItems l depth rest)
  | .object [] => ['\x7b', '\x7d']
  | .object ((key, value) :: rest) =>
      '\x7b' :: (l.gap (depth + 1) ++ quote key ++ l.colon
        ++ render l (depth + 1) value ++ renderEntries l depth rest)

/-- The items after the first of a list at the given depth, and its end. -/
def renderItems (l : Layout) (depth : Nat) : List Json → List Char
  | [] => l.gap depth ++ [']']
  | item :: rest =>
      ',' :: (l.gap (depth + 1) ++ render l (depth + 1) item
        ++ renderItems l depth rest)

/-- The entries after the first of an object at the given depth, and its
    end. -/
def renderEntries (l : Layout) (depth : Nat) : List (String × Json) → List Char
  | [] => l.gap depth ++ ['\x7d']
  | (key, value) :: rest =>
      ',' :: (l.gap (depth + 1) ++ quote key ++ l.colon
        ++ render l (depth + 1) value ++ renderEntries l depth rest)

end

/-- The value on one line. -/
def compact (j : Json) : String :=
  String.ofList (render .compact 0 j)

/-- The value over several lines. -/
def indented (j : Json) : String :=
  String.ofList (render .indented 0 j)

end Json

end BatchFilter
