import BatchFilter.Text.PrintableTable

/-! # Quoted Names

    A name between quotes for a person to read: quotes, backslashes and
    what cannot be shown are written as escapes. -/

namespace BatchFilter.Quoted

/-- The digits of a number in base 16, in lower case. -/
def hex (n : Nat) : List Char :=
  Nat.toDigits 16 n

/-- One character of a quoted name. -/
def escape (c : Char) : List Char :=
  match c with
  | '\x00' => ['\\', '0']
  | '\t' => ['\\', 't']
  | '\r' => ['\\', 'r']
  | '\n' => ['\\', 'n']
  | '\x27' => ['\\', '\x27']
  | '"' => ['\\', '"']
  | '\\' => ['\\', '\\']
  | c =>
      if PrintableTable.extending.covers c.toNat
          || PrintableTable.unprintable.covers c.toNat then
        ['\\', 'u', '\x7b'] ++ hex c.toNat ++ ['\x7d']
      else [c]

/-- A name between double quotes. -/
def name (s : String) : String :=
  String.ofList ('"' :: s.toList.flatMap escape ++ ['"'])

end BatchFilter.Quoted
