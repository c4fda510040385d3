import BatchFilter.Text.CaseTable
import BatchFilter.Text.Ranges

/-! # Lowercase

    The full lowercase mapping of a text.  Every character has a
    counterpart of its own except two: capital I with dot above becomes two
    characters, and capital sigma is written differently at the end of a
    word. -/

namespace BatchFilter.Lowercase

/-- Is the character a letter with a case? -/
def isCased (c : Char) : Bool :=
  CaseTable.cased.covers c.toNat

/-- Is the character skipped when the letters around it are looked at? -/
def isIgnorable (c : Char) : Bool :=
  CaseTable.ignorable.covers c.toNat

/-- The counterpart that an (increasing) table of runs gives a code point. -/
def shifted (n : Nat) : List CaseTable.Run → Option Nat
  | [] => none
  | r :: rest =>
      if n < r.first then none
      else if n ≤ r.last then
        if (n - r.first) % r.step = 0 then some (n + r.shift).toNat else none
      else shifted n rest

/-- The lowercase of a single character, whatever stands around it. -/
def simple (c : Char) : Char :=
  if c.toNat < 0x80 then c.toLower
  else
    match shifted c.toNat CaseTable.lowercase with
    | some n => Char.ofNat n
    | none => c

/-- Is the first character that is not ignorable a cased one? -/
def startsCased (cs : List Char) : Bool :=
  match cs.dropWhile isIgnorable with
  | [] => false
  | c :: _ => isCased c

/-- The lowercase of one character between `before` (nearest first) and
    `after`.  A capital sigma is final if a letter comes before it and none
    after it. -/
def letter (before : List Char) (c : Char) (after : List Char) : List Char :=
  if c = 'Σ' then
    -- Only what stands around a sigma tells its two small forms apart.
    if startsCased before && !startsCased after then ['ς'] else ['σ']
  else if c = 'İ' then ['i', '\u0307']
  else [simple c]

/-- The lowercase of the text `rest` that follows `before` (nearest first),
    after the letters `done` (newest first). -/
def mapFrom (done before : List Char) : List Char → List Char
  | [] => done.reverse
  | c :: rest => mapFrom ((letter before c rest).reverse ++ done) (c :: before) rest

/-- The lowercase of a text. -/
def map (cs : List Char) : List Char :=
  mapFrom [] [] cs

/-- The lowercase of a string. -/
def string (s : String) : String :=
  String.ofList (map s.toList)

end BatchFilter.Lowercase
