/-! # Search

    The four ways a list is compared with an argument: equality, occurrence
    anywhere, at the start, or at the end.  The empty argument occurs
    everywhere. -/

namespace BatchFilter.Search

variable {α : Type} [BEq α]

/-- Does `needle` occur in the list? -/
def contains (needle : List α) : List α → Bool
  | [] => needle.isEmpty
  | x :: xs => needle.isPrefixOf (x :: xs) || contains needle xs

/-- Does the list begin with `needle`? -/
def startsWith (needle hay : List α) : Bool :=
  needle.isPrefixOf hay

/-- Does the list end with `needle`? -/
def endsWith (needle hay : List α) : Bool :=
  needle.isSuffixOf hay

end BatchFilter.Search
