/-! # Dates and Times

    The texts that denote a date, a time, or both, as a TOML value does:
    `1979-05-27`, `07:32`, `07:32:00.5`, `1979-05-27T07:32:00Z`.  Only
    whether a text is one matters here, since nothing in a config is a date;
    the ranges of its fields are part of that. -/

namespace BatchFilter.Moment

/-- The number of exactly `n` digits at the front of a text, added to
    `value`. -/
def digits? (value : Nat) : Nat → List Char → Option (Nat × List Char)
  | 0, cs => some (value, cs)
  | _ + 1, [] => none
  | n + 1, c :: cs =>
      if c.isDigit then digits? (value * 10 + (c.toNat - '0'.toNat)) n cs else none

/-- A two-digit field that is at most `limit`. -/
def field? (limit : Nat) (cs : List Char) : Option (List Char) :=
  match digits? 0 2 cs with
  | some (n, rest) => if n ≤ limit then some rest else none
  | none => none

/-- A given character. -/
def mark? (c : Char) : List Char → Option (List Char)
  | [] => none
  | d :: rest => if d = c then some rest else none

/-! ## Section 1: Dates -/

/-- How many days a month has. -/
def daysIn (year month : Nat) : Nat :=
  if month = 2 then
    if year % 4 = 0 ∧ (year % 100 ≠ 0 ∨ year % 400 = 0) then 29 else 28
  else if month = 4 ∨ month = 6 ∨ month = 9 ∨ month = 11 then 30
  else 31

/-- A date: year, month and day, of a day that exists. -/
def date? (cs : List Char) : Option (List Char) := do
  let (year, cs) ← digits? 0 4 cs
  let cs ← mark? '-' cs
  let (month, cs) ← digits? 0 2 cs
  let cs ← mark? '-' cs
  let (day, cs) ← digits? 0 2 cs
  if 1 ≤ month ∧ month ≤ 12 ∧ 1 ≤ day ∧ day ≤ daysIn year month then some cs
  else none

/-! ## Section 2: Times -/

/-- The fraction of a second, if there is one. -/
def fraction? : List Char → Option (List Char)
  | '.' :: c :: cs => if c.isDigit then some (cs.dropWhile Char.isDigit) else none
  | '.' :: [] => none
  | cs => some cs

/-- The second, which may be left out. -/
def second? : List Char → Option (List Char)
  | ':' :: cs => (field? 60 cs).bind fraction?
  | cs => some cs

/-- A time of day. -/
def time? (cs : List Char) : Option (List Char) := do
  let cs ← field? 23 cs
  let cs ← mark? ':' cs
  let cs ← field? 59 cs
  second? cs

/-- The distance from universal time, which may be left out. -/
def offset? : List Char → Option (List Char)
  | 'Z' :: cs => some cs
  | 'z' :: cs => some cs
  | '+' :: cs => distance? cs
  | '-' :: cs => distance? cs
  | cs => some cs
where
  /-- Hours and minutes. -/
  distance? (cs : List Char) : Option (List Char) := do
    let cs ← field? 23 cs
    let cs ← mark? ':' cs
    field? 59 cs

/-! ## Section 3: Both -/

/-- What may follow a date: nothing, or a time with or without offset. -/
def timeAfterDate? : List Char → Option (List Char)
  | [] => some []
  | c :: cs =>
      if c = 'T' ∨ c = 't' ∨ c = ' ' then (time? cs).bind offset? else none

/-- Does the text denote a date, a time of day, or a date with a time? -/
def isMoment (cs : List Char) : Bool :=
  (date? cs).bind timeAfterDate? == some [] || time? cs == some []

end BatchFilter.Moment
