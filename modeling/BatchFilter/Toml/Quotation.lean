import BatchFilter.Text.Digits

/-! # Quoted Texts

    The four kinds of quoted text in a TOML document.  They differ in the
    quote, in whether a backslash escapes, and in whether they may go over
    several lines; one reader serves them all, a character at a time.

    A text over several lines ends with three quotes, before which up to two
    more belong to the text.  A line end right after its opening quotes does
    not.  Where a backslash escapes, one at the end of a line takes away all
    white space up to the next character. -/

namespace BatchFilter.Toml

/-- A kind of quoted text. -/
structure Quotation where
  quote : Char
  /-- Does a backslash escape? -/
  escapes : Bool
  /-- Are there three quotes at each end, and lines between them? -/
  lines : Bool
  deriving DecidableEq

/-- May the character stand in a line as it is?  All but control characters
    may, and the tab may too. -/
def isPlain (c : Char) : Bool :=
  c == '\t' || (0x20 ≤ c.toNat && c.toNat != 0x7F)

/-- What a backslash and a character begin. -/
inductive Escape where
  | char (c : Char)
  /-- A code point in so many hexadecimal digits. -/
  | code (digits : Nat)

/-- What a backslash and the character begin, if anything. -/
def Escape.ofChar? (c : Char) : Option Escape :=
  match c with
  | 'b' => some (.char '\x08')
  | 't' => some (.char '\t')
  | 'n' => some (.char '\n')
  | 'f' => some (.char '\x0c')
  | 'r' => some (.char '\r')
  | 'e' => some (.char '\x1b')
  | '"' => some (.char '"')
  | '\\' => some (.char '\\')
  | 'x' => some (.code 2)
  | 'u' => some (.code 4)
  | 'U' => some (.code 8)
  | _ => none

/-- The character of a code point. -/
def charOf? (n : Nat) : Option Char :=
  if n.isValidChar then some (Char.ofNat n) else none

/-- Where in a text the reader is. -/
inductive Mode where
  | plain
  /-- After a backslash. -/
  | escape
  /-- Inside a code point: how many digits are left, and their value so
      far. -/
  | code (left : Nat) (value : Nat)
  /-- Inside the white space that a backslash takes away, before the line
      has ended or after. -/
  | fold (ended : Bool)

/-- Is the character a space or a tab? -/
def isSpace (c : Char) : Bool := c == ' ' || c == '\t'

/-- Is a line feed next? -/
def atLineFeed : List Char → Bool
  | c :: _ => c == '\n'
  | [] => false

/-- How to go on after white space that a backslash takes away.  It has to
    contain the end of a line. -/
def afterFold (ended : Bool) : List Char → Option Mode
  | [] => none
  | c :: _ =>
      if isSpace c || c == '\n' || c == '\r' then some (.fold ended)
      else if ended then some .plain
      else none

namespace Quotation

/-- After the first of the quotes that may end a text over several lines:
    how many more quotes belong to the text, and what comes after it. -/
def closing (q : Quotation) : List Char → Option (Nat × List Char)
  | c :: d :: cs =>
      if c = q.quote ∧ d = q.quote then
        let more := min 2 (cs.takeWhile (· == q.quote)).length
        some (more, cs.drop more)
      else none
  | _ => none

/-- White space that a backslash takes away: how to go on after it. -/
def foldStep (ended : Bool) (c : Char) (cs : List Char) : Option Mode :=
  if isSpace c then afterFold ended cs
  else if c = '\n' then afterFold true cs
  else if c = '\r' ∧ atLineFeed cs then some (.fold ended)
  else none

/-- Read a text whose opening quotes and characters `done` (newest first)
    have been read: the text, and what comes after its closing quotes. -/
def read (q : Quotation) (done : List Char) : Mode → List Char →
    Option (String × List Char)
  | _, [] => none
  | .plain, c :: cs =>
      if c = q.quote then
        if q.lines then
          match q.closing cs with
          | some (more, rest) =>
              some (String.ofList (List.replicate more c ++ done).reverse, rest)
          | none => read q (c :: done) .plain cs
        else some (String.ofList done.reverse, cs)
      else if c = '\\' ∧ q.escapes then read q done .escape cs
      else if isPlain c || (q.lines && (c == '\n' || (c == '\r' && atLineFeed cs))) then
        read q (c :: done) .plain cs
      else none
  | .escape, c :: cs =>
      match Escape.ofChar? c with
      | some (.char e) => read q (e :: done) .plain cs
      | some (.code digits) => read q done (.code digits 0) cs
      | none =>
          if q.lines then
            match foldStep false c cs with
            | some mode => read q done mode cs
            | none => none
          else none
  | .code left value, c :: cs =>
      match Digits.hex? c with
      | none => none
      | some d =>
          if left ≤ 1 then
            match charOf? (value * 16 + d) with
            | some e => read q (e :: done) .plain cs
            | none => none
          else read q done (.code (left - 1) (value * 16 + d)) cs
  | .fold ended, c :: cs =>
      match foldStep ended c cs with
      | some mode => read q done mode cs
      | none => none

/-- A text without the line end at its front, if there is one. -/
def dropLineEnd : List Char → List Char
  | '\n' :: cs => cs
  | '\r' :: '\n' :: cs => cs
  | cs => cs

/-- Read a quoted text on one line: the text, and what comes after it. -/
def readLine? : List Char → Option (String × List Char)
  | '"' :: cs => read ⟨'"', true, false⟩ [] .plain cs
  | '\'' :: cs => read ⟨'\'', false, false⟩ [] .plain cs
  | _ => none

/-- Read a quoted text over several lines: the text, and what comes after
    it. -/
def readLines? : List Char → Option (String × List Char)
  | '"' :: '"' :: '"' :: cs => read ⟨'"', true, true⟩ [] .plain (dropLineEnd cs)
  | '\'' :: '\'' :: '\'' :: cs =>
      read ⟨'\'', false, true⟩ [] .plain (dropLineEnd cs)
  | _ => none

/-- Does a text begin with three quotes? -/
def opensLines : List Char → Bool
  | '"' :: '"' :: '"' :: _ => true
  | '\'' :: '\'' :: '\'' :: _ => true
  | _ => false

end Quotation

end BatchFilter.Toml
