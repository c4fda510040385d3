import BatchFilter.Limits
import BatchFilter.Toml.Quotation
import BatchFilter.Toml.Scalar
import BatchFilter.Toml.Table

/-! # Reading TOML

    A TOML document is a sequence of lines: headers, which say which table
    the following keys belong to, and keys with their values.  A key may be
    dotted, but only so many keys make one.  Values are scalars, lists and
    inline tables; the last two may go over several lines, and nest only so
    deep.

    A reader takes characters from the front of a text and gives what it
    has read with the rest of the text.  Repetitions are bounded by `fuel`,
    for which the length of the whole text is always enough: every round of
    a repetition takes at least one character. -/

namespace BatchFilter.Toml

/-! ## Section 1: Between the words -/

/-- A text without the spaces and tabs at its front. -/
def skipSpace (cs : List Char) : List Char :=
  cs.dropWhile isSpace

/-- Skip white space, ends of lines and comments; `inComment` if the front of
    the text is inside a comment. -/
def skipBlank (inComment : Bool) : List Char → Option (List Char)
  | [] => some []
  | c :: cs =>
      if c = '\n' then skipBlank false cs
      else if c = '\r' then if atLineFeed cs then skipBlank inComment cs else none
      else if inComment then if isPlain c then skipBlank true cs else none
      else if isSpace c then skipBlank false cs
      else if c = '#' then skipBlank true cs
      else some (c :: cs)

/-- Skip the end of a line: white space, a comment, and the line end, unless
    the document ends here. -/
def skipLineEnd (inComment : Bool) : List Char → Option (List Char)
  | [] => some []
  | c :: cs =>
      if c = '\n' then some cs
      else if c = '\r' then if atLineFeed cs then skipLineEnd inComment cs else none
      else if inComment then if isPlain c then skipLineEnd true cs else none
      else if isSpace c then skipLineEnd false cs
      else if c = '#' then skipLineEnd true cs
      else none

/-! ## Section 2: Keys -/

/-- May the character stand in a key without quotes? -/
def isBare (c : Char) : Bool :=
  c.isAlphanum || c == '_' || c == '-'

/-- A single key, quoted or bare. -/
def readKey (cs : List Char) : Option (String × List Char) :=
  match cs with
  | [] => none
  | c :: _ =>
      if c = '"' ∨ c = '\'' then
        if Quotation.opensLines cs then none else Quotation.readLine? cs
      else
        let word := cs.takeWhile isBare
        if word.isEmpty then none else some (String.ofList word, cs.dropWhile isBare)

/-- At most so many keys of a dotted key after those in `path` (newest
    first): all but the last of its keys, and the last. -/
def readKeys : Nat → List String → List Char →
    Option ((List String × String) × List Char)
  | 0, _, _ => none
  | left + 1, path, cs => do
      let (key, cs) ← readKey (skipSpace cs)
      match skipSpace cs with
      | '.' :: cs => readKeys left (key :: path) cs
      | cs => return ((path.reverse, key), cs)

/-- A dotted key, which is a single one if its path is empty. -/
def readDotted (cs : List Char) : Option ((List String × String) × List Char) :=
  readKeys Limits.dottedKeys [] cs

/-! ## Section 3: Values -/

/-- Does the character end an unquoted value? -/
def endsScalar (c : Char) : Bool :=
  isSpace c || c == '\n' || c == '\r' || c == ',' || c == '[' || c == ']' ||
    c == '\x7b' || c == '\x7d' || c == '#' || c == '='

/-- An unquoted value.  A date and a time may have a space in between. -/
def readUnquoted (cs : List Char) : Option (Node × List Char) :=
  let word := cs.takeWhile (!endsScalar ·)
  let rest := cs.dropWhile (!endsScalar ·)
  match rest with
  | ' ' :: more =>
      let both := word ++ ' ' :: more.takeWhile (!endsScalar ·)
      if Moment.isMoment both then
        some (momentNode both, more.dropWhile (!endsScalar ·))
      else (scalar? word).map fun node => (node, rest)
  | _ => (scalar? word).map fun node => (node, rest)

/-- A value that nests nothing. -/
def readScalar (cs : List Char) : Option (Node × List Char) :=
  match cs with
  | [] => none
  | c :: _ =>
      if c = '"' ∨ c = '\'' then
        (if Quotation.opensLines cs then Quotation.readLines? cs
          else Quotation.readLine? cs).map fun r => (.text (some r.1), r.2)
      else readUnquoted cs

/-- The items of a list after those in `done` (newest first), and its end. -/
def readItems (readValue : List Char → Option (Node × List Char)) :
    Nat → List Node → List Char → Option (List Node × List Char)
  | 0, _, _ => none
  | fuel + 1, done, cs => do
      match ← skipBlank false cs with
      | ']' :: cs => return (done.reverse, cs)
      | cs =>
          let (item, cs) ← readValue cs
          match ← skipBlank false cs with
          | ',' :: cs => readItems readValue fuel (item :: done) cs
          | ']' :: cs => return ((item :: done).reverse, cs)
          | _ => none

/-- The keys of an inline table after those in `t`, and its end. -/
def readPairs (readValue : List Char → Option (Node × List Char)) :
    Nat → Table → List Char → Option (Table × List Char)
  | 0, _, _ => none
  | fuel + 1, t, cs => do
      match ← skipBlank false cs with
      | '\x7d' :: cs => return (t, cs)
      | cs =>
          let ((path, key), cs) ← readDotted cs
          match ← skipBlank false cs with
          | '=' :: cs =>
              let (value, cs) ← readValue (← skipBlank false cs)
              let t ← t.addValue path key value
              match ← skipBlank false cs with
              | ',' :: cs => readPairs readValue fuel t cs
              | '\x7d' :: cs => return (t, cs)
              | _ => none
          | _ => none

/-- A value that nests lists and inline tables at most so deep. -/
def readValue (fuel : Nat) : Nat → List Char → Option (Node × List Char)
  | 0, cs => readScalar cs
  | depth + 1, cs =>
      match cs with
      | '[' :: cs =>
          (readItems (readValue fuel depth) fuel [] cs).map fun r => (.list r.1, r.2)
      | '\x7b' :: cs =>
          (readPairs (readValue fuel depth) fuel {} cs).map fun r => (r.1.toNode, r.2)
      | cs => readScalar cs

/-! ## Section 4: Documents -/

/-- A header after its first bracket. -/
def readHeader (cs : List Char) : Option (Table.Header × List Char) := do
  match cs with
  | '[' :: cs =>
      let ((path, key), cs) ← readDotted cs
      match cs with
      | ']' :: ']' :: cs => return (⟨path, key, true⟩, cs)
      | _ => none
  | cs =>
      let ((path, key), cs) ← readDotted cs
      match cs with
      | ']' :: cs => return (⟨path, key, false⟩, cs)
      | _ => none

/-- The lines of a document after those in `d`. -/
def readLines (size : Nat) : Nat → Table.Document → List Char → Option Table
  | 0, _, _ => none
  | fuel + 1, d, cs => do
      match ← skipBlank false cs with
      | [] => d.finish
      | '[' :: cs =>
          let (header, cs) ← readHeader cs
          readLines size fuel (← d.openTable header) (← skipLineEnd false cs)
      | cs =>
          let ((path, key), cs) ← readDotted cs
          match cs with
          | '=' :: cs =>
              let (value, cs) ← readValue size Limits.inlineDepth (skipSpace cs)
              readLines size fuel (← d.addValue path key value) (← skipLineEnd false cs)
          | _ => none

/-- A text without the byte order mark at its front. -/
def dropMark : List Char → List Char
  | '\uFEFF' :: cs => cs
  | cs => cs

/-- The node that a TOML text denotes, a table. -/
def read? (text : List Char) : Option Node :=
  let size := text.length + 1
  (readLines size size {} (dropMark text)).map Table.toNode

end BatchFilter.Toml
