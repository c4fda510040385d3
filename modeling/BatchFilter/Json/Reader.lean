import BatchFilter.Document.Node
import BatchFilter.Json.Decimal
import BatchFilter.Text.Digits

/-! # Reading JSON

    A JSON text is read one character at a time.  The state holds the
    containers that have begun, innermost first, and what may come next;
    nothing is ever looked at twice, and containers may nest to any depth.

    * `TextDraft`: inside a text, with escapes.
    * `NumberPart`: inside a number.
    * `Reader.step`: one character.
    * `Json.read?`: a whole text.

    What the grammar allows but no reader may use (an unpaired surrogate, a
    number that is too large) is kept as such in the node. -/

namespace BatchFilter

/-! ## Section 1: Texts -/

/-- Where in a text the reader is. -/
inductive TextMode where
  | plain
  /-- After a backslash. -/
  | escape
  /-- Inside a four-digit escape: how many digits are left and their value
      so far. -/
  | unit (left : Nat) (value : Nat)

/-- A text that has begun. -/
structure TextDraft where
  /-- The characters so far, newest first. -/
  chars : List Char := []
  /-- Has every surrogate so far been part of a pair? -/
  paired : Bool := true
  /-- A leading surrogate that waits for its other half. -/
  high : Option Nat := none
  mode : TextMode := .plain

/-- What a character does to a text that has begun. -/
inductive TextStep where
  | more (t : TextDraft)
  | closed (s : Option String)
  | refused

/-- The character that a letter after a backslash stands for. -/
def unescape? (c : Char) : Option Char :=
  match c with
  | '"' => some '"'
  | '\\' => some '\\'
  | '/' => some '/'
  | 'b' => some '\x08'
  | 'f' => some '\x0c'
  | 'n' => some '\n'
  | 'r' => some '\r'
  | 't' => some '\t'
  | _ => none

namespace TextDraft

/-- Add a character.  A surrogate that was waiting stays without a pair. -/
def push (t : TextDraft) (c : Char) : TextDraft where
  chars := c :: t.chars
  paired := t.paired && t.high.isNone

/-- Add a 16-bit unit: a character, or one half of a surrogate pair. -/
def pushUnit (t : TextDraft) (u : Nat) : TextDraft :=
  let trailing := 0xDC00 ≤ u ∧ u ≤ 0xDFFF
  match t.high with
  | some h =>
      if trailing then
        { chars := Char.ofNat (0x10000 + (h - 0xD800) * 0x400 + (u - 0xDC00)) :: t.chars,
          paired := t.paired }
      else { chars := t.chars, paired := false }
  | none =>
      if 0xD800 ≤ u ∧ u ≤ 0xDBFF then
        { chars := t.chars, paired := t.paired, high := some u }
      else if trailing then { chars := t.chars, paired := false }
      else t.push (Char.ofNat u)

/-- The text that has been read, if all its surrogates are paired. -/
def close (t : TextDraft) : Option String :=
  if t.paired && t.high.isNone then some (String.ofList t.chars.reverse) else none

/-- Read one character of a text. -/
def step (t : TextDraft) (c : Char) : TextStep :=
  match t.mode with
  | .plain =>
      if c = '"' then .closed t.close
      else if c = '\\' then .more { t with mode := .escape }
      else if c.toNat < 0x20 then .refused
      else .more (t.push c)
  | .escape =>
      if c = 'u' then .more { t with mode := .unit 4 0 }
      else
        match unescape? c with
        | some e => .more (t.push e)
        | none => .refused
  | .unit left value =>
      match Digits.hex? c with
      | none => .refused
      | some d =>
          if left ≤ 1 then .more (t.pushUnit (value * 16 + d))
          else .more { t with mode := .unit (left - 1) (value * 16 + d) }

end TextDraft

/-! ## Section 2: Numbers -/

/-- Which part of a number was read last. -/
inductive NumberPart where
  | minus
  | zero
  | whole
  | point
  | fraction
  | mark
  | markSign
  | exponent

namespace NumberPart

/-- The part that a character begins or continues, if it belongs to the
    number. -/
def next? (p : NumberPart) (c : Char) : Option NumberPart :=
  match p with
  | .minus => if c = '0' then some .zero else if c.isDigit then some .whole else none
  | .zero =>
      if c = '.' then some .point
      else if c = 'e' ∨ c = 'E' then some .mark
      else none
  | .whole =>
      if c.isDigit then some .whole
      else if c = '.' then some .point
      else if c = 'e' ∨ c = 'E' then some .mark
      else none
  | .point => if c.isDigit then some .fraction else none
  | .fraction =>
      if c.isDigit then some .fraction
      else if c = 'e' ∨ c = 'E' then some .mark
      else none
  | .mark =>
      if c.isDigit then some .exponent
      else if c = '+' ∨ c = '-' then some .markSign
      else none
  | .markSign => if c.isDigit then some .exponent else none
  | .exponent => if c.isDigit then some .exponent else none

/-- May a number end with this part? -/
def ends : NumberPart → Bool
  | .zero => true
  | .whole => true
  | .fraction => true
  | .exponent => true
  | _ => false

end NumberPart

/-! ## Section 3: Values -/

/-- A container that has begun, its items or entries newest first. -/
inductive Container where
  | list (done : List Node)
  | table (done : List (Option String × Node))
  /-- A table of which the key of the next entry has been read. -/
  | entry (done : List (Option String × Node)) (key : Option String)

/-- What may come next. -/
inductive Phase where
  /-- A value, or the end of a list that has just begun. -/
  | value (orEnd : Bool)
  /-- A key, or the end of a table that has just begun. -/
  | key (orEnd : Bool)
  /-- The rest of a key or of a text value. -/
  | text (isKey : Bool) (t : TextDraft)
  /-- The colon after a key. -/
  | colon (key : Option String)
  /-- The rest of a word. -/
  | word (rest : List Char) (node : Node)
  /-- The rest of a number, with what has been read of it newest first. -/
  | number (part : NumberPart) (read : List Char)
  /-- A comma or the end of the innermost container. -/
  | separator
  /-- Nothing but white space. -/
  | complete (node : Node)

/-- The state of a reader. -/
structure Reader where
  /-- The containers that have begun, innermost first. -/
  containers : List Container
  phase : Phase

namespace Reader

/-- White space between the parts of a JSON text. -/
def isSpace (c : Char) : Bool :=
  c == ' ' || c == '\n' || c == '\t' || c == '\r'

/-- At the start of a text. -/
def start : Reader := ⟨[], .value false⟩

/-- Put a value where it belongs: into the innermost container, or at the
    end if there is none. -/
def place (node : Node) : List Container → Option Reader
  | [] => some ⟨[], .complete node⟩
  | .list done :: outer => some ⟨.list (node :: done) :: outer, .separator⟩
  | .entry done key :: outer => some ⟨.table ((key, node) :: done) :: outer, .separator⟩
  | .table _ :: _ => none

/-- End the innermost container, which must be a list. -/
def endList : List Container → Option Reader
  | .list done :: outer => place (.list done.reverse) outer
  | _ => none

/-- End the innermost container, which must be a table. -/
def endTable : List Container → Option Reader
  | .table done :: outer => place (.table done.reverse) outer
  | _ => none

/-- Begin a value with its first character. -/
def beginValue (cs : List Container) (c : Char) : Option Reader :=
  match c with
  | '"' => some ⟨cs, .text false {}⟩
  | '[' => some ⟨.list [] :: cs, .value true⟩
  | '\x7b' => some ⟨.table [] :: cs, .key true⟩
  | 'n' => some ⟨cs, .word ['u', 'l', 'l'] .null⟩
  | 't' => some ⟨cs, .word ['r', 'u', 'e'] (.bool true)⟩
  | 'f' => some ⟨cs, .word ['a', 'l', 's', 'e'] (.bool false)⟩
  | '-' => some ⟨cs, .number .minus ['-']⟩
  | '0' => some ⟨cs, .number .zero ['0']⟩
  | c => if c.isDigit then some ⟨cs, .number .whole [c]⟩ else none

/-- Read a character where a value has ended. -/
def afterValue (r : Reader) (c : Char) : Option Reader :=
  if isSpace c then some r
  else
    match r.phase, r.containers, c with
    | .separator, .list done :: outer, ',' => some ⟨.list done :: outer, .value false⟩
    | .separator, .table done :: outer, ',' => some ⟨.table done :: outer, .key false⟩
    | .separator, cs, ']' => endList cs
    | .separator, cs, '\x7d' => endTable cs
    | _, _, _ => none

/-- Read one character. -/
def step (r : Reader) (c : Char) : Option Reader :=
  match r.phase with
  | .value orEnd =>
      if isSpace c then some r
      else if c = ']' then if orEnd then endList r.containers else none
      else beginValue r.containers c
  | .key orEnd =>
      if isSpace c then some r
      else if c = '\x7d' then if orEnd then endTable r.containers else none
      else if c = '"' then some ⟨r.containers, .text true {}⟩
      else none
  | .text isKey t =>
      match t.step c with
      | .more t => some ⟨r.containers, .text isKey t⟩
      | .closed s =>
          if isKey then some ⟨r.containers, .colon s⟩
          else place (.text s) r.containers
      | .refused => none
  | .colon key =>
      if isSpace c then some r
      else
        match c, r.containers with
        | ':', .table done :: outer => some ⟨.entry done key :: outer, .value false⟩
        | _, _ => none
  | .word rest node =>
      match rest with
      | [] => none
      | [last] => if c = last then place node r.containers else none
      | next :: rest => if c = next then some ⟨r.containers, .word rest node⟩ else none
  | .number part read =>
      match part.next? c with
      | some part => some ⟨r.containers, .number part (c :: read)⟩
      | none =>
          -- Nothing marks the end of a number but what comes after it.
          if part.ends then
            (place (.number (.ofWritten read.reverse)) r.containers).bind (afterValue · c)
          else none
  | .separator => afterValue r c
  | .complete _ => afterValue r c

/-- Read characters one after another. -/
def steps (r : Reader) : List Char → Option Reader
  | [] => some r
  | c :: cs =>
      match r.step c with
      | some r => steps r cs
      | none => none

/-- The value that has been read, if the text may end here. -/
def result? (r : Reader) : Option Node :=
  match r.phase, r.containers with
  | .complete node, _ => some node
  | .number part read, [] =>
      if part.ends then some (.number (.ofWritten read.reverse)) else none
  | _, _ => none

end Reader

/-- The value that a JSON text denotes. -/
def Json.read? (text : List Char) : Option Node :=
  (Reader.start.steps text).bind Reader.result?

end BatchFilter
