import BatchFilter.Stream.Frame

/-! # Lines

    A byte string is made of lines: each goes up to and including the next
    line feed, and only the last one may lack it.  This is what reading
    frames from a source is measured against; a source delivers the same
    bytes in pieces, and its frames are those of the lines of these bytes.

    * `linesOf`: the lines of a byte string.
    * `bytes_induction`: induction line by line.
    * `areLines_linesOf`: they are its lines.
    * `Line.frame`: the frame that a line has to give. -/

namespace BatchFilter

/-! ## Section 1: The lines of a byte string -/

/-- A line of a byte string. -/
structure Line where
  /-- The bytes in front of the line feed, or of the end of the string. -/
  content : Bytes
  /-- Does a line feed end the line? -/
  ended : Bool
  deriving DecidableEq

namespace Line

/-- The line as it stands in the byte string. -/
def bytes (l : Line) : Bytes :=
  l.content ++ if l.ended then [lineFeed] else []

@[simp] theorem bytes_ended (content : Bytes) :
    (Line.mk content true).bytes = content ++ [lineFeed] := rfl

@[simp] theorem bytes_unended (content : Bytes) :
    (Line.mk content false).bytes = content := by
  simp [bytes]

end Line

/-- Put a byte in front of the first line. -/
def consByte (b : UInt8) : List Line → List Line
  | [] => [⟨[b], false⟩]
  | l :: rest => { l with content := b :: l.content } :: rest

/-- The lines of a byte string. -/
def linesOf : Bytes → List Line
  | [] => []
  | b :: bs => if b = lineFeed then ⟨[], true⟩ :: linesOf bs else consByte b (linesOf bs)

theorem consByte_bytes {b : UInt8} {ls : List Line} :
    (consByte b ls).flatMap Line.bytes = b :: ls.flatMap Line.bytes := by
  cases ls <;> simp [consByte, Line.bytes]

/-- Nothing is lost when a byte string is cut into lines. -/
theorem linesOf_bytes (bs : Bytes) : (linesOf bs).flatMap Line.bytes = bs := by
  induction bs with
  | nil => rfl
  | cons b bs ih =>
    rw [linesOf]
    split
    · rename_i hb
      simp [hb, ih]
    · rw [consByte_bytes, ih]

/-- What is in front of a line feed is the first line. -/
theorem linesOf_line {content : Bytes} (rest : Bytes) (h : lineFeed ∉ content) :
    linesOf (content ++ lineFeed :: rest) = ⟨content, true⟩ :: linesOf rest := by
  induction content with
  | nil => simp [linesOf]
  | cons b content ih =>
    have hb : b ≠ lineFeed := fun heq => h (by simp [heq])
    have hrest : lineFeed ∉ content := fun hm => h (List.mem_cons_of_mem b hm)
    rw [List.cons_append, linesOf, if_neg hb, ih hrest]
    rfl

/-- Bytes without a line feed are one line that lacks its end. -/
theorem linesOf_tail {content : Bytes} (hne : content ≠ []) (h : lineFeed ∉ content) :
    linesOf content = [⟨content, false⟩] := by
  induction content with
  | nil => exact absurd rfl hne
  | cons b content ih =>
    have hb : b ≠ lineFeed := fun heq => h (by simp [heq])
    have hrest : lineFeed ∉ content := fun hm => h (List.mem_cons_of_mem b hm)
    rw [linesOf, if_neg hb]
    cases content with
    | nil => rfl
    | cons c content =>
      rw [ih (List.cons_ne_nil c content) hrest]
      rfl

/-- Every byte string is nothing, or a line and what follows it, or a last
    line that lacks its end. -/
theorem bytes_cases (bs : Bytes) :
    bs = [] ∨ (∃ content rest, lineFeed ∉ content ∧ bs = content ++ lineFeed :: rest) ∨
      (bs ≠ [] ∧ lineFeed ∉ bs) := by
  induction bs with
  | nil => exact Or.inl rfl
  | cons b bs ih =>
    by_cases hb : b = lineFeed
    · exact Or.inr (Or.inl ⟨[], bs, by simp, by simp [hb]⟩)
    · rcases ih with rfl | ⟨content, rest, hc, rfl⟩ | ⟨_, hbs⟩
      · exact Or.inr (Or.inr ⟨by simp, by simpa using Ne.symm hb⟩)
      · exact Or.inr (Or.inl ⟨b :: content, rest, by simp [hc, Ne.symm hb], rfl⟩)
      · exact Or.inr (Or.inr ⟨by simp, by simp [hbs, Ne.symm hb]⟩)

/-- What holds of nothing, of a last line that lacks its end, and of a line in
    front of what it holds of, holds of every byte string. -/
theorem bytes_induction {P : Bytes → Prop} (nothing : P [])
    (tail : ∀ bs, bs ≠ [] → lineFeed ∉ bs → P bs)
    (line : ∀ content rest, lineFeed ∉ content → P rest → P (content ++ lineFeed :: rest))
    (bs : Bytes) : P bs := by
  rcases bytes_cases bs with rfl | ⟨content, rest, hc, hbs⟩ | ⟨hne, hbs⟩
  · exact nothing
  · have hlt : rest.length < bs.length := by
      rw [hbs, List.length_append, List.length_cons]
      omega
    rw [hbs]
    exact line content rest hc (bytes_induction nothing tail line rest)
  · exact tail bs hne hbs
termination_by bs.length

/-- The parts of a byte string that `linesOf` gives are its lines: no content
    has a line feed, no line is empty, and every line but the last has its
    end. -/
structure AreLines (ls : List Line) : Prop where
  free : ∀ l ∈ ls, lineFeed ∉ l.content
  nonempty : ∀ l ∈ ls, l.bytes ≠ []
  ended : ∀ l ∈ ls.dropLast, l.ended = true

theorem areLines_linesOf (bs : Bytes) : AreLines (linesOf bs) := by
  induction bs using bytes_induction with
  | nothing => exact ⟨by simp [linesOf], by simp [linesOf], by simp [linesOf]⟩
  | tail bs hne hbs =>
    rw [linesOf_tail hne hbs]
    exact ⟨by simpa using hbs, by simpa using hne, by simp⟩
  | line content rest hc ih =>
    rw [linesOf_line rest hc]
    refine ⟨?_, ?_, ?_⟩
    · intro l hl
      rcases List.mem_cons.mp hl with rfl | hl
      · exact hc
      · exact ih.free l hl
    · intro l hl
      rcases List.mem_cons.mp hl with rfl | hl
      · simp
      · exact ih.nonempty l hl
    · cases hrest : linesOf rest with
      | nil => simp
      | cons l' ls' =>
        intro l hl
        rw [List.dropLast_cons_of_ne_nil (List.cons_ne_nil l' ls')] at hl
        rcases List.mem_cons.mp hl with rfl | hl
        · rfl
        · exact ih.ended l (hrest ▸ hl)

/-! ## Section 2: The frame of a line -/

/-- Bytes without a carriage return at their end. -/
def dropReturn (bs : Bytes) : Bytes :=
  if bs.getLast? = some carriageReturn then bs.dropLast else bs

/-- The frame that a line has to give: its content if that is no longer than
    the limit, less a carriage return if a line feed follows, and else its
    full length. -/
def Line.frame (max : Nat) (l : Line) : Frame :=
  if l.content.length ≤ max then
    .line (if l.ended then dropReturn l.content else l.content)
  else .oversized l.bytes.length

theorem Line.frame_short {max : Nat} {l : Line} (h : l.content.length ≤ max) :
    l.frame max = .line (if l.ended then dropReturn l.content else l.content) :=
  if_pos h

theorem Line.frame_long {max : Nat} {l : Line} (h : max < l.content.length) :
    l.frame max = .oversized l.bytes.length :=
  if_neg (Nat.not_le_of_lt h)

/-- What is stripped from a line that was read to its end is what the line
    feed and a carriage return in front of it take. -/
theorem stripEnd_ended (content : Bytes) :
    (stripEnd (lineFeed :: content.reverse)).reverse = dropReturn content := by
  rcases List.eq_nil_or_concat content with rfl | ⟨front, last, rfl⟩
  · rfl
  · by_cases h : last = carriageReturn <;> simp [stripEnd, dropReturn, h]

/-- Nothing is stripped from bytes that do not end with a line feed. -/
theorem stripEnd_free {content : Bytes} (h : lineFeed ∉ content) :
    stripEnd content.reverse = content.reverse := by
  rcases List.eq_nil_or_concat content with rfl | ⟨front, last, rfl⟩
  · rfl
  · have hlast : last ≠ lineFeed := fun heq => h (by simp [heq])
    simp [stripEnd, hlast]

theorem dropReturn_length_le (bs : Bytes) : (dropReturn bs).length ≤ bs.length := by
  unfold dropReturn
  split <;> simp

end BatchFilter
