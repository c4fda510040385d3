import BatchFilter.Stream.Source

/-! # Frames

    A source is cut into frames, one for every line.  The bytes of a line
    are kept only if there are not too many of them; of a longer line
    nothing but its length is known, and reading goes on after it.

    A line ends with a line feed, which is not part of the frame, nor is a
    carriage return in front of it.  The last line may lack the end.  At
    most one byte more than the limit is ever held. -/

namespace BatchFilter

/-! ## Section 1: One frame -/

/-- What became of one line. -/
inductive Frame where
  | line (data : Bytes)
  /-- A line past the limit, with its length, line feed included. -/
  | oversized (length : Nat)
  deriving DecidableEq

/-- The bytes of a line that are held once it has been read. -/
def Frame.held : Frame → Bytes
  | .line data => data
  | .oversized _ => []

/-- What reading a frame gives. -/
inductive Reading where
  | frame (f : Frame) (rest : Source)
  | ended
  | failed (reason : String)
  deriving DecidableEq

/-- A line (newest byte first) without a line feed at its end and the
    carriage return before that. -/
def stripEnd (taken : Bytes) : Bytes :=
  match taken with
  | [] => []
  | b :: rest =>
      if b = lineFeed then
        match rest with
        | [] => []
        | c :: rest' => if c = carriageReturn then rest' else rest
      else taken

namespace Source

/-- What the end of a source means: its failure, or else `whenEnded`. -/
def atEnd (s : Source) (whenEnded : Reading) : Reading :=
  match s.failure with
  | some reason => .failed reason
  | none => whenEnded

/-- Read the next line of at most `max` bytes. -/
def read (max : Nat) (s : Source) : Reading :=
  match takeLine [] (max + 1) s.pieces with
  | (taken, left, true) =>
      -- The line has ended, or it goes on past the limit.
      if (stripEnd taken).length ≤ max then
        .frame (.line (stripEnd taken).reverse) ⟨left, s.failure⟩
      else
        match dropLine taken.length left with
        | (length, left, true) => .frame (.oversized length) ⟨left, s.failure⟩
        | (length, _, false) => s.atEnd (.frame (.oversized length) ⟨[], none⟩)
  | (taken, _, false) =>
      -- The last line, if there is one, lacks its end.
      s.atEnd (if taken.isEmpty then .ended else .frame (.line taken.reverse) ⟨[], none⟩)

/-- A frame takes at least one byte of the source. -/
theorem read_length_lt {max : Nat} {s rest : Source} {f : Frame}
    (h : s.read max = .frame f rest) : rest.bytes.length < s.bytes.length := by
  have hl := takeLine_length [] (max + 1) s.pieces
  have hlt := @takeLine_length_lt [] (max + 1) s.pieces (Nat.succ_pos max)
  unfold read at h
  unfold bytes
  split at h
  · rename_i taken left heq
    rw [heq] at hl hlt
    simp only [List.length_nil, Nat.zero_add] at hl hlt
    have hpos := hlt trivial
    split at h
    · cases h
      simp only at hl ⊢
      omega
    · have hd := dropLine_length taken.length left
      split at h
      · rename_i heq'
        rw [heq'] at hd
        have hle := le_dropLine taken.length left
        rw [heq'] at hle
        cases h
        simp only at hd hl hle ⊢
        omega
      · unfold atEnd at h
        split at h
        · cases h
        · cases h
          simp only [List.flatten_nil, List.length_nil]
          omega
  · rename_i taken left heq
    rw [heq] at hl
    unfold atEnd at h
    split at h
    · cases h
    · split at h
      · cases h
      · rename_i hne
        cases h
        cases taken with
        | nil => simp at hne
        | cons b bs =>
          simp only [List.length_cons, List.length_nil, List.flatten_nil] at hl ⊢
          omega

/-! ## Section 2: All frames -/

/-- The frames of a source after those in `done` (newest first), and how the
    source ends. -/
def framesFrom (max : Nat) (done : List Frame) (s : Source) :
    List Frame × Option String :=
  match _h : s.read max with
  | .frame f rest => framesFrom max (f :: done) rest
  | .ended => (done.reverse, none)
  | .failed reason => (done.reverse, some reason)
termination_by s.bytes.length
decreasing_by exact read_length_lt _h

/-- The frames of a source in order, and its failure if it fails. -/
def frames (max : Nat) (s : Source) : List Frame × Option String :=
  framesFrom max [] s

end Source

end BatchFilter
