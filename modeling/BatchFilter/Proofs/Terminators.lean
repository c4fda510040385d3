import BatchFilter.Proofs.Framing

/-! # Terminators and the Limit

    A line may end with a line feed alone or with a carriage return and a line
    feed, and neither is part of its frame.  But the limit counts every byte in
    front of the line feed: the carriage return takes one of the bytes that are
    allowed.  So the two terminators give different frames for exactly those
    lines whose content is as long as the limit.

    * `terminated`: a stream of contents, each with a terminator behind it.
    * `linesOf_terminated`: its lines.
    * `Line.frame_returned`, `Line.frame_plain`: the frame of a line with a
      carriage return and of one without.
    * `Source.terminators_part_at_limit`: the frames of both streams, and the
      calls at which they can be told apart. -/

namespace BatchFilter

/-! ## Section 1: Streams of terminated lines -/

/-- Contents one after another, each with `front` and a line feed behind it. -/
def terminated (front : Bytes) (contents : List Bytes) : Bytes :=
  contents.flatMap fun c => c ++ front ++ [lineFeed]

theorem terminated_cons (front c : Bytes) (contents : List Bytes) :
    terminated front (c :: contents) = (c ++ front) ++ lineFeed :: terminated front contents := by
  simp [terminated]

/-- The lines of the stream are the contents, with what is in front of the line
    feeds. -/
theorem linesOf_terminated {front : Bytes} (hfront : lineFeed ∉ front) {contents : List Bytes}
    (h : ∀ c ∈ contents, lineFeed ∉ c) :
    linesOf (terminated front contents) = contents.map fun c => ⟨c ++ front, true⟩ := by
  induction contents with
  | nil => rfl
  | cons c contents ih =>
    have hc : lineFeed ∉ c ++ front := by
      simp [h c List.mem_cons_self, hfront]
    have hrest : ∀ c' ∈ contents, lineFeed ∉ c' := by
      intro c' hc'
      exact h c' (List.mem_cons_of_mem c hc')
    rw [terminated_cons, linesOf_line _ hc, ih hrest, List.map_cons]

/-! ## Section 2: Frames of terminated lines -/

/-- With a carriage return the content may have one byte less than the
    limit. -/
theorem Line.frame_returned (max : Nat) (c : Bytes) :
    (Line.mk (c ++ [carriageReturn]) true).frame max
      = if c.length < max then .line c else .oversized (c.length + 2) := by
  have hdrop : dropReturn (c ++ [carriageReturn]) = c := by
    simp [dropReturn]
  have hlength : (c ++ [carriageReturn]).length = c.length + 1 := List.length_append
  show (if (c ++ [carriageReturn]).length ≤ max then Frame.line (dropReturn (c ++ [carriageReturn]))
    else .oversized (c ++ [carriageReturn] ++ [lineFeed]).length) = _
  rw [hdrop, hlength, List.length_append, hlength]
  -- Room for the content and the carriage return is room for one byte more
  -- than the content.
  rfl

/-- With a line feed alone it may have as many. -/
theorem Line.frame_plain (max : Nat) {c : Bytes} (h : c.getLast? ≠ some carriageReturn) :
    (Line.mk c true).frame max
      = if c.length ≤ max then .line c else .oversized (c.length + 1) := by
  have hdrop : dropReturn c = c := if_neg h
  show (if c.length ≤ max then Frame.line (dropReturn c)
    else .oversized (c ++ [lineFeed]).length) = _
  rw [hdrop, List.length_append]
  rfl

/-- The kind of a frame and the bytes that are held with it: all of a frame but
    the length of a line past the limit. -/
def Frame.seen : Frame → Bool × Bytes
  | .line data => (true, data)
  | .oversized _ => (false, [])

/-- Of the two frames of a content the kinds differ at the limit, and only
    there. -/
theorem Frame.seen_eq_iff (max : Nat) (c : Bytes) :
    seen (if c.length < max then .line c else .oversized (c.length + 2))
        = seen (if c.length ≤ max then .line c else .oversized (c.length + 1))
      ↔ c.length ≠ max := by
  rcases Nat.lt_trichotomy c.length max with hlt | heq | hgt
  · have hle : c.length ≤ max := Nat.le_of_lt hlt
    have hne : c.length ≠ max := Nat.ne_of_lt hlt
    simp [hlt, hle, hne]
  · simp [heq, seen]
  · have hnlt : ¬c.length < max := Nat.lt_asymm hgt
    have hnle : ¬c.length ≤ max := Nat.not_le_of_lt hgt
    have hne : c.length ≠ max := (Nat.ne_of_lt hgt).symm
    simp [hnlt, hnle, hne, seen]

/-! ## Section 3: Both streams -/

namespace Source

theorem frames_terminated (max : Nat) {front : Bytes} (hfront : lineFeed ∉ front)
    {contents : List Bytes} (h : ∀ c ∈ contents, lineFeed ∉ c) {pieces : List Bytes}
    (hpieces : pieces.flatten = terminated front contents) :
    (Source.mk pieces none).frames max
      = (contents.map fun c => (Line.mk (c ++ front) true).frame max, none) := by
  have hlines : (Source.mk pieces none).delivered = contents.map fun c => ⟨c ++ front, true⟩ := by
    show linesOf pieces.flatten = _
    rw [hpieces, linesOf_terminated hfront h]
  rw [frames_eq, hlines, List.map_map]
  rfl

/-- **The terminators can be told apart at the limit only.**  With a line feed
    alone a line is accepted exactly when its content has at most `max` bytes,
    and with a carriage return in front of it exactly when it has fewer.  So
    reading both streams gives, call by call, the same kinds and the same
    bytes, but for the lines whose content has `max` bytes. -/
theorem terminators_part_at_limit (max : Nat) (contents : List Bytes)
    (h : ∀ c ∈ contents, lineFeed ∉ c ∧ c.getLast? ≠ some carriageReturn)
    (pieces pieces' : List Bytes)
    (hpieces : pieces.flatten = terminated [carriageReturn] contents)
    (hpieces' : pieces'.flatten = terminated [] contents) :
    let returned := (Source.mk pieces none).frames max
    let plain := (Source.mk pieces' none).frames max
    returned = (contents.map fun c =>
      if c.length < max then .line c else .oversized (c.length + 2), none) ∧
    plain = (contents.map fun c =>
      if c.length ≤ max then .line c else .oversized (c.length + 1), none) ∧
    (∀ i : Nat, returned.1[i]?.map Frame.seen = plain.1[i]?.map Frame.seen ↔
      contents[i]?.map List.length ≠ some max) := by
  intro returned plain
  have hfree : ∀ c ∈ contents, lineFeed ∉ c := fun c hc => (h c hc).1
  have hreturned : returned = (contents.map fun c =>
      if c.length < max then .line c else .oversized (c.length + 2), none) := by
    show (Source.mk pieces none).frames max = _
    rw [frames_terminated max (by decide) hfree hpieces]
    simp only [Line.frame_returned]
  have hplain : plain = (contents.map fun c =>
      if c.length ≤ max then .line c else .oversized (c.length + 1), none) := by
    show (Source.mk pieces' none).frames max = _
    rw [frames_terminated max (by simp) hfree hpieces']
    congr 1
    apply List.map_congr_left
    intro c hc
    rw [List.append_nil, Line.frame_plain max (h c hc).2]
  refine ⟨hreturned, hplain, ?_⟩
  intro i
  rw [hreturned, hplain]
  cases hi : contents[i]? with
  | none => simp [hi]
  | some c =>
    simp only [List.getElem?_map, hi, Option.map_some, Option.some.injEq, ne_eq]
    exact Frame.seen_eq_iff max c

/-- Two bytes with a limit of two: they are refused if a carriage return
    follows, and accepted otherwise. -/
theorem terminators_part_at_limit_two :
    let contents : List Bytes := [[0x61, 0x62], [0x61], []]
    let pieces : List Bytes := [[0x61, 0x62, 0x0D], [0x0A, 0x61], [0x0D, 0x0A, 0x0D, 0x0A]]
    let pieces' : List Bytes := [[0x61], [0x62, 0x0A, 0x61, 0x0A, 0x0A]]
    (∀ c ∈ contents, lineFeed ∉ c ∧ c.getLast? ≠ some carriageReturn) ∧
    pieces.flatten = terminated [carriageReturn] contents ∧
    pieces'.flatten = terminated [] contents ∧
    (Source.mk pieces none).frames 2 = ([.oversized 4, .line [0x61], .line []], none) ∧
    (Source.mk pieces' none).frames 2 = ([.line [0x61, 0x62], .line [0x61], .line []], none) := by
  intro contents pieces pieces'
  have h : ∀ c ∈ contents, lineFeed ∉ c ∧ c.getLast? ≠ some carriageReturn := by decide
  have hpieces : pieces.flatten = terminated [carriageReturn] contents := by decide
  have hpieces' : pieces'.flatten = terminated [] contents := by decide
  obtain ⟨hreturned, hplain, _⟩ :=
    terminators_part_at_limit 2 contents h pieces pieces' hpieces hpieces'
  exact ⟨h, hpieces, hpieces', hreturned, hplain⟩

end Source

end BatchFilter
