import BatchFilter.Proofs.Lines

/-! # Reading Lines

    What reading from a source gives depends on its bytes only.  First the
    pieces are put away: taking and dropping bytes over pieces is taking and
    dropping bytes of one piece that holds them all.  Then one reading is
    told from the first line of the bytes that are left. -/

namespace BatchFilter

namespace Source

/-! ## Section 1: Pieces do not matter -/

/-- Taking from a piece that has a second one behind it. -/
theorem takeFrom_append (taken : Bytes) (wanted : Nat) (p q : Bytes) :
    takeFrom taken wanted (p ++ q) =
      match takeFrom taken wanted p with
      | (taken', _, .empty wanted') => takeFrom taken' wanted' q
      | (taken', left, .lineFeed) => (taken', left ++ q, .lineFeed)
      | (taken', left, .full) => (taken', left ++ q, .full) := by
  induction p generalizing taken wanted with
  | nil => cases wanted <;> simp [takeFrom]
  | cons b p ih =>
    cases wanted with
    | zero => simp [takeFrom]
    | succ wanted =>
      rw [List.cons_append, takeFrom, takeFrom]
      split
      · rfl
      · exact ih (b :: taken) wanted

/-- Did taking end before the bytes did? -/
def Halt.found : Halt → Bool
  | .lineFeed | .full => true
  | .empty _ => false

/-- Taking over pieces is taking from one piece that holds them all, up to
    how what is left is cut into pieces. -/
theorem takeLine_of_takeFrom {taken : Bytes} {wanted : Nat} (hw : 0 < wanted)
    {pieces : List Bytes} {taken' left : Bytes} {halt : Halt}
    (h : takeFrom taken wanted pieces.flatten = (taken', left, halt)) :
    ∃ pieces', takeLine taken wanted pieces = (taken', pieces', halt.found) ∧
      pieces'.flatten = left := by
  induction pieces generalizing taken wanted with
  | nil =>
    -- As something is wanted, both say that the bytes have run out.
    obtain ⟨wanted, rfl⟩ := Nat.exists_eq_succ_of_ne_zero (Nat.ne_of_gt hw)
    cases h
    exact ⟨[], rfl, rfl⟩
  | cons piece rest ih =>
    rw [List.flatten_cons, takeFrom_append] at h
    rw [takeLine]
    rcases hp : takeFrom taken wanted piece with ⟨taken₁, left₁, halt₁⟩
    rw [hp] at h
    cases halt₁ with
    | lineFeed =>
      cases h
      exact ⟨left₁ :: rest, rfl, rfl⟩
    | full =>
      cases h
      exact ⟨left₁ :: rest, rfl, rfl⟩
    | empty wanted' =>
      -- The piece is used up, and the next one takes its place.
      exact ih (takeFrom_empty hp).2 h

/-- Dropping from a piece that has a second one behind it. -/
theorem dropFrom_append (count : Nat) (p q : Bytes) :
    dropFrom count (p ++ q) =
      match dropFrom count p with
      | (count', left, true) => (count', left ++ q, true)
      | (count', _, false) => dropFrom count' q := by
  induction p generalizing count with
  | nil => rfl
  | cons b p ih =>
    rw [List.cons_append, dropFrom, dropFrom]
    split
    · rfl
    · exact ih (count + 1)

/-- Dropping over pieces is dropping from one piece that holds them all, up to
    how what is left is cut into pieces. -/
theorem dropLine_of_dropFrom {count : Nat} {pieces : List Bytes} {count' : Nat}
    {left : Bytes} {found : Bool}
    (h : dropFrom count pieces.flatten = (count', left, found)) :
    ∃ pieces', dropLine count pieces = (count', pieces', found) ∧ pieces'.flatten = left := by
  induction pieces generalizing count with
  | nil =>
    cases h
    exact ⟨[], rfl, rfl⟩
  | cons piece rest ih =>
    rw [List.flatten_cons, dropFrom_append] at h
    rw [dropLine]
    rcases hp : dropFrom count piece with ⟨count₁, left₁, found₁⟩
    rw [hp] at h
    cases found₁ with
    | true =>
      cases h
      exact ⟨left₁ :: rest, rfl, rfl⟩
    | false => exact ih h

/-! ## Section 2: Taking and dropping a line -/

/-- Bytes without a line feed are taken as far as they are wanted. -/
theorem takeFrom_full (taken : Bytes) {wanted : Nat} {content : Bytes} (rest : Bytes)
    (h : lineFeed ∉ content) (hw : wanted ≤ content.length) :
    takeFrom taken wanted (content ++ rest)
      = ((content.take wanted).reverse ++ taken, content.drop wanted ++ rest, .full) := by
  induction content generalizing taken wanted with
  | nil =>
    obtain rfl : wanted = 0 := by simpa using hw
    simp [takeFrom]
  | cons b content ih =>
    obtain ⟨hb, hrest⟩ := List.ne_and_not_mem_of_not_mem_cons h
    cases wanted with
    | zero => simp [takeFrom]
    | succ wanted =>
      rw [List.cons_append, takeFrom, if_neg hb.symm,
        ih (b :: taken) hrest (Nat.le_of_succ_le_succ hw)]
      simp

/-- A line that is not longer than what is wanted is taken with its line
    feed. -/
theorem takeFrom_line (taken : Bytes) {wanted : Nat} {content : Bytes} (rest : Bytes)
    (h : lineFeed ∉ content) (hw : content.length < wanted) :
    takeFrom taken wanted (content ++ lineFeed :: rest)
      = (lineFeed :: (content.reverse ++ taken), rest, .lineFeed) := by
  induction content generalizing taken wanted with
  | nil =>
    obtain ⟨wanted, rfl⟩ := Nat.exists_eq_succ_of_ne_zero (Nat.ne_of_gt hw)
    simp [takeFrom]
  | cons b content ih =>
    obtain ⟨hb, hrest⟩ := List.ne_and_not_mem_of_not_mem_cons h
    obtain ⟨wanted, rfl⟩ := Nat.exists_eq_succ_of_ne_zero (Nat.ne_of_gt (Nat.zero_lt_of_lt hw))
    rw [List.cons_append, takeFrom, if_neg hb.symm,
      ih (b :: taken) hrest (Nat.lt_of_succ_lt_succ hw)]
    simp

/-- Bytes that end before a line feed and before enough was taken. -/
theorem takeFrom_tail (taken : Bytes) {wanted : Nat} {content : Bytes}
    (h : lineFeed ∉ content) (hw : content.length < wanted) :
    takeFrom taken wanted content
      = (content.reverse ++ taken, [], .empty (wanted - content.length)) := by
  induction content generalizing taken wanted with
  | nil =>
    obtain ⟨wanted, rfl⟩ := Nat.exists_eq_succ_of_ne_zero (Nat.ne_of_gt hw)
    simp [takeFrom]
  | cons b content ih =>
    obtain ⟨hb, hrest⟩ := List.ne_and_not_mem_of_not_mem_cons h
    obtain ⟨wanted, rfl⟩ := Nat.exists_eq_succ_of_ne_zero (Nat.ne_of_gt (Nat.zero_lt_of_lt hw))
    rw [takeFrom, if_neg hb.symm, ih (b :: taken) hrest (Nat.lt_of_succ_lt_succ hw)]
    simp

theorem dropFrom_line (count : Nat) {content : Bytes} (rest : Bytes)
    (h : lineFeed ∉ content) :
    dropFrom count (content ++ lineFeed :: rest)
      = (count + content.length + 1, rest, true) := by
  induction content generalizing count with
  | nil => simp [dropFrom]
  | cons b content ih =>
    obtain ⟨hb, hrest⟩ := List.ne_and_not_mem_of_not_mem_cons h
    rw [List.cons_append, dropFrom, if_neg hb.symm, ih (count + 1) hrest, List.length_cons]
    simp only [Prod.mk.injEq, and_true]
    omega

theorem dropFrom_tail (count : Nat) {content : Bytes} (h : lineFeed ∉ content) :
    dropFrom count content = (count + content.length, [], false) := by
  induction content generalizing count with
  | nil => rfl
  | cons b content ih =>
    obtain ⟨hb, hrest⟩ := List.ne_and_not_mem_of_not_mem_cons h
    rw [dropFrom, if_neg hb.symm, ih (count + 1) hrest, List.length_cons]
    simp only [Prod.mk.injEq, and_true]
    omega

/-! ## Section 3: One reading -/

/-- The line that `takeLine` takes up to its line feed, whatever the pieces. -/
theorem takeLine_short {max : Nat} {s : Source} {content rest : Bytes}
    (h : lineFeed ∉ content) (hs : s.bytes = content ++ lineFeed :: rest)
    (hmax : content.length ≤ max) :
    ∃ left, takeLine [] (max + 1) s.pieces = (lineFeed :: content.reverse, left, true) ∧
      left.flatten = rest := by
  have hlt : content.length < max + 1 := Nat.lt_succ_of_le hmax
  have htake : takeFrom [] (max + 1) s.bytes
      = (lineFeed :: content.reverse, rest, .lineFeed) := by
    rw [hs, takeFrom_line [] rest h hlt, List.append_nil]
  exact takeLine_of_takeFrom (Nat.succ_pos max) htake

/-- Of a line past the limit one byte more than the limit is taken. -/
theorem takeLine_long {max : Nat} {s : Source} {content rest : Bytes}
    (h : lineFeed ∉ content) (hs : s.bytes = content ++ rest)
    (hmax : max < content.length) :
    ∃ left,
      takeLine [] (max + 1) s.pieces = ((content.take (max + 1)).reverse, left, true) ∧
      left.flatten = content.drop (max + 1) ++ rest := by
  have htake : takeFrom [] (max + 1) s.bytes
      = ((content.take (max + 1)).reverse, content.drop (max + 1) ++ rest, .full) := by
    rw [hs, takeFrom_full [] rest h hmax, List.append_nil]
  exact takeLine_of_takeFrom (Nat.succ_pos max) htake

/-- A last line that is not too long is taken whole, and then the bytes have
    run out. -/
theorem takeLine_tail {max : Nat} {s : Source} (h : lineFeed ∉ s.bytes)
    (hmax : s.bytes.length ≤ max) :
    ∃ left, takeLine [] (max + 1) s.pieces = (s.bytes.reverse, left, false) := by
  have hlt : s.bytes.length < max + 1 := Nat.lt_succ_of_le hmax
  have htake : takeFrom [] (max + 1) s.bytes
      = (s.bytes.reverse, [], .empty (max + 1 - s.bytes.length)) := by
    rw [takeFrom_tail [] h hlt, List.append_nil]
  obtain ⟨left, hleft, _⟩ := takeLine_of_takeFrom (Nat.succ_pos max) htake
  exact ⟨left, hleft⟩

/-- What was taken of a line past the limit is too long to be kept. -/
theorem stripEnd_long {max : Nat} {content : Bytes} (h : lineFeed ∉ content)
    (hmax : max < content.length) :
    (content.take (max + 1)).reverse.length = max + 1 ∧
      ¬(stripEnd (content.take (max + 1)).reverse).length ≤ max := by
  have hfree : lineFeed ∉ content.take (max + 1) := fun hm => h (List.mem_of_mem_take hm)
  have hlen : (content.take (max + 1)).length = max + 1 := by
    rw [List.length_take]
    omega
  rw [stripEnd_free hfree, List.length_reverse, hlen]
  exact ⟨rfl, by omega⟩

/-- A source whose bytes begin with a line gives the frame of that line and
    goes on right after its line feed. -/
theorem read_line (max : Nat) {s : Source} {content rest : Bytes}
    (h : lineFeed ∉ content) (hs : s.bytes = content ++ lineFeed :: rest) :
    ∃ s', s.read max = .frame ((Line.mk content true).frame max) s' ∧
      s'.bytes = rest ∧ s'.failure = s.failure := by
  by_cases hmax : content.length ≤ max
  · obtain ⟨left, htake, hleft⟩ := takeLine_short h hs hmax
    have hstrip := stripEnd_ended content
    have hlen : (stripEnd (lineFeed :: content.reverse)).length ≤ max := by
      rw [← List.length_reverse, hstrip]
      exact Nat.le_trans (dropReturn_length_le content) hmax
    refine ⟨⟨left, s.failure⟩, ?_, hleft, rfl⟩
    simp only [read, htake, hlen, if_true, hstrip, Line.frame, hmax]
  · have hlt : max < content.length := Nat.lt_of_not_le hmax
    obtain ⟨left, htake, hleft⟩ := takeLine_long h hs hlt
    obtain ⟨htaken, hlong⟩ := stripEnd_long h hlt
    -- What the first taking left of the line is dropped, line feed included.
    have hfree : lineFeed ∉ content.drop (max + 1) := fun hm => h (List.mem_of_mem_drop hm)
    have hdrop := dropFrom_line (max + 1) rest hfree
    rw [← hleft] at hdrop
    obtain ⟨left', hskip, hrest⟩ := dropLine_of_dropFrom hdrop
    have hlength : max + 1 + (content.drop (max + 1)).length + 1
        = (Line.mk content true).bytes.length := by
      rw [Line.bytes_ended, List.length_append, List.length_singleton, List.length_drop]
      omega
    refine ⟨⟨left', s.failure⟩, ?_, hrest, rfl⟩
    simp only [read, htake, hlong, if_false, htaken, hskip, Line.frame, hmax, hlength]

/-- A source whose bytes are a line that lacks its end gives the frame of that
    line, unless it fails behind it. -/
theorem read_tail (max : Nat) {s : Source} (hne : s.bytes ≠ []) (h : lineFeed ∉ s.bytes) :
    s.read max = s.atEnd (.frame ((Line.mk s.bytes false).frame max) ⟨[], none⟩) := by
  by_cases hmax : s.bytes.length ≤ max
  · obtain ⟨left, htake⟩ := takeLine_tail h hmax
    simp only [read, htake, Line.frame, hmax]
    simp [hne]
  · have hlt : max < s.bytes.length := Nat.lt_of_not_le hmax
    obtain ⟨left, htake, hleft⟩ := takeLine_long h (List.append_nil s.bytes).symm hlt
    obtain ⟨htaken, hlong⟩ := stripEnd_long h hlt
    -- The source ends while what is left of the line is dropped.
    have hfree : lineFeed ∉ s.bytes.drop (max + 1) := fun hm => h (List.mem_of_mem_drop hm)
    have hdrop := dropFrom_tail (max + 1) hfree
    rw [← List.append_nil (s.bytes.drop (max + 1)), ← hleft] at hdrop
    obtain ⟨left', hskip, _⟩ := dropLine_of_dropFrom hdrop
    have hlength : max + 1 + left.flatten.length = (Line.mk s.bytes false).bytes.length := by
      rw [Line.bytes_unended, hleft, List.append_nil, List.length_drop]
      omega
    simp only [read, htake, hlong, if_false, htaken, hskip, Line.frame, hmax, hlength]

/-- A source without bytes has ended, unless it fails. -/
theorem read_nothing (max : Nat) {s : Source} (h : s.bytes = []) :
    s.read max = s.atEnd .ended := by
  have hfree : lineFeed ∉ s.bytes := by rw [h]; exact List.not_mem_nil
  have hmax : s.bytes.length ≤ max := by rw [h]; exact Nat.zero_le max
  obtain ⟨left, htake⟩ := takeLine_tail hfree hmax
  rw [h] at htake
  simp [read, htake]

/-! ## Section 4: All readings -/

/-- The lines that a source delivers: those of its bytes, but if it fails it
    fails before a last line that lacks its end is known to be one. -/
def delivered (s : Source) : List Line :=
  match s.failure with
  | none => linesOf s.bytes
  | some _ => (linesOf s.bytes).filter Line.ended

theorem framesFrom_frame {max : Nat} {done : List Frame} {s rest : Source} {f : Frame}
    (h : s.read max = .frame f rest) :
    framesFrom max done s = framesFrom max (f :: done) rest := by
  rw [framesFrom]
  split <;> simp_all

theorem framesFrom_ended {max : Nat} {done : List Frame} {s : Source}
    (h : s.read max = .ended) : framesFrom max done s = (done.reverse, none) := by
  rw [framesFrom]
  split <;> simp_all

theorem framesFrom_failed {max : Nat} {done : List Frame} {s : Source} {reason : String}
    (h : s.read max = .failed reason) :
    framesFrom max done s = (done.reverse, some reason) := by
  rw [framesFrom]
  split <;> simp_all

theorem delivered_line {s s' : Source} {content : Bytes} (h : lineFeed ∉ content)
    (hs : s.bytes = content ++ lineFeed :: s'.bytes) (hf : s'.failure = s.failure) :
    s.delivered = ⟨content, true⟩ :: s'.delivered := by
  unfold delivered
  rw [hs, hf, linesOf_line _ h]
  cases s.failure <;> simp

/-- The frames of a source are those of the lines it delivers, and then it
    fails if it is one that fails. -/
theorem framesFrom_eq (max : Nat) (done : List Frame) (s : Source) :
    framesFrom max done s
      = (done.reverse ++ s.delivered.map (Line.frame max), s.failure) := by
  generalize hbs : s.bytes = bs
  induction bs using bytes_induction generalizing s done with
  | nothing =>
    have hread := read_nothing max hbs
    cases hf : s.failure with
    | none =>
      rw [framesFrom_ended (by rw [hread, atEnd, hf])]
      simp [delivered, hf, hbs, linesOf]
    | some reason =>
      rw [framesFrom_failed (by rw [hread, atEnd, hf])]
      simp [delivered, hf, hbs, linesOf]
  | tail bs hne hfree =>
    subst hbs
    have hread := read_tail max hne hfree
    cases hf : s.failure with
    | none =>
      rw [atEnd, hf] at hread
      have hend : (Source.mk [] none).read max = .ended := read_nothing max rfl
      rw [framesFrom_frame hread, framesFrom_ended hend]
      simp [delivered, hf, linesOf_tail hne hfree]
    | some reason =>
      rw [framesFrom_failed (by rw [hread, atEnd, hf])]
      simp [delivered, hf, linesOf_tail hne hfree]
  | line content rest hfree ih =>
    obtain ⟨s', hread, hrest, hf⟩ := read_line max hfree hbs
    rw [framesFrom_frame hread, ih _ s' hrest, hf,
      delivered_line hfree (by rw [hbs, hrest]) hf]
    simp

theorem frames_eq (max : Nat) (s : Source) :
    s.frames max = (s.delivered.map (Line.frame max), s.failure) :=
  framesFrom_eq max [] s

/-- Frames of a source follow the one that is read first. -/
theorem frames_frame {max : Nat} {s rest : Source} {f : Frame}
    (h : s.read max = .frame f rest) :
    (s.frames max).1 = f :: (rest.frames max).1 ∧ rest.failure = s.failure := by
  have hcut : framesFrom max [] s = framesFrom max [f] rest := framesFrom_frame h
  rw [framesFrom_eq, framesFrom_eq] at hcut
  rw [frames_eq, frames_eq]
  obtain ⟨hframes, hfailure⟩ := Prod.mk.inj hcut
  exact ⟨hframes, hfailure.symm⟩

theorem frames_ended {max : Nat} {s : Source} (h : s.read max = .ended) :
    (s.frames max).1 = [] ∧ s.failure = none := by
  have hcut : framesFrom max [] s = ([], none) := framesFrom_ended h
  rw [framesFrom_eq] at hcut
  rw [frames_eq]
  exact Prod.mk.inj hcut

theorem frames_failed {max : Nat} {s : Source} {reason : String}
    (h : s.read max = .failed reason) :
    (s.frames max).1 = [] ∧ s.failure = some reason := by
  have hcut : framesFrom max [] s = ([], some reason) := framesFrom_failed h
  rw [framesFrom_eq] at hcut
  rw [frames_eq]
  exact Prod.mk.inj hcut

/-- One reading of a source that does not fail takes its first line. -/
theorem read_first (max : Nat) {s : Source} (hf : s.failure = none) {l : Line}
    {rest : List Line} (hls : linesOf s.bytes = l :: rest) :
    ∃ s', s.read max = .frame (l.frame max) s' ∧ s'.failure = none ∧
      s.bytes = l.bytes ++ s'.bytes ∧ linesOf s'.bytes = rest := by
  rcases bytes_cases s.bytes with hs | ⟨content, left, hc, hs⟩ | ⟨hne, hs⟩
  · rw [hs, linesOf] at hls
    cases hls
  · obtain ⟨s', hread, hleft, hf'⟩ := read_line max hc hs
    rw [hs, linesOf_line left hc] at hls
    obtain ⟨rfl, rfl⟩ := List.cons.inj hls
    refine ⟨s', hread, hf'.trans hf, ?_, by rw [hleft]⟩
    rw [hs, hleft, Line.bytes_ended, List.append_assoc, List.singleton_append]
  · rw [linesOf_tail hne hs] at hls
    obtain ⟨rfl, rfl⟩ := List.cons.inj hls
    refine ⟨⟨[], none⟩, ?_, rfl, ?_, rfl⟩
    · rw [read_tail max hne hs, atEnd, hf]
    · rw [Line.bytes_unended]
      exact (List.append_nil s.bytes).symm

/-- A source that does not fail has ended exactly when no line is left. -/
theorem read_ended_iff (max : Nat) {s : Source} (hf : s.failure = none) :
    s.read max = .ended ↔ linesOf s.bytes = [] := by
  cases hls : linesOf s.bytes with
  | nil =>
    have hs : s.bytes = [] := by rw [← linesOf_bytes s.bytes, hls, List.flatMap_nil]
    rw [read_nothing max hs, atEnd, hf]
    exact ⟨fun _ => rfl, fun _ => rfl⟩
  | cons l rest =>
    obtain ⟨s', hread, _⟩ := read_first max hf hls
    rw [hread]
    constructor <;> intro h <;> cases h

/-- **Reading cuts a stream into its lines.**  One reading takes exactly the
    first line that is left and gives its frame, and there is nothing to read
    exactly when no line is left.  So all frames together are those of the
    lines of the stream, however it was cut into pieces. -/
theorem reading_cuts_lines (max : Nat) (pieces : List Bytes) :
    let s : Source := ⟨pieces, none⟩
    let ls := linesOf pieces.flatten
    (ls.flatMap Line.bytes = pieces.flatten ∧ AreLines ls) ∧
    (s.read max = .ended ↔ ls = []) ∧
    (∀ l rest, ls = l :: rest → ∃ f s', s.read max = .frame f s' ∧
      (l.content.length ≤ max →
        f = .line (if l.ended then dropReturn l.content else l.content)) ∧
      (max < l.content.length → f = .oversized l.bytes.length ∧ f.held = []) ∧
      s'.failure = none ∧ s.bytes = l.bytes ++ s'.bytes ∧ linesOf s'.bytes = rest) ∧
    s.frames max = (ls.map (Line.frame max), none) ∧
    (∀ pieces', pieces'.flatten = pieces.flatten →
      (Source.mk pieces' none).frames max = s.frames max) := by
  intro s ls
  have hframes (ps : List Bytes) : (Source.mk ps none).frames max
      = ((linesOf ps.flatten).map (Line.frame max), none) := frames_eq max ⟨ps, none⟩
  refine ⟨⟨linesOf_bytes _, areLines_linesOf _⟩, read_ended_iff max rfl, ?_,
    hframes pieces, fun ps hps => ?_⟩
  · intro l rest hls
    obtain ⟨s', hread, hrest⟩ := read_first max (s := s) rfl hls
    exact ⟨_, s', hread, Line.frame_short, fun h => ⟨Line.frame_long h, by
      rw [Line.frame_long h, Frame.held]⟩, hrest⟩
  · rw [hframes ps, hframes pieces, hps]

end Source

end BatchFilter
