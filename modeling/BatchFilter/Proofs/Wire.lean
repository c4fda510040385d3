import BatchFilter.Batch.Written
import BatchFilter.Proofs.Dictionaries
import BatchFilter.Proofs.Encoding
import BatchFilter.Proofs.Framing
import BatchFilter.Proofs.JsonText
import BatchFilter.Run

/-! # Batches There and Back

    A batch that was written on a line is read from it again, with what was
    no UTF-8 in its contents replaced (`Batch.lossy`).  Nothing that contents
    or metadata hold can end the line or a text on it: written JSON has no
    control characters.

    * `Batch.ofNode?_toJson`: a batch and its JSON.
    * `Batch.ofLine_encode`: a batch and its line.
    * `Batch.lines_are_read`: batches and the stream of their lines. -/

namespace BatchFilter

/-! ## Section 1: A batch and its JSON -/

/-- The part with the bytes of its text for content. -/
def Part.lossy (p : Part) : Part :=
  { p with content := Utf8.encode p.text }

/-- The batch that reading the line of a batch gives. -/
def Batch.lossy (b : Batch) : Batch :=
  ⟨b.parts.map Part.lossy⟩

/-- Text is not changed. -/
theorem Part.lossy_text {p : Part} {cs : List Char} (h : p.content = Utf8.encode cs) :
    p.lossy = p := by
  unfold lossy text
  rw [h, Utf8.decodeLossy_encode, ← h]

/-- Reading every item of a list. -/
theorem mapM_some {α β : Type} {f : α → Option β} {g : α → β} {l : List α}
    (h : ∀ a ∈ l, f a = some (g a)) : l.mapM f = some (l.map g) := by
  induction l with
  | nil => rfl
  | cons a l ih =>
    rw [List.mapM_cons, h a List.mem_cons_self, ih fun a' ha' => h a' (List.mem_cons_of_mem a ha')]
    rfl

/-- What was read from a list was read from one of its items. -/
theorem mem_of_mapM {α β : Type} {f : α → Option β} {l : List α} {bs : List β}
    (h : l.mapM f = some bs) {b : β} (hb : b ∈ bs) : ∃ a ∈ l, f a = some b := by
  induction l generalizing bs with
  | nil =>
    cases h
    cases hb
  | cons a l ih =>
    rw [List.mapM_cons] at h
    obtain ⟨first, hfirst, h⟩ := Option.bind_eq_some_iff.mp h
    obtain ⟨others, hothers, h⟩ := Option.bind_eq_some_iff.mp h
    cases h
    rcases List.mem_cons.mp hb with rfl | hb
    · exact ⟨a, List.mem_cons_self, hfirst⟩
    · obtain ⟨a', ha', hread⟩ := ih hothers hb
      exact ⟨a', List.mem_cons_of_mem a ha', hread⟩

/-- Written entries can all be read. -/
theorem Json.entries?_node (entries : List (String × Json)) :
    (Json.object entries).node.entries? = some (entries.map fun e => (e.1, e.2.node)) := by
  rw [node, entryNodes_eq, Node.entries?, List.mapM_map]
  exact mapM_some fun e _ => rfl

namespace Part

/-- Metadata is read from its JSON. -/
theorem metadata?_node (room : Nat) (d : Dictionary String) :
    metadata? (room + 1) (Json.node (.object (d.entries.map fun e => (e.1, .text e.2))))
      = some d := by
  have hentries : (Json.node (.object (d.entries.map fun e => (e.1, .text e.2)))).entries?
      = some (d.entries.map fun e => (e.1, .text (some e.2))) := by
    rw [Json.entries?_node, List.map_map]
    rfl
  have hvalues : (d.entries.map fun e => (e.1, Node.text (some e.2))).mapM
      (fun e => e.2.text?.map fun v => (e.1, v)) = some d.entries := by
    rw [List.mapM_map]
    exact (mapM_some (g := id) fun e _ => rfl).trans (by rw [List.map_id])
  unfold metadata?
  rw [if_neg (Nat.succ_ne_zero room), hentries]
  simp only [bind, pure, Option.bind_some, hvalues, Dictionary.ofList_entries]

/-- A part's JSON: its content, and its metadata unless there is none. -/
def jsonOf (content : Json) (metadata : Option Json) : Json :=
  .object (("content", content) ::
    match metadata with
    | none => []
    | some m => [("metadata", m)])

theorem fields?_jsonOf (content : Json) (metadata : Option Json) :
    (jsonOf content metadata).node.fields? .skipping fieldNames
      = some [some content.node, metadata.map Json.node] := by
  cases metadata <;>
    simp [jsonOf, Json.node, Json.entryNodes, Node.fields?, Node.admits, fieldNames,
      Dialect.skipping, Node.countKey, Node.valueOf?]

theorem toJson_eq (room : Nat) (p : Part) :
    ∃ metadata, p.toJson = jsonOf (.text (String.ofList p.text)) metadata ∧
      Node.fieldOr ∅ (metadata? (room + 1)) (metadata.map Json.node) = some p.metadata := by
  unfold toJson
  cases hempty : p.metadata.isEmpty with
  | true =>
    refine ⟨none, rfl, congrArg some ?_⟩
    obtain ⟨content, ⟨entries, hentries⟩⟩ := p
    obtain rfl : entries = [] := List.isEmpty_iff.mp hempty
    rfl
  | false => exact ⟨some _, rfl, metadata?_node room p.metadata⟩

/-- A part is read from its JSON. -/
theorem ofNode?_toJson (room : Nat) (p : Part) :
    ofNode? (room + 2) p.toJson.node = some p.lossy := by
  obtain ⟨metadata, hjson, hmetadata⟩ := toJson_eq room p
  unfold ofNode?
  rw [if_neg (Nat.succ_ne_zero _), hjson, fields?_jsonOf]
  simp only [Json.node, Node.text?, Nat.add_one_sub_one, hmetadata, bind, pure, Option.bind_some,
    Utf8.ofString, String.toList_ofList]
  rfl

end Part

/-- A batch is read from its JSON. -/
theorem Batch.ofNode?_toJson (room : Nat) (b : Batch) :
    ofNode? (room + 3) b.toJson.node = some b.lossy := by
  have hitems : (b.parts.map Part.toJson).map Json.node
      = b.parts.map fun p => p.toJson.node := List.map_map
  have hparts : List.mapM (Part.ofNode? (room + 3 - 1) ∘ fun p => p.toJson.node) b.parts
      = some (b.parts.map Part.lossy) := mapM_some fun p _ => Part.ofNode?_toJson room p
  unfold ofNode? toJson
  rw [if_neg (Nat.succ_ne_zero _), Json.node, Json.nodes_eq, hitems, Node.items?,
    Option.bind_some, List.mapM_map, hparts]
  rfl

/-! ## Section 2: A batch and its line -/

namespace Batch

/-- The bytes of the line that carries a batch, without its end. -/
theorem ofString_encode (b : Batch) :
    Utf8.ofString b.encode = Utf8.encode (Json.render .compact 0 b.toJson) := by
  rw [Utf8.ofString, encode, Json.compact, String.toList_ofList]

/-- **Nothing that a batch holds can end its line.** -/
theorem encode_free (b : Batch) {byte : UInt8} (h : byte ∈ Utf8.ofString b.encode) :
    0x20 ≤ byte.toNat := by
  -- A byte past the first 128 is no control character anyway.
  by_cases hascii : byte.toNat < 0x80
  · rw [ofString_encode] at h
    obtain ⟨c, hc, hbyte⟩ := Utf8.mem_encode_ascii h hascii
    have hvisible := Json.visible_render 0 b.toJson c hc
    omega
  · omega

theorem lineFeed_not_mem (b : Batch) : lineFeed ∉ Utf8.ofString b.encode :=
  fun h => absurd (encode_free b h) (by decide)

/-- The line of a batch does not end with a carriage return. -/
theorem dropReturn_encode (b : Batch) :
    dropReturn (Utf8.ofString b.encode) = Utf8.ofString b.encode := by
  apply if_neg
  intro h
  have hvisible := encode_free b (List.mem_of_getLast? h)
  exact absurd hvisible (by decide)

/-- **A batch is read from its line**, if that is not too long. -/
theorem ofLine_encode (b : Batch)
    (h : (Utf8.ofString b.encode).length ≤ Limits.lineBytes) :
    ofLine (Utf8.ofString b.encode) = .ok b.lossy := by
  rw [ofString_encode, Utf8.encode_length] at h
  have hread : (Json.read? (Json.render .compact 0 b.toJson)).bind
      (ofNode? Limits.documentDepth) = some b.lossy := by
    rw [Json.read?_render Json.Layout.spaced_compact b.toJson (by rintro ⟨n, hn⟩; cases hn),
      Option.bind_some]
    exact ofNode?_toJson 124 b
  rw [ofString_encode, ofLine, Utf8.decode?_encode]
  simp only [decode, if_neg (Nat.not_lt_of_le h), hread]

/-! ## Section 3: Batches and the stream of their lines -/

/-- The lines of a stream of batches are the lines they were written as. -/
theorem linesOf_toLine (bs : List Batch) :
    linesOf (bs.flatMap toLine) = bs.map fun b => ⟨Utf8.ofString b.encode, true⟩ := by
  induction bs with
  | nil => rfl
  | cons b bs ih =>
    rw [List.flatMap_cons, toLine, List.append_assoc, List.singleton_append,
      linesOf_line _ (lineFeed_not_mem b), ih, List.map_cons]

theorem frame_encode {max : Nat} {b : Batch} (h : (Utf8.ofString b.encode).length ≤ max) :
    (Line.mk (Utf8.ofString b.encode) true).frame max = .line (Utf8.ofString b.encode) := by
  rw [Line.frame_short (l := ⟨Utf8.ofString b.encode, true⟩) h, if_pos rfl, dropReturn_encode]

theorem lossy_eq (b : Batch) :
    b.lossy = ⟨b.parts.map fun p => ⟨Utf8.encode (Utf8.decodeLossy p.content), p.metadata⟩⟩ :=
  rfl

/-- A batch of texts is not changed. -/
theorem lossy_text {b : Batch} (h : ∀ p ∈ b.parts, (Utf8.decode? p.content).isSome) :
    b.lossy = b := by
  have hparts : b.parts.map Part.lossy = b.parts.map id := by
    apply List.map_congr_left
    intro p hp
    obtain ⟨cs, hcs⟩ := Option.isSome_iff_exists.mp (h p hp)
    exact Part.lossy_text (Utf8.decode?_eq_some.mp hcs)
  rw [lossy, hparts, List.map_id]

/-- **Batches that are written as lines are read again**, as many and in the
    same order, however the stream is cut into pieces: every part has its
    metadata, and the text of its content for content, which is its content
    where that is UTF-8. -/
theorem lines_are_read (max : Nat) (bs : List Batch)
    (hlines : ∀ b ∈ bs, (Utf8.ofString b.encode).length ≤ Limits.lineBytes)
    (hmax : ∀ b ∈ bs, (Utf8.ofString b.encode).length ≤ max)
    (pieces : List Bytes) (hpieces : pieces.flatten = bs.flatMap toLine) :
    ∃ lines : List Bytes,
      (Source.mk pieces none).frames max = (lines.map Frame.line, none) ∧
      (lines.map ofLine = bs.map fun b => .ok ⟨b.parts.map fun p =>
        ⟨Utf8.encode (Utf8.decodeLossy p.content), p.metadata⟩⟩) ∧
      ((∀ b ∈ bs, ∀ p ∈ b.parts, (Utf8.decode? p.content).isSome) →
        lines.map ofLine = bs.map .ok) := by
  have hread : (bs.map fun b => Utf8.ofString b.encode).map ofLine
      = bs.map fun b => .ok b.lossy := by
    rw [List.map_map]
    apply List.map_congr_left
    intro b hb
    rw [Function.comp_apply, ofLine_encode b (hlines b hb)]
  refine ⟨bs.map fun b => Utf8.ofString b.encode, ?_, ?_, ?_⟩
  · have hframes := Source.frames_eq max ⟨pieces, none⟩
    rw [show (Source.mk pieces none).delivered = linesOf (bs.flatMap toLine) from
      congrArg linesOf hpieces, linesOf_toLine, List.map_map] at hframes
    have hlines : bs.map (Line.frame max ∘ fun b => ⟨Utf8.ofString b.encode, true⟩)
        = bs.map (Frame.line ∘ fun b => Utf8.ofString b.encode) := by
      apply List.map_congr_left
      intro b hb
      rw [Function.comp_apply, Function.comp_apply, frame_encode (hmax b hb)]
    rw [hframes, List.map_map, hlines]
  · simpa only [lossy_eq] using hread
  · intro htext
    rw [hread]
    apply List.map_congr_left
    intro b hb
    exact congrArg Except.ok (lossy_text (htext b hb))

/-- A batch with a line feed, a quote and a byte that is no UTF-8, and an empty
    batch, cut into two pieces in the middle of the first line. -/
theorem lines_are_read_broken :
    let b : Batch := ⟨[⟨[0x0A, 0x22, 0xFF], ∅⟩]⟩
    let stream := [b, ⟨[]⟩].flatMap toLine
    ∃ lines : List Bytes,
      (Source.mk [stream.take 5, stream.drop 5] none).frames 100
        = (lines.map Frame.line, none) ∧
      lines.map ofLine = [.ok ⟨[⟨[0x0A, 0x22, 0xEF, 0xBF, 0xBD], ∅⟩]⟩, .ok ⟨[]⟩] := by
  intro b stream
  have hshort : ∀ b' ∈ [b, ⟨[]⟩], (Utf8.ofString b'.encode).length ≤ 100 := by
    intro b' hb'
    rw [ofString_encode]
    revert b'
    decide
  have hlines : ∀ b' ∈ [b, ⟨[]⟩], (Utf8.ofString b'.encode).length ≤ Limits.lineBytes :=
    fun b' hb' => Nat.le_trans (hshort b' hb') (by decide)
  obtain ⟨lines, hframes, hread, _⟩ := lines_are_read 100 [b, ⟨[]⟩] hlines hshort
    [stream.take 5, stream.drop 5] (by simp [stream])
  exact ⟨lines, hframes, hread⟩

end Batch

end BatchFilter
