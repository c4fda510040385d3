import BatchFilter.Proofs.Filtering
import BatchFilter.Proofs.Losses
import BatchFilter.Proofs.Weights
import Mathlib.Algebra.Order.BigOperators.Group.List
import Mathlib.Algebra.Order.Group.Nat

/-! # Lines That Do Not Grow

    A batch is written on one line in as few bytes as its parts can be written
    in as objects.  So what is left of a batch that was read from a line takes
    no more bytes than the line, if all parts were objects there: whatever the
    line has besides, be it white space, longer escapes, fields nobody asked for
    or keys that are repeated, only makes it longer.  A part that was given as a
    list of its fields has no names on its line, and may grow.

    * `Part.size_toJson`: a part takes no more than what it was read from.
    * `Batch.size_encode`: nor does what is left of a batch.
    * `Stage.linesFor`: the lines that a stage writes for a line.
    * `Stage.output_fits`: whole runs, and runs over what they have written. -/

namespace BatchFilter

/-! ## Section 1: Values on one line -/

namespace Json

/-- How many bytes a value takes on one line. -/
def lineSize (depth : Nat) (j : Json) : Nat :=
  Utf8.size (render .compact depth j)

/-- How many bytes an entry takes, with its colon and what is behind it. -/
def entrySize (depth : Nat) (e : String × Json) : Nat :=
  Node.textWeight (some e.1) + 1 + (lineSize depth e.2 + 1)

theorem size_renderItems (depth : Nat) (items : List Json) :
    Utf8.size (renderItems .compact depth items)
      = (items.map fun item => lineSize (depth + 1) item + 1).sum + 1 := by
  induction items with
  | nil => rfl
  | cons item rest ih =>
    rw [renderItems, Utf8.size_cons, Utf8.size_append, ih, List.map_cons, List.sum_cons]
    show 1 + (lineSize (depth + 1) item + _) = _
    omega

theorem size_renderEntries (depth : Nat) (entries : List (String × Json)) :
    Utf8.size (renderEntries .compact depth entries)
      = (entries.map (entrySize (depth + 1))).sum + 1 := by
  induction entries with
  | nil => rfl
  | cons e rest ih =>
    obtain ⟨key, value⟩ := e
    rw [renderEntries, Utf8.size_cons, Utf8.size_append, Utf8.size_append, Utf8.size_append, ih,
      List.map_cons, List.sum_cons]
    show 1 + (Node.textWeight (some key) + 1 + lineSize (depth + 1) value + _)
      = Node.textWeight (some key) + 1 + (lineSize (depth + 1) value + 1) + _ + 1
    omega

/-- A comma or the end stands behind every item. -/
theorem lineSize_list (depth : Nat) (items : List Json) :
    lineSize depth (.list items)
      = max 2 ((items.map fun item => lineSize (depth + 1) item + 1).sum + 1) := by
  cases items with
  | nil => rfl
  | cons item rest =>
    rw [lineSize, render, Utf8.size_cons, Utf8.size_append, size_renderItems, List.map_cons,
      List.sum_cons]
    show 1 + (lineSize (depth + 1) item + _) = _
    omega

theorem lineSize_object (depth : Nat) (entries : List (String × Json)) :
    lineSize depth (.object entries)
      = max 2 ((entries.map (entrySize (depth + 1))).sum + 1) := by
  cases entries with
  | nil => rfl
  | cons e rest =>
    obtain ⟨key, value⟩ := e
    rw [lineSize, render, Utf8.size_cons, Utf8.size_append, Utf8.size_append, Utf8.size_append,
      size_renderEntries, List.map_cons, List.sum_cons]
    show 1 + (Node.textWeight (some key) + 1 + lineSize (depth + 1) value + _)
      = max 2 (Node.textWeight (some key) + 1 + (lineSize (depth + 1) value + 1) + _ + 1)
    omega

end Json

/-! ## Section 2: Sums -/

section Sums

variable {α β : Type}

/-- What is read from the items of a list counts no more than these. -/
theorem sum_mapM_le {f : α → Option β} {g : β → Nat} {k : α → Nat} {l : List α} {bs : List β}
    (h : l.mapM f = some bs) (hle : ∀ a ∈ l, ∀ b, f a = some b → g b ≤ k a) :
    (bs.map g).sum ≤ (l.map k).sum := by
  induction l generalizing bs with
  | nil =>
    cases h
    exact Nat.le_refl _
  | cons a l ih =>
    rw [List.mapM_cons] at h
    obtain ⟨first, hfirst, h⟩ := Option.bind_eq_some_iff.mp h
    obtain ⟨others, hothers, h⟩ := Option.bind_eq_some_iff.mp h
    cases h
    have hhead := hle a List.mem_cons_self first hfirst
    have hrest := ih hothers fun a' ha' => hle a' (List.mem_cons_of_mem a ha')
    simp only [List.map_cons, List.sum_cons]
    omega

/-- An item counts no more than all. -/
theorem le_sum_of_mem (f : α → Nat) {a : α} {l : List α} (h : a ∈ l) : f a ≤ (l.map f).sum :=
  List.le_sum_of_mem (List.mem_map_of_mem h)

/-- Two items count no more than all. -/
theorem add_le_sum (f : α → Nat) {a b : α} {l : List α} (ha : a ∈ l) (hb : b ∈ l)
    (hne : a ≠ b) : f a + f b ≤ (l.map f).sum := by
  induction l with
  | nil => cases ha
  | cons x l ih =>
    rw [List.map_cons, List.sum_cons]
    rcases List.mem_cons.mp ha with rfl | hrest
    · have hother : b ∈ l := (List.mem_cons.mp hb).resolve_left hne.symm
      have hle := le_sum_of_mem f hother
      omega
    rcases List.mem_cons.mp hb with rfl | hother
    · have hle := le_sum_of_mem f hrest
      omega
    · have hle := ih hrest hother
      omega

/-- Putting an entry into others adds no more than the entry. -/
theorem sum_insertEntry_le (f : String × α → Nat) (key : String) (value : α)
    (es : List (String × α)) :
    ((insertEntry key value es).map f).sum ≤ f (key, value) + (es.map f).sum := by
  induction es with
  | nil => exact Nat.le_refl _
  | cons e es ih =>
    obtain ⟨k, v⟩ := e
    rw [insertEntry]
    split
    · exact Nat.le_refl _
    split
    · simp only [List.map_cons, List.sum_cons]
      omega
    · simp only [List.map_cons, List.sum_cons]
      omega

/-- A dictionary counts no more than the entries that were put into it, of which
    later ones may have replaced earlier ones. -/
theorem Dictionary.sum_ofList_le (f : String × α → Nat) (es : List (String × α)) :
    ((ofList es).entries.map f).sum ≤ (es.map f).sum := by
  suffices h : ∀ d : Dictionary α, ((es.foldl (fun d e => d.insert e.1 e.2) d).entries.map f).sum
      ≤ (d.entries.map f).sum + (es.map f).sum by
    have hempty := h empty
    rwa [empty, List.map_nil, List.sum_nil, Nat.zero_add] at hempty
  induction es with
  | nil => exact fun d => Nat.le_refl _
  | cons e es ih =>
    intro d
    have hrest := ih (d.insert e.1 e.2)
    have hinsert : ((d.insert e.1 e.2).entries.map f).sum ≤ f e + (d.entries.map f).sum :=
      sum_insertEntry_le f e.1 e.2 d.entries
    rw [List.foldl_cons, List.map_cons, List.sum_cons]
    omega

end Sums

/-! ## Section 3: Parts -/

/-- Is a node a table? -/
def Node.isTable : Node → Bool
  | .table _ => true
  | _ => false

/-- The value of a field is there under its name. -/
theorem Node.valueOf?_mem {key : String} {entries : List (Option String × Node)} {value : Node}
    (h : valueOf? key entries = some value) : (some key, value) ∈ entries := by
  obtain ⟨e, he, rfl⟩ := Option.map_eq_some_iff.mp h
  have hkey : e.1 = some key := by simpa using List.find?_some he
  rw [← hkey]
  exact List.mem_of_find?_eq_some he

namespace Part

/-- Metadata takes no more than what it was read from. -/
theorem size_metadata {room : Nat} (depth : Nat) {node : Node} {d : Dictionary String}
    (h : metadata? room node = some d) :
    Json.lineSize depth (.object (d.entries.map fun e => (e.1, .text e.2))) ≤ node.weight := by
  unfold metadata? at h
  split at h
  · cases h
  obtain ⟨entries, hentries, h⟩ := Option.bind_eq_some_iff.mp h
  obtain ⟨values, hvalues, h⟩ := Option.bind_eq_some_iff.mp h
  cases h
  unfold Node.entries? at hentries
  split at hentries
  case h_2 => cases hentries
  rename_i es
  let size : String × String → Nat := fun e => Json.entrySize (depth + 1) (e.1, .text e.2)
  -- Keys are read first, then their texts, and of equal keys only one is kept;
  -- nothing of this adds anything.
  have hkeys : (entries.map fun e => Node.entryWeight (some e.1, e.2)).sum
      ≤ (es.map Node.entryWeight).sum := by
    apply sum_mapM_le hentries
    rintro ⟨key, value⟩ - b hb
    obtain ⟨name, rfl, rfl⟩ := Option.map_eq_some_iff.mp hb
    exact Nat.le_refl _
  have htexts : (values.map size).sum
      ≤ (entries.map fun e => Node.entryWeight (some e.1, e.2)).sum := by
    apply sum_mapM_le hvalues
    rintro ⟨key, value⟩ - b hb
    obtain ⟨text, htext, rfl⟩ := Option.map_eq_some_iff.mp hb
    cases value <;> first | cases htext; exact Nat.le_refl _ | cases htext
  have hkept := Dictionary.sum_ofList_le size values
  rw [Json.lineSize_object, List.map_map, Node.weight, Node.weightEntries_eq]
  show max 2 (((Dictionary.ofList values).entries.map size).sum + 1) ≤ _
  omega

/-- What is written of a part are one or two entries. -/
theorem lineSize_toJson (depth : Nat) (p : Part) :
    Json.lineSize depth p.toJson
      = max 2 (Json.entrySize (depth + 1) ("content", .text (String.ofList p.text))
        + (if p.metadata.isEmpty then 0 else Json.entrySize (depth + 1)
          ("metadata", .object (p.metadata.entries.map fun e => (e.1, .text e.2)))) + 1) := by
  rw [toJson, Json.lineSize_object, List.map_cons, List.sum_cons]
  cases p.metadata.isEmpty <;> rfl

/-- The fields of an object are the values under their names. -/
theorem fields?_table {entries : List (Option String × Node)} {content : Node}
    {metadata : Option Node}
    (h : (Node.table entries).fields? .skipping fieldNames = some [some content, metadata]) :
    Node.valueOf? "content" entries = some content ∧
      Node.valueOf? "metadata" entries = metadata := by
  have hvalues : (if Node.admits .skipping fieldNames entries then
      some [Node.valueOf? "content" entries, Node.valueOf? "metadata" entries] else none)
        = some [some content, metadata] := h
  split at hvalues
  · simpa using hvalues
  · cases hvalues

/-- **A part takes no more than the object it was read from.** -/
theorem size_toJson {room depth : Nat} {entries : List (Option String × Node)} {p : Part}
    (h : ofNode? room (.table entries) = some p) :
    Json.lineSize depth p.toJson ≤ (Node.table entries).weight := by
  unfold ofNode? at h
  split at h
  · cases h
  split at h
  case h_2 => cases h
  rename_i content metadata hfields
  obtain ⟨hcontent, hmetadata⟩ := fields?_table hfields
  obtain ⟨text, htext, h⟩ := Option.bind_eq_some_iff.mp h
  obtain ⟨d, hd, h⟩ := Option.bind_eq_some_iff.mp h
  cases h
  obtain rfl : content = .text (some text) := by
    cases content <;> first | cases htext; rfl | cases htext
  have hmem := Node.valueOf?_mem hcontent
  have htext : String.ofList (Part.mk (Utf8.ofString text) d).text = text := by
    rw [Part.text, Utf8.ofString, Utf8.decodeLossy_encode, String.ofList_toList]
  have hentry : Json.entrySize (depth + 1) ("content", .text text)
      = Node.entryWeight (some "content", .text (some text)) := rfl
  rw [lineSize_toJson, htext, hentry, Node.weight, Node.weightEntries_eq]
  cases hempty : d.isEmpty with
  | true =>
    have hone := le_sum_of_mem Node.entryWeight hmem
    simp only [if_true]
    omega
  | false =>
    cases metadata with
    | none =>
      cases hd
      cases hempty
    | some node =>
      have hnode := size_metadata (depth + 1) hd
      have hne : (some "content", Node.text (some text)) ≠ (some "metadata", node) := by
        simp
      have htwo := add_le_sum Node.entryWeight hmem (Node.valueOf?_mem hmetadata) hne
      simp only [Node.entryWeight, Json.entrySize, Bool.false_eq_true, if_false] at htwo ⊢
      omega

end Part

/-! ## Section 4: Batches -/

namespace Batch

/-- Is every part on a line an object? -/
def inObjects (line : List Char) : Bool :=
  ((Json.read? line).bind Node.items?).any fun items => items.all Node.isTable

/-- How the batch on a line is read. -/
theorem decode_ok {line : List Char} {b : Batch} (h : decode line = .ok b) :
    Utf8.size line ≤ Limits.lineBytes ∧
      (Json.read? line).bind (ofNode? Limits.documentDepth) = some b := by
  unfold decode at h
  split at h
  · cases h
  rename_i hsize
  split at h
  · rename_i hread
    cases h
    exact ⟨Nat.le_of_not_lt hsize, hread⟩
  · cases h

theorem length_encode (parts : List Part) :
    (Utf8.ofString (encode ⟨parts⟩)).length
      = max 2 ((parts.map fun p => Json.lineSize 1 p.toJson + 1).sum + 1) := by
  rw [ofString_encode, Utf8.encode_length]
  show Json.lineSize 0 (.list (parts.map Part.toJson)) = _
  rw [Json.lineSize_list, List.map_map]
  rfl

/-- **What is left of a batch takes no more than the line it was read from**, if
    all its parts were objects there. -/
theorem size_encode {line : List Char} {b : Batch} (h : decode line = .ok b)
    (hobjects : inObjects line = true) {parts : List Part} (hparts : parts.Sublist b.parts) :
    (Utf8.ofString (encode ⟨parts⟩)).length ≤ Utf8.size line := by
  obtain ⟨items, hitems, htables⟩ := Option.any_eq_true _ _ |>.mp hobjects
  obtain ⟨node, hread, hnode⟩ := Option.bind_eq_some_iff.mp hitems
  obtain rfl : node = .list items := by
    cases node <;> first | cases hnode; rfl | cases hnode
  have hline := Json.read?_weight hread
  have hbatch := (decode_ok h).2
  rw [hread] at hbatch
  obtain ⟨all, hall, rfl⟩ := Option.map_eq_some_iff.mp hbatch
  -- Every part is paid for by its own item, and dropping parts only helps.
  have hall : (all.map fun p => Json.lineSize 1 p.toJson + 1).sum ≤ Node.weightItems items := by
    rw [Node.weightItems_eq]
    apply sum_mapM_le hall
    intro item hitem p hp
    have htable := List.all_eq_true.mp htables item hitem
    cases item <;> first | exact Nat.succ_le_succ (Part.size_toJson hp) | cases htable
  have hkept : (parts.map fun p => Json.lineSize 1 p.toJson + 1).sum
      ≤ (all.map fun p => Json.lineSize 1 p.toJson + 1).sum :=
    (hparts.map _).sum_le_sum fun _ _ => Nat.zero_le _
  rw [Node.weight] at hline
  rw [length_encode]
  omega

/-- A part that is given as a list of its fields grows. -/
example :
    let line := "[[\"\"]]".toList
    let b : Batch := ⟨[⟨[], ∅⟩]⟩
    decode line = .ok b ∧ Utf8.size line < (Utf8.ofString b.encode).length := by
  decide +kernel

end Batch

/-! ## Section 5: Lines -/

namespace Line

/-- The bytes that the batch on a line is read from. -/
def data (l : Line) : Bytes :=
  if l.ended then dropReturn l.content else l.content

/-- Is every part on a line an object? -/
def inObjects (l : Line) : Bool :=
  (Utf8.decode? l.data).any Batch.inObjects

theorem data_length_le (l : Line) : l.data.length ≤ l.content.length := by
  unfold data
  split
  · exact dropReturn_length_le l.content
  · exact Nat.le_refl _

/-- The line that carries a batch. -/
def ofBatch (b : Batch) : Line :=
  ⟨Utf8.ofString b.encode, true⟩

/-- A line that is taken for a batch carries it. -/
theorem ofLine_data {max : Nat} {l : Line} {b : Batch} (h : l.intake max = .batch b) :
    Batch.ofLine l.data = .ok b := by
  rw [intake_eq] at h
  split at h
  · cases h
  rename_i bytes hframe
  have hdata : bytes = l.data := by
    unfold frame at hframe
    split at hframe
    · cases hframe
      rfl
    · cases hframe
  split at h
  · cases h
  split at h
  · cases h
  · rename_i hline
    cases h
    rw [← hdata]
    exact hline

/-- What is left of the batch on a line takes no more than the line, and so it
    is no longer than what can be read at all. -/
theorem length_ofBatch {max : Nat} {l : Line} {b : Batch} (h : l.intake max = .batch b)
    (hobjects : l.inObjects = true) {parts : List Part} (hparts : parts.Sublist b.parts) :
    (ofBatch ⟨parts⟩).content.length ≤ l.content.length ∧
      (ofBatch ⟨parts⟩).content.length ≤ Limits.lineBytes := by
  obtain ⟨text, htext, hobjects⟩ := Option.any_eq_true _ _ |>.mp hobjects
  have hdecode := ofLine_data h
  rw [Batch.ofLine, htext] at hdecode
  have hencode := Batch.size_encode hdecode hobjects hparts
  have hlimit := (Batch.decode_ok hdecode).1
  have hlength := l.data_length_le
  rw [Utf8.decode?_eq_some.mp htext, Utf8.encode_length] at hlength
  exact ⟨Nat.le_trans hencode hlength, Nat.le_trans hencode hlimit⟩

end Line

namespace Stage

/-- The lines that a stage writes for a line. -/
def linesFor (s : Stage) (max : Nat) (l : Line) : List Line :=
  match l.intake max with
  | .batch b => (s.process b).batches.map Line.ofBatch
  | _ => []

variable {s : Stage} {max : Nat} {l l' : Line}

/-- A line that is written carries what is left of a batch. -/
theorem mem_linesFor (h : l' ∈ s.linesFor max l) :
    ∃ b parts, l.intake max = .batch b ∧ parts.Sublist b.parts ∧
      l' = Line.ofBatch ⟨parts⟩ := by
  unfold linesFor at h
  split at h
  · rename_i b hb
    rw [batches_process, Batch.sift] at h
    split at h
    · cases h
    · exact ⟨b, b.parts.filter s.keeps, hb, List.filter_sublist, List.mem_singleton.mp h⟩
  · cases h

theorem flatMap_linesFor (s : Stage) (max : Nat) (ls : List Line) :
    ls.flatMap (s.linesFor max) = (s.sifted max ls).map Line.ofBatch := by
  induction ls with
  | nil => rfl
  | cons l ls ih =>
    have hfirst : s.linesFor max l
        = ((l.intake max).batch?.toList.flatMap (Batch.sift s.keeps)).map Line.ofBatch := by
      unfold linesFor
      cases l.intake max <;> simp [Intake.batch?, batches_process]
    rw [List.flatMap_cons, ih, hfirst, ← List.map_append]
    unfold sifted batchesOf
    cases hl : (l.intake max).batch? <;> simp [hl]

/-- **A line that is written fits where the line fitted that it is written
    for**, and is then taken for a batch. -/
theorem linesFor_fits (h : l' ∈ s.linesFor max l) (hobjects : l.inObjects = true) {max' : Nat}
    (hmax' : l.content.length ≤ max') :
    l'.content.length ≤ max' ∧ l'.content.length ≤ Limits.lineBytes ∧
      ∃ b, l'.intake max' = .batch b := by
  obtain ⟨b, parts, hb, hparts, rfl⟩ := mem_linesFor h
  obtain ⟨hlength, hlimit⟩ := Line.length_ofBatch hb hobjects hparts
  have hfits := Nat.le_trans hlength hmax'
  have htext : Batch.IsText ⟨parts⟩ := fun p hp =>
    Batch.ofLine_text (Line.ofLine_data hb) p (hparts.subset hp)
  exact ⟨hfits, hlimit, _, Line.intake_encode htext hfits hlimit⟩

end Stage

/-! ## Section 6: What a run has written -/

/-- The outputs of lines are what is written for them. -/
theorem outputsOf_flatten (f : Batch → Outcome) (max : Nat) (ls : List Line) :
    (outputsOf f max ls).flatten = writtenFor f max ls := by
  induction ls with
  | nil => rfl
  | cons l ls ih =>
    unfold outputsOf writtenFor at ih ⊢
    cases hl : l.intake max with
    | tooLong | blank =>
      rw [List.filterMap_cons_none (by rw [hl]; rfl), batchesOf_none (congrArg Intake.batch? hl),
        ih]
    | unreadable =>
      rw [List.filterMap_cons_some (by rw [hl]; rfl), batchesOf_none (congrArg Intake.batch? hl),
        List.flatten_cons, List.nil_append, ih]
    | batch b =>
      rw [List.filterMap_cons_some (by rw [hl]; rfl), batchesOf_some (congrArg Intake.batch? hl),
        List.flatten_cons, List.flatMap_cons, ih]

namespace Run

theorem flush_sink (r : Run) : r.flush.sink = r.sink := by
  unfold flush andThen fail
  cases hfailure : r.failure with
  | some e => rfl
  | none => cases hflush : r.sink.flushFailure <;> simp [hflush, hfailure]

theorem fail_sink (r : Run) (e : Error) : (r.fail e).sink = r.sink := by
  unfold fail
  cases r.failure <;> rfl

/-- What is gained is written from the start on, as far as there is room. -/
theorem Gains.written_prefix {r r' : Run} {totals : Summary} {bs : Bytes}
    (h : Gains r r' totals bs) : ∃ w, r'.sink.bytes = r.sink.bytes ++ w ∧ w <+: bs := by
  by_cases hfits : r.sink.Fits bs
  · exact ⟨bs, (h.fits hfits).2.2.bytes, List.prefix_refl bs⟩
  · unfold Sink.Fits at hfits
    push Not at hfits
    obtain ⟨n, hroom, hlt⟩ := hfits
    exact ⟨bs.take n, (h.refused n hroom hlt).2, List.take_prefix n bs⟩

/-- **A run writes what is written for its lines**, from the start on, whether
    its source or its sink fails or not. -/
theorem complete_prefix (f : Batch → Outcome) (workers max : Nat) (source : Source)
    (sink : Sink) :
    ∃ w, (complete (fun b => some (f b)) workers max source sink).sink.bytes = sink.bytes ++ w ∧
      w <+: writtenFor f max source.delivered := by
  obtain ⟨houtputs, hsound⟩ := tasksOf_outputs f max 0 source.delivered
  -- However many of the first tasks are settled, they write a first piece of it.
  have hfirst : ∀ (k lines errors : Nat) (window : List Task), ∃ w,
      (((tasksOf f max 0 source.delivered).take k).foldl settle
        (Run.aside { sink := sink } lines window errors)).sink.bytes = sink.bytes ++ w ∧
      w <+: writtenFor f max source.delivered := by
    intro k lines errors window
    obtain ⟨totals, hgains⟩ := gains_tasks (r := Run.aside { sink := sink } lines window errors) rfl
      fun t ht => hsound t (List.mem_of_mem_take ht)
    obtain ⟨w, hw, hprefix⟩ := hgains.written_prefix
    refine ⟨w, hw, hprefix.trans ?_⟩
    rw [← outputsOf_flatten, ← houtputs, List.flatMap_def, List.map_take]
    exact (List.take_prefix _ _).flatten
  have halike := complete_alike (fun b => some (f b)) workers max source sink
  rw [Source.frames_eq] at halike
  rw [halike.sink]
  unfold windUp
  -- All tasks are settled, or only those the window had no place for.
  cases source.failure with
  | none =>
    have hall := hfirst (tasksOf f max 0 source.delivered).length
    rw [List.take_length] at hall
    rw [flush_sink]
    exact hall _ _ _
  | some reason =>
    rw [fail_sink]
    exact hfirst _ _ _ _

end Run

/-- The lines of a first piece of what carries batches are no longer than those
    of the batches. -/
theorem linesOf_prefix {bs : List Batch} {w : Bytes} (h : w <+: encodedLines bs)
    {l : Line} (hl : l ∈ linesOf w) :
    ∃ b ∈ bs, l.content.length ≤ (Line.ofBatch b).content.length := by
  induction bs generalizing w with
  | nil =>
    rw [List.prefix_nil.mp h] at hl
    cases hl
  | cons b bs ih =>
    have hfree := Batch.lineFeed_not_mem b
    have hbytes : encodedLines (b :: bs)
        = Utf8.ofString b.encode ++ lineFeed :: encodedLines bs := by
      rw [encodedLines_cons, Batch.toLine, List.append_assoc, List.singleton_append]
    rw [hbytes] at h
    -- Either the piece ends within the first line, or it has all of it.
    have hwithin : w <+: Utf8.ofString b.encode →
        ∃ b' ∈ b :: bs, l.content.length ≤ (Line.ofBatch b').content.length := by
      intro hw
      refine ⟨b, List.mem_cons_self, ?_⟩
      by_cases hnil : w = []
      · rw [hnil] at hl
        cases hl
      · rw [linesOf_tail hnil fun hmem => hfree (hw.subset hmem)] at hl
        rw [List.mem_singleton.mp hl]
        exact hw.length_le
    rcases List.prefix_or_prefix_of_prefix h (List.prefix_append _ _) with hw | ⟨rest, rfl⟩
    · exact hwithin hw
    rw [List.prefix_append_right_inj] at h
    cases rest with
    | nil =>
      rw [List.append_nil] at hwithin hl
      exact hwithin (List.prefix_refl _)
    | cons c rest =>
      obtain ⟨rfl, hrest⟩ := List.cons_prefix_cons.mp h
      rw [linesOf_line _ hfree] at hl
      rcases List.mem_cons.mp hl with rfl | hl
      · exact ⟨b, List.mem_cons_self, Nat.le_refl _⟩
      · obtain ⟨b', hb', hlength⟩ := ih hrest hl
        exact ⟨b', List.mem_cons_of_mem b hb', hlength⟩

namespace Stage

variable {s : Stage} {max : Nat} {ls : List Line}

/-- If all batches on lines are in objects and fit a limit, so does whatever is
    written for them. -/
theorem written_fits {max' : Nat}
    (h : ∀ l ∈ ls, ∀ b, l.intake max = .batch b → l.inObjects = true ∧ l.content.length ≤ max')
    {w : Bytes} (hw : w <+: encodedLines (s.sifted max ls)) {l : Line}
    (hl : l ∈ linesOf w) : l.content.length ≤ max' ∧ l.content.length ≤ Limits.lineBytes := by
  obtain ⟨b, hb, hlength⟩ := linesOf_prefix hw hl
  have hline : Line.ofBatch b ∈ ls.flatMap (s.linesFor max) := by
    rw [flatMap_linesFor]
    exact List.mem_map_of_mem hb
  obtain ⟨origin, horigin, hline⟩ := List.mem_flatMap.mp hline
  obtain ⟨b', _, hbatch, _⟩ := mem_linesFor hline
  obtain ⟨hobjects, hmax'⟩ := h origin horigin b' hbatch
  obtain ⟨hfits, hlimit, _⟩ := linesFor_fits hline hobjects hmax'
  exact ⟨Nat.le_trans hlength hfits, Nat.le_trans hlength hlimit⟩

/-- A run over a source and into a sink that do not fail writes one line after
    another. -/
theorem linesOf_written (s : Stage) (workers max : Nat) {source : Source} {sink : Sink}
    (hsource : source.failure = none) (hroom : sink.room = none)
    (hflush : sink.flushFailure = none) {w : Bytes}
    (hw : (Run.complete s.processor workers max source sink).sink.bytes = sink.bytes ++ w) :
    w = encodedLines (s.sifted max source.delivered) ∧
      linesOf w = source.delivered.flatMap (s.linesFor max) := by
  obtain ⟨pieces, failure⟩ := source
  obtain rfl : failure = none := hsource
  have hbytes := (Run.complete_gains s.process max workers pieces sink hroom hflush).2
  rw [writtenFor_process] at hbytes
  have hw : w = encodedLines (s.sifted max (linesOf pieces.flatten)) :=
    List.append_cancel_left (hw.symm.trans hbytes)
  refine ⟨hw, ?_⟩
  rw [flatMap_linesFor, hw, linesOf_encodedLines]
  rfl

/-- **Lines do not grow.**  What is left of a batch takes no more bytes than
    the line that it was read from, if every part was an object there.  So a
    line that a run writes for such a line fits every limit that one fitted,
    and is taken for a batch there.  Whether its source or its sink fails or
    not, a run that has its window writes these lines one after another, as far
    as it gets.  If all its batches were in objects and fitted a limit, a run
    over what it has written finds no line that is too long under that limit;
    and if nothing failed, none that is an error. -/
theorem output_fits :
    (∀ (line : List Char) (b : Batch), Batch.decode line = .ok b → Batch.inObjects line = true →
      ∀ parts : List Part, parts.Sublist b.parts →
        (Utf8.ofString (Batch.encode ⟨parts⟩)).length ≤ (Utf8.encode line).length) ∧
    ∀ (s : Stage) (workers max : Nat) (source : Source) (sink : Sink),
      let lines := source.delivered
      let output := lines.flatMap (s.linesFor max)
      let whole := source.failure = none ∧ sink.room = none ∧ sink.flushFailure = none
      (∀ l ∈ lines, l.inObjects = true → ∀ l' ∈ s.linesFor max l, ∀ max', l.content.length ≤ max' →
        l'.content.length ≤ max' ∧ ∃ b, l'.intake max' = .batch b) ∧
      ∃ written,
        (Run.complete s.processor workers max source sink).sink.bytes = sink.bytes ++ written ∧
        written <+: output.flatMap Line.bytes ∧ (whole → linesOf written = output) ∧
        ∀ max', (∀ l ∈ lines, ∀ b, l.intake max = .batch b →
            l.inObjects = true ∧ l.content.length ≤ max') →
          ∀ later : Source, later.bytes = written →
            (∀ f ∈ (later.frames max').1, ∃ data, f = .line data ∧
              data.length ≤ Limits.lineBytes) ∧
            (whole → ∀ (s' : Stage) (workers' : Nat), ∃ totals,
              (s'.run workers' max' later.pieces).result = .ok totals ∧ totals.errors = 0) := by
  constructor
  · intro line b hb hobjects parts hparts
    rw [Utf8.encode_length]
    exact Batch.size_encode hb hobjects hparts
  intro s workers max source sink lines output whole
  have houtput : output.flatMap Line.bytes = encodedLines (s.sifted max lines) := by
    rw [show output = _ from s.flatMap_linesFor max lines, List.flatMap_map]
    rfl
  obtain ⟨written, hwritten, hprefix⟩ := Run.complete_prefix s.process workers max source sink
  rw [writtenFor_process] at hprefix
  refine ⟨?_, written, hwritten, houtput ▸ hprefix, ?_, ?_⟩
  · intro l _ hobjects l' hl' max' hmax'
    obtain ⟨hfits, -, hbatch⟩ := linesFor_fits hl' hobjects hmax'
    exact ⟨hfits, hbatch⟩
  · rintro ⟨hsource, hroom, hflush⟩
    exact (s.linesOf_written workers max hsource hroom hflush hwritten).2
  · rintro max' hobjects later rfl
    constructor
    · intro f hf
      rw [Source.frames_eq] at hf
      obtain ⟨l, hl, rfl⟩ := List.mem_map.mp hf
      have hl : l ∈ linesOf later.bytes := by
        unfold Source.delivered at hl
        split at hl
        · exact hl
        · exact List.mem_of_mem_filter hl
      obtain ⟨hfits, hlimit⟩ := written_fits hobjects hprefix hl
      exact ⟨l.data, Line.frame_short hfits, Nat.le_trans l.data_length_le hlimit⟩
    · rintro ⟨hsource, hroom, hflush⟩ s' workers'
      obtain ⟨hbytes, -⟩ := s.linesOf_written workers max hsource hroom hflush hwritten
      obtain ⟨totals, hresult, herrors, -⟩ := s'.run_lines workers' (fun b hb => sifted_text hb)
        (fun l hl => written_fits hobjects (List.prefix_refl _) hl) hbytes
      exact ⟨totals, hresult, herrors⟩

/-- A line with white space, a field nobody asked for, a key that is repeated,
    escapes that need not be, metadata without a key, and a carriage return. -/
def spaced : String :=
  "[ \x7b\"metadata\":\x7b\"k\":\"\\u0041\",\"k\":\"\\/\"\x7d ,\"x\":[null],"
    ++ "\"content\":\"\\ud83d\\ude00\"\x7d,"
    ++ "\x7b\"content\":\"\\u0007\",\"metadata\":\x7b\x7d\x7d]\r"

/-- What is left of its batch, and a run over what a run has written for it: the
    limit of the second run is the length of the line. -/
theorem output_fits_spaced :
    let b : Batch := ⟨[⟨Utf8.ofString "😀", .ofList [("k", "/")]⟩, ⟨[0x07], ∅⟩]⟩
    let s : Stage :=
      ⟨.leaf (.metadata .present 0 "k") (.ofKind .discard "metadata"), .ofRegistry .discard⟩
    Batch.decode spaced.toList = .ok b ∧
    (Utf8.ofString (Batch.encode ⟨b.parts.drop 1⟩)).length
      ≤ (Utf8.encode spaced.toList).length ∧
    ∃ written, (s.run 2 200 [Utf8.ofString spaced ++ [lineFeed]]).sink.bytes = written ∧
      ∃ totals, (s.run 1 (Utf8.ofString spaced).length [written]).result = .ok totals ∧
        totals.errors = 0 := by
  intro b s
  have hdecode : Batch.decode spaced.toList = .ok b := by decide +kernel
  have hobjects : Batch.inObjects spaced.toList = true := by decide +kernel
  obtain ⟨hencode, hruns⟩ := output_fits
  obtain ⟨-, written, hwritten, -, -, hlater⟩ :=
    hruns s 2 200 ⟨[Utf8.ofString spaced ++ [lineFeed]], none⟩ {}
  have hlines : ∀ l ∈ linesOf [Utf8.ofString spaced ++ [lineFeed]].flatten,
      ∀ b, l.intake 200 = .batch b →
        l.inObjects = true ∧ l.content.length ≤ (Utf8.ofString spaced).length := by
    have hall : ∀ l ∈ linesOf [Utf8.ofString spaced ++ [lineFeed]].flatten,
        l.inObjects = true ∧ l.content.length ≤ (Utf8.ofString spaced).length := by
      decide +kernel
    exact fun l hl _ _ => hall l hl
  obtain ⟨-, hread⟩ := hlater _ hlines ⟨[written], none⟩ List.flatten_singleton
  exact ⟨hdecode, hencode _ _ hdecode hobjects _ (List.drop_sublist 1 b.parts), written,
    hwritten, hread ⟨rfl, rfl, rfl⟩ s 1⟩

end Stage

end BatchFilter
