import BatchFilter.Json.Reader
import BatchFilter.Json.Value

/-! # Reading Written JSON

    Reading what was written gives the node of the value (`Json.node`), in
    every layout that adds white space only.  The reader is an automaton
    with a stack of open containers; what it does with the text of a value
    is told for any stack: it ends where it would be with the node of the
    value put in place.

    * `Reader.steps_quote`: a text, whatever its characters are.
    * `Reader.steps_render`: a value inside of any containers.
    * `Json.read?_render`: a whole text.
    * `Json.visible_render`: what is written on one line stays on it. -/

namespace BatchFilter

/-! ## Section 1: The node of a value -/

namespace Json

mutual

/-- The node that a value is read as. -/
def node : Json → Node
  | .null => .null
  | .bool b => .bool b
  | .int n => .number (.ofWritten (digits n))
  | .text s => .text (some s)
  | .list items => .list (nodes items)
  | .object entries => .table (entryNodes entries)

/-- The nodes of items. -/
def nodes : List Json → List Node
  | [] => []
  | item :: rest => item.node :: nodes rest

/-- The nodes of entries. -/
def entryNodes : List (String × Json) → List (Option String × Node)
  | [] => []
  | (key, value) :: rest => (some key, value.node) :: entryNodes rest

end

theorem nodes_eq (items : List Json) : nodes items = items.map node := by
  induction items with
  | nil => rfl
  | cons item rest ih => rw [nodes, ih, List.map_cons]

theorem entryNodes_eq (entries : List (String × Json)) :
    entryNodes entries = entries.map fun e => (some e.1, e.2.node) := by
  induction entries with
  | nil => rfl
  | cons e rest ih => rw [entryNodes, ih, List.map_cons]

/-- A layout that adds white space only. -/
structure Layout.Spaced (l : Layout) : Prop where
  gap : ∀ depth, ∀ c ∈ l.gap depth, Reader.isSpace c = true
  colon : ∃ space, l.colon = ':' :: space ∧ ∀ c ∈ space, Reader.isSpace c = true

theorem Layout.spaced_compact : Layout.compact.Spaced :=
  ⟨nofun, [], rfl, nofun⟩

theorem Layout.spaced_indented : Layout.indented.Spaced := by
  refine ⟨?_, [' '], rfl, ?_⟩
  · intro depth c hc
    -- A gap is a new line and blanks.
    rcases List.mem_cons.mp hc with rfl | hc
    · rfl
    · rw [List.eq_of_mem_replicate hc]
      rfl
  · intro c hc
    rw [List.mem_singleton.mp hc]
    rfl

end Json

namespace Reader

theorem steps_cons (r : Reader) (c : Char) (cs : List Char) :
    r.steps (c :: cs) = (r.step c).bind (·.steps cs) := by
  rw [steps]
  cases r.step c <;> rfl

/-! ## Section 2: Texts -/

/-- The reader inside a text, all its surrogates paired so far. -/
def inText (containers : List Container) (isKey : Bool) (chars : List Char) : Reader :=
  ⟨containers, .text isKey ⟨chars, true, none, .plain⟩⟩

theorem hex?_digitChar : ∀ d < 16, Digits.hex? (Nat.digitChar d) = some d := by
  decide

/-- A control character is read from its four digits. -/
theorem steps_control (containers : List Container) (isKey : Bool) (chars : List Char)
    {c : Char} (h : c.toNat < 0x20) (rest : List Char) :
    (inText containers isKey chars).steps
        (['\\', 'u', '0', '0'] ++ Json.hexPair c.toNat ++ rest)
      = (inText containers isKey (c :: chars)).steps rest := by
  have hhigh := hex?_digitChar (c.toNat / 16) (by omega)
  have hlow := hex?_digitChar (c.toNat % 16) (by omega)
  have hzero : Digits.hex? '0' = some 0 := rfl
  have hnat : c.toNat / 16 * 16 + c.toNat % 16 = c.toNat := by omega
  have hplain : ¬(0xD800 ≤ c.toNat ∧ c.toNat ≤ 0xDBFF) := by omega
  have hplain' : ¬(0xDC00 ≤ c.toNat ∧ c.toNat ≤ 0xDFFF) := by omega
  simp [inText, steps_cons, step, TextDraft.step, Json.hexPair, hhigh, hlow, hzero, hnat,
    TextDraft.pushUnit, TextDraft.push, hplain, hplain']

/-- A character is read from how it is escaped. -/
theorem steps_escape (containers : List Container) (isKey : Bool) (chars : List Char)
    (c : Char) (rest : List Char) :
    (inText containers isKey chars).steps (Json.escape c ++ rest)
      = (inText containers isKey (c :: chars)).steps rest := by
  unfold Json.escape
  split
  case h_8 hq hb _ _ _ _ _ =>
    -- All the other characters have an escape of two characters each.
    have hquote : c ≠ '"' := hq
    have hbackslash : c ≠ '\\' := hb
    by_cases h : c.toNat < 0x20
    · rw [if_pos h]
      exact steps_control containers isKey chars h rest
    · rw [if_neg h, List.singleton_append, steps_cons]
      simp [inText, step, TextDraft.step, hquote, hbackslash, h, TextDraft.push]
  all_goals rfl

/-- All the characters of a text are read. -/
theorem steps_escapes (containers : List Container) (isKey : Bool) (chars cs rest : List Char) :
    (inText containers isKey chars).steps (cs.flatMap Json.escape ++ rest)
      = (inText containers isKey (cs.reverse ++ chars)).steps rest := by
  induction cs generalizing chars with
  | nil => rfl
  | cons c cs ih =>
    rw [List.flatMap_cons, List.append_assoc, steps_escape, ih, List.reverse_cons,
      List.append_assoc, List.singleton_append]

/-- **A text is read as it was written**, and ends at its quote. -/
theorem steps_quote (containers : List Container) (isKey : Bool) (s : String)
    (rest : List Char) :
    (inText containers isKey []).steps (s.toList.flatMap Json.escape ++ '"' :: rest)
      = if isKey then steps ⟨containers, .colon (some s)⟩ rest
        else (place (.text (some s)) containers).bind (·.steps rest) := by
  rw [steps_escapes, List.append_nil, steps_cons]
  have hclose : step (inText containers isKey s.toList.reverse) '"'
      = if isKey then some ⟨containers, .colon (some s)⟩
        else place (.text (some s)) containers := by
    simp [inText, step, TextDraft.step, TextDraft.close]
  rw [hclose]
  cases isKey <;> rfl

/-! ## Section 3: White space -/

/-- A state in which white space is left out. -/
def Skips (r : Reader) : Prop :=
  ∀ c, isSpace c = true → r.step c = some r

theorem skips_value (containers : List Container) (orEnd : Bool) :
    Skips ⟨containers, .value orEnd⟩ :=
  fun _ hc => if_pos hc

theorem skips_key (containers : List Container) (orEnd : Bool) :
    Skips ⟨containers, .key orEnd⟩ :=
  fun _ hc => if_pos hc

theorem skips_separator (containers : List Container) : Skips ⟨containers, .separator⟩ :=
  fun _ hc => if_pos hc

theorem Skips.steps {r : Reader} (h : r.Skips) {space : List Char}
    (hspace : ∀ c ∈ space, isSpace c = true) (rest : List Char) :
    r.steps (space ++ rest) = r.steps rest := by
  induction space with
  | nil => rfl
  | cons c space ih =>
    rw [List.cons_append, steps_cons, h c (hspace c List.mem_cons_self)]
    exact ih fun c' hc' => hspace c' (List.mem_cons_of_mem c hc')

/-! ## Section 4: Numbers -/

/-- A character that ends a number, as a number is followed by in a text that
    was written. -/
def isEnd (c : Char) : Bool :=
  isSpace c || c == ',' || c == ']' || c == '\x7d'

/-- Does a text begin with the end of a number? -/
def Delimited (rest : List Char) : Prop :=
  ∃ c tail, rest = c :: tail ∧ isEnd c = true

/-- An integer may end after a zero or after any of its digits. -/
theorem next?_isEnd {part : NumberPart} (h : part = .zero ∨ part = .whole) {c : Char}
    (hc : isEnd c = true) : part.ends = true ∧ part.next? c = none := by
  simp only [isEnd, isSpace, Bool.or_eq_true, beq_iff_eq] at hc
  rcases h with rfl | rfl <;> rcases hc with (((((rfl | rfl) | rfl) | rfl) | rfl) | rfl) | rfl
    <;> exact ⟨rfl, rfl⟩

theorem next?_digit {c : Char} (h : c.isDigit = true) :
    NumberPart.next? .whole c = some .whole :=
  if_pos h

/-- The digits of a positive number: its first one, which is not zero, and the
    others. -/
theorem toDigits_pos {m : Nat} (hm : 0 < m) :
    ∃ k ds, Nat.toDigits 10 m = Nat.digitChar k :: ds ∧ 0 < k ∧ k < 10 ∧
      ∀ c ∈ ds, c.isDigit = true := by
  induction m using Nat.strongRecOn with
  | ind m ih =>
    rw [Nat.toDigits_eq_if (by omega)]
    by_cases hlt : m < 10
    · exact ⟨m, [], if_pos hlt, hm, hlt, nofun⟩
    · obtain ⟨k, ds, hdigits, hk, hk', hds⟩ := ih (m / 10) (by omega) (by omega)
      refine ⟨k, ds ++ [Nat.digitChar (m % 10)], ?_, hk, hk', ?_⟩
      · rw [if_neg hlt, hdigits]
        rfl
      · intro c hc
        rcases List.mem_append.mp hc with hc | hc
        · exact hds c hc
        · rw [List.mem_singleton.mp hc, Nat.isDigit_digitChar]
          exact decide_eq_true (Nat.mod_lt m (by omega))

theorem steps_digits (containers : List Container) (read : List Char) {ds : List Char}
    (h : ∀ c ∈ ds, c.isDigit = true) (rest : List Char) :
    steps ⟨containers, .number .whole read⟩ (ds ++ rest)
      = steps ⟨containers, .number .whole (ds.reverse ++ read)⟩ rest := by
  induction ds generalizing read with
  | nil => rfl
  | cons c ds ih =>
    have hstep : step ⟨containers, .number .whole read⟩ c
        = some ⟨containers, .number .whole (c :: read)⟩ := by
      simp only [step, next?_digit (h c List.mem_cons_self)]
    rw [List.cons_append, steps_cons, hstep, List.reverse_cons, List.append_assoc,
      List.singleton_append]
    exact ih (c :: read) fun c' hc' => h c' (List.mem_cons_of_mem c hc')

/-- A digit that is not zero begins the whole part, after a minus sign or
    not. -/
theorem step_digitChar (containers : List Container) (orEnd : Bool) {k : Nat} (hk : 0 < k)
    (hk' : k < 10) :
    step ⟨containers, .value orEnd⟩ (Nat.digitChar k)
        = some ⟨containers, .number .whole [Nat.digitChar k]⟩ ∧
      step ⟨containers, .number .minus ['-']⟩ (Nat.digitChar k)
        = some ⟨containers, .number .whole [Nat.digitChar k, '-']⟩ := by
  obtain rfl | rfl | rfl | rfl | rfl | rfl | rfl | rfl | rfl :
      k = 1 ∨ k = 2 ∨ k = 3 ∨ k = 4 ∨ k = 5 ∨ k = 6 ∨ k = 7 ∨ k = 8 ∨ k = 9 := by omega
  all_goals exact ⟨rfl, rfl⟩

/-- The digits of an integer are read up to a part that may end. -/
theorem steps_int (containers : List Container) (orEnd : Bool) (n : Int) (rest : List Char) :
    ∃ part, (part = .zero ∨ part = .whole) ∧
      steps ⟨containers, .value orEnd⟩ (Json.digits n ++ rest)
        = steps ⟨containers, .number part (Json.digits n).reverse⟩ rest := by
  unfold Json.digits
  by_cases hneg : n < 0
  · obtain ⟨k, ds, hdigits, hk, hk', hds⟩ := toDigits_pos (m := n.natAbs) (by omega)
    refine ⟨.whole, Or.inr rfl, ?_⟩
    have hminus : step ⟨containers, .value orEnd⟩ '-'
        = some ⟨containers, .number .minus ['-']⟩ := rfl
    rw [if_pos hneg, hdigits, List.cons_append, List.cons_append, steps_cons, hminus,
      Option.bind_some, steps_cons, (step_digitChar containers orEnd hk hk').2,
      Option.bind_some, steps_digits containers _ hds]
    simp
  rw [if_neg hneg]
  by_cases h0 : n.natAbs = 0
  · rw [h0, Nat.toDigits_zero]
    exact ⟨.zero, Or.inl rfl, rfl⟩
  · obtain ⟨k, ds, hdigits, hk, hk', hds⟩ := toDigits_pos (Nat.pos_of_ne_zero h0)
    refine ⟨.whole, Or.inr rfl, ?_⟩
    rw [hdigits, List.cons_append, steps_cons, (step_digitChar containers orEnd hk hk').1,
      Option.bind_some, steps_digits containers _ hds]
    simp

/-- Where a value has been put, reading goes on after it. -/
theorem step_placed {node : Node} {containers : List Container} {r : Reader}
    (h : place node containers = some r) (c : Char) : r.step c = r.afterValue c := by
  unfold place at h
  split at h <;> first | cases h; rfl | cases h

/-- **An integer is read as it was written**, up to what follows it. -/
theorem steps_number (containers : List Container) (orEnd : Bool) (n : Int) {rest : List Char}
    (hrest : Delimited rest) :
    steps ⟨containers, .value orEnd⟩ (Json.digits n ++ rest)
      = (place (Json.node (.int n)) containers).bind (·.steps rest) := by
  obtain ⟨c, tail, rfl, hc⟩ := hrest
  -- The character that ends the number is then read after its value.
  obtain ⟨part, hpart, hsteps⟩ := steps_int containers orEnd n (c :: tail)
  obtain ⟨hends, hnext⟩ := next?_isEnd hpart hc
  have hstep : step ⟨containers, .number part (Json.digits n).reverse⟩ c
      = (place (Json.node (.int n)) containers).bind (afterValue · c) := by
    simp only [step, hnext, hends, if_true, List.reverse_reverse, Json.node]
  rw [hsteps, steps_cons, hstep]
  cases hplace : place (Json.node (.int n)) containers with
  | none => rfl
  | some r =>
    rw [Option.bind_some, Option.bind_some, steps_cons, step_placed hplace]

/-! ## Section 5: Values -/

/-- What a reader that read so much does with a value and what follows it: it
    goes on where the value's node was put.  A number needs something to
    follow it. -/
def ReadsValue (l : Json.Layout) (depth : Nat) (j : Json) : Prop :=
  ∀ containers orEnd rest, ((∃ n, j = .int n) → Delimited rest) →
    steps ⟨containers, .value orEnd⟩ (Json.render l depth j ++ rest)
      = (place j.node containers).bind (·.steps rest)

/-- The items that follow in a list, and its end. -/
def ReadsItems (l : Json.Layout) (depth : Nat) (items : List Json) : Prop :=
  ∀ containers done rest,
    steps ⟨.list done :: containers, .separator⟩ (Json.renderItems l depth items ++ rest)
      = (place (.list (done.reverse ++ Json.nodes items)) containers).bind (·.steps rest)

/-- The entries that follow in a table, and its end. -/
def ReadsEntries (l : Json.Layout) (depth : Nat) (entries : List (String × Json)) : Prop :=
  ∀ containers done rest,
    steps ⟨.table done :: containers, .separator⟩ (Json.renderEntries l depth entries ++ rest)
      = (place (.table (done.reverse ++ Json.entryNodes entries)) containers).bind
          (·.steps rest)

/-- The last character of a word. -/
theorem steps_last (containers : List Container) (node : Node) (c : Char) (rest : List Char) :
    steps ⟨containers, .word [c] node⟩ (c :: rest)
      = (place node containers).bind (·.steps rest) := by
  rw [steps_cons]
  simp only [step, if_true]

theorem isEnd_space {c : Char} (h : isSpace c = true) : isEnd c = true := by
  simp [isEnd, h]

/-- White space and then an end are an end. -/
theorem delimited_append {space : List Char} (hspace : ∀ c ∈ space, isSpace c = true)
    {c : Char} (hc : isEnd c = true) (tail : List Char) : Delimited (space ++ c :: tail) := by
  cases space with
  | nil => exact ⟨c, tail, rfl, hc⟩
  | cons c' space =>
    exact ⟨c', space ++ c :: tail, rfl, isEnd_space (hspace c' List.mem_cons_self)⟩

theorem delimited_items {l : Json.Layout} (hl : l.Spaced) (depth : Nat) (items : List Json)
    (rest : List Char) : Delimited (Json.renderItems l depth items ++ rest) := by
  cases items with
  | nil =>
    rw [Json.renderItems, List.append_assoc, List.singleton_append]
    exact delimited_append (hl.gap depth) rfl rest
  | cons item items => exact ⟨',', _, rfl, rfl⟩

theorem delimited_entries {l : Json.Layout} (hl : l.Spaced) (depth : Nat)
    (entries : List (String × Json)) (rest : List Char) :
    Delimited (Json.renderEntries l depth entries ++ rest) := by
  cases entries with
  | nil =>
    rw [Json.renderEntries, List.append_assoc, List.singleton_append]
    exact delimited_append (hl.gap depth) rfl rest
  | cons e entries => exact ⟨',', _, rfl, rfl⟩

/-- An item in a list, be it the first one or not, and all that follows it. -/
theorem steps_item {l : Json.Layout} (hl : l.Spaced) {depth : Nat} {item : Json}
    {items : List Json} (hitem : ReadsValue l (depth + 1) item)
    (hitems : ReadsItems l depth items) (containers : List Container) (done : List Node)
    (orEnd : Bool) (rest : List Char) :
    steps ⟨.list done :: containers, .value orEnd⟩
        (l.gap (depth + 1) ++ Json.render l (depth + 1) item
          ++ Json.renderItems l depth items ++ rest)
      = (place (.list (done.reverse ++ Json.nodes (item :: items))) containers).bind
          (·.steps rest) := by
  rw [List.append_assoc, List.append_assoc, (skips_value _ orEnd).steps (hl.gap _),
    hitem _ _ _ fun _ => delimited_items hl depth items rest]
  show steps ⟨.list (item.node :: done) :: containers, .separator⟩ _ = _
  rw [hitems containers (item.node :: done) rest, List.reverse_cons, List.append_assoc,
    List.singleton_append, Json.nodes]

/-- An entry of a table, be it the first one or not, and all that follows it. -/
theorem steps_entry {l : Json.Layout} (hl : l.Spaced) {depth : Nat} {key : String}
    {value : Json} {entries : List (String × Json)} (hvalue : ReadsValue l (depth + 1) value)
    (hentries : ReadsEntries l depth entries) (containers : List Container)
    (done : List (Option String × Node)) (orEnd : Bool) (rest : List Char) :
    steps ⟨.table done :: containers, .key orEnd⟩
        (l.gap (depth + 1) ++ Json.quote key ++ l.colon ++ Json.render l (depth + 1) value
          ++ Json.renderEntries l depth entries ++ rest)
      = (place (.table (done.reverse ++ Json.entryNodes ((key, value) :: entries)))
          containers).bind (·.steps rest) := by
  obtain ⟨space, hcolon, hspace⟩ := hl.colon
  have hopen : ∀ cs, steps ⟨.table done :: containers, .key orEnd⟩ ('"' :: cs)
      = (inText (.table done :: containers) true []).steps cs := fun _ => rfl
  have hmiddle : ∀ cs, steps ⟨.table done :: containers, .colon (some key)⟩ (':' :: cs)
      = steps ⟨.entry done (some key) :: containers, .value false⟩ cs := fun _ => rfl
  simp only [List.append_assoc, Json.quote, List.cons_append]
  rw [(skips_key _ orEnd).steps (hl.gap _), hopen, List.nil_append, steps_quote, if_pos rfl,
    hcolon, List.cons_append, hmiddle, (skips_value _ false).steps hspace,
    hvalue _ _ _ fun _ => delimited_entries hl depth entries rest]
  show steps ⟨.table ((some key, value.node) :: done) :: containers, .separator⟩ _ = _
  rw [hentries containers _ rest, List.reverse_cons, List.append_assoc,
    List.singleton_append, Json.entryNodes]

theorem readsItems_nil {l : Json.Layout} (hl : l.Spaced) (depth : Nat) :
    ReadsItems l depth [] := by
  intro containers done rest
  rw [Json.renderItems, List.append_assoc, (skips_separator _).steps (hl.gap depth),
    List.singleton_append, steps_cons, Json.nodes, List.append_nil]
  rfl

theorem readsEntries_nil {l : Json.Layout} (hl : l.Spaced) (depth : Nat) :
    ReadsEntries l depth [] := by
  intro containers done rest
  rw [Json.renderEntries, List.append_assoc, (skips_separator _).steps (hl.gap depth),
    List.singleton_append, steps_cons, Json.entryNodes, List.append_nil]
  rfl

mutual

/-- **A value is read as it was written**, inside of any containers. -/
theorem steps_render {l : Json.Layout} (hl : l.Spaced) (depth : Nat) :
    ∀ j : Json, ReadsValue l depth j
  | .null => by
      intro containers _ rest _
      rw [Json.render]
      exact steps_last containers .null 'l' rest
  | .bool true => by
      intro containers _ rest _
      rw [Json.render]
      exact steps_last containers (.bool true) 'e' rest
  | .bool false => by
      intro containers _ rest _
      rw [Json.render]
      exact steps_last containers (.bool false) 'e' rest
  | .int n => by
      intro containers orEnd rest hrest
      rw [Json.render]
      exact steps_number containers orEnd n (hrest ⟨n, rfl⟩)
  | .text s => by
      intro containers _ rest _
      rw [Json.render, Json.quote, List.cons_append, List.append_assoc, List.singleton_append]
      exact steps_quote containers false s rest
  | .list [] => by
      intro containers _ rest _
      rw [Json.render]
      exact steps_cons ⟨.list [] :: containers, .value true⟩ ']' rest
  | .list (item :: items) => by
      intro containers _ rest _
      have hitem := steps_render hl (depth + 1) item
      have hitems := steps_renderItems hl depth items
      rw [Json.render, List.cons_append]
      exact steps_item hl hitem hitems containers [] true rest
  | .object [] => by
      intro containers _ rest _
      rw [Json.render]
      exact steps_cons ⟨.table [] :: containers, .key true⟩ '\x7d' rest
  | .object ((key, value) :: entries) => by
      intro containers _ rest _
      have hvalue := steps_render hl (depth + 1) value
      have hentries := steps_renderEntries hl depth entries
      rw [Json.render, List.cons_append]
      exact steps_entry hl hvalue hentries containers [] true rest

theorem steps_renderItems {l : Json.Layout} (hl : l.Spaced) (depth : Nat) :
    ∀ items : List Json, ReadsItems l depth items
  | [] => readsItems_nil hl depth
  | item :: items => by
      intro containers done rest
      have hitem := steps_render hl (depth + 1) item
      have hitems := steps_renderItems hl depth items
      rw [Json.renderItems, List.cons_append]
      exact steps_item hl hitem hitems containers done false rest

theorem steps_renderEntries {l : Json.Layout} (hl : l.Spaced) (depth : Nat) :
    ∀ entries : List (String × Json), ReadsEntries l depth entries
  | [] => readsEntries_nil hl depth
  | (key, value) :: entries => by
      intro containers done rest
      have hvalue := steps_render hl (depth + 1) value
      have hentries := steps_renderEntries hl depth entries
      rw [Json.renderEntries, List.cons_append]
      exact steps_entry hl hvalue hentries containers done false rest

end

end Reader

/-! ## Section 6: Whole texts -/

/-- **Reading what was written** gives the node of the value, in any layout
    that adds white space only. -/
theorem Json.read?_render {l : Layout} (hl : l.Spaced) (j : Json) (hj : ¬∃ n, j = .int n) :
    read? (render l 0 j) = some j.node := by
  have hread := Reader.steps_render hl 0 j [] false [] fun h => absurd h hj
  rw [List.append_nil] at hread
  rw [read?, Reader.start, hread]
  rfl

/-! ## Section 7: No control characters -/

namespace Json

/-- Are there no control characters in a text? -/
def Visible (cs : List Char) : Prop :=
  ∀ c ∈ cs, 0x20 ≤ c.toNat

-- Only the characters of the text are looked at, not all there are.
instance (cs : List Char) : Decidable (Visible cs) :=
  decidable_of_iff (cs.all fun c => 0x20 ≤ c.toNat) (by simp [Visible])

theorem visible_append {cs cs' : List Char} (h : Visible cs) (h' : Visible cs') :
    Visible (cs ++ cs') := by
  intro c hc
  rcases List.mem_append.mp hc with hc | hc
  · exact h c hc
  · exact h' c hc

theorem visible_cons {c : Char} {cs : List Char} (h : 0x20 ≤ c.toNat) (h' : Visible cs) :
    Visible (c :: cs) := by
  intro c' hc
  rcases List.mem_cons.mp hc with rfl | hc
  · exact h
  · exact h' c' hc

theorem visible_isDigit {c : Char} (h : c.isDigit = true) : 0x20 ≤ c.toNat := by
  simp only [Char.isDigit, Bool.and_eq_true, decide_eq_true_eq] at h
  have hle : (48 : UInt32).toNat ≤ c.val.toNat := UInt32.le_iff_toNat_le.mp h.1
  exact Nat.le_trans (by decide) hle

theorem visible_escape (c : Char) : Visible (escape c) := by
  unfold escape
  split
  case h_8 =>
    by_cases h : c.toNat < 0x20
    · have hhex : ∀ d < 16, 0x20 ≤ (Nat.digitChar d).toNat := by decide
      rw [if_pos h, hexPair]
      refine visible_append (by decide) (visible_cons (hhex _ (by omega)) ?_)
      exact visible_cons (hhex _ (by omega)) nofun
    · rw [if_neg h]
      exact visible_cons (Nat.le_of_not_lt h) nofun
  all_goals decide

theorem visible_quote (s : String) : Visible (quote s) := by
  have hescaped : Visible (s.toList.flatMap escape) := by
    intro c hc
    obtain ⟨c', _, hc⟩ := List.mem_flatMap.mp hc
    exact visible_escape c' c hc
  exact visible_cons (by decide) (visible_append hescaped (by decide))

theorem visible_digits (n : Int) : Visible (digits n) := by
  have hdigits : Visible (Nat.toDigits 10 n.natAbs) := by
    intro c hc
    exact visible_isDigit (Nat.isDigit_of_mem_toDigits (by omega) (by omega) hc)
  unfold digits
  split
  · exact visible_cons (by decide) hdigits
  · exact hdigits

mutual

/-- **On one line a value has no control characters**, whatever its texts
    are. -/
theorem visible_render (depth : Nat) : ∀ j : Json, Visible (render .compact depth j)
  | .null => by rw [render]; decide
  | .bool true => by rw [render]; decide
  | .bool false => by rw [render]; decide
  | .int n => by rw [render]; exact visible_digits n
  | .text s => by rw [render]; exact visible_quote s
  | .list [] => by rw [render]; decide
  | .list (item :: items) => by
      rw [render]
      exact visible_cons (by decide) (visible_append
        (visible_append nofun (visible_render (depth + 1) item)) (visible_renderItems depth items))
  | .object [] => by rw [render]; decide
  | .object ((key, value) :: entries) => by
      rw [render]
      refine visible_cons (by decide) (visible_append ?_ (visible_renderEntries depth entries))
      refine visible_append (visible_append ?_ (by decide)) (visible_render (depth + 1) value)
      exact visible_append nofun (visible_quote key)

theorem visible_renderItems (depth : Nat) :
    ∀ items : List Json, Visible (renderItems .compact depth items)
  | [] => by rw [renderItems]; exact visible_append nofun (by decide)
  | item :: items => by
      rw [renderItems]
      exact visible_cons (by decide) (visible_append
        (visible_append nofun (visible_render (depth + 1) item)) (visible_renderItems depth items))

theorem visible_renderEntries (depth : Nat) :
    ∀ entries : List (String × Json), Visible (renderEntries .compact depth entries)
  | [] => by rw [renderEntries]; exact visible_append nofun (by decide)
  | (key, value) :: entries => by
      rw [renderEntries]
      refine visible_cons (by decide) (visible_append ?_ (visible_renderEntries depth entries))
      refine visible_append (visible_append ?_ (by decide)) (visible_render (depth + 1) value)
      exact visible_append nofun (visible_quote key)

end

end Json

end BatchFilter
