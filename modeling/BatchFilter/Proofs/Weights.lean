import BatchFilter.Json.Reader
import BatchFilter.Json.Value
import BatchFilter.Proofs.Encoding
import Mathlib.Algebra.GroupWithZero.Nat

/-! # The Least Text of a Node

    A node can be written in many ways: with white space, with characters
    escaped that need not be, with digits that change nothing.  None of them
    takes fewer bytes than its weight, in which every text is counted as this
    library writes it, every other scalar for one byte, and a container for its
    ends, its commas and its colons.

    The proof follows the reader.  Its state has a weight too: what has been
    read into it, which a character changes by no more than the bytes that the
    character takes.

    * `Node.weight`: the weight of a node.
    * `Reader.weight`: the weight of a state.
    * `Reader.step_weight`: one character.
    * `Json.read?_weight`: a whole text. -/

namespace BatchFilter

/-! ## Section 1: Texts -/

namespace Utf8

theorem size_cons (c : Char) (cs : List Char) : size (c :: cs) = c.utf8Size + size cs := by
  rw [← encode_length, encode_cons, List.length_append, encodeChar_length, encode_length]

theorem size_append (cs ds : List Char) : size (cs ++ ds) = size cs + size ds := by
  induction cs with
  | nil => exact (Nat.zero_add _).symm
  | cons c cs ih => rw [List.cons_append, size_cons, size_cons, ih, Nat.add_assoc]

end Utf8

namespace Json

/-- How many bytes characters take between quotes, escaped where they must
    be. -/
def escapedSize (cs : List Char) : Nat :=
  (cs.map fun c => Utf8.size (escape c)).sum

theorem escapedSize_cons (c : Char) (cs : List Char) :
    escapedSize (c :: cs) = Utf8.size (escape c) + escapedSize cs :=
  List.sum_cons

theorem escapedSize_reverse (cs : List Char) : escapedSize cs.reverse = escapedSize cs := by
  rw [escapedSize, List.map_reverse, List.sum_reverse]
  rfl

theorem size_quote (s : String) : Utf8.size (quote s) = escapedSize s.toList + 2 := by
  have hflat : ∀ cs : List Char, Utf8.size (cs.flatMap escape) = escapedSize cs := by
    intro cs
    induction cs with
    | nil => rfl
    | cons c cs ih => rw [List.flatMap_cons, Utf8.size_append, ih, escapedSize_cons]
  have hquote : Utf8.size ['"'] = 1 := rfl
  rw [quote, Utf8.size_cons, Utf8.size_append, hflat, hquote]
  show 1 + (escapedSize s.toList + 1) = _
  omega

theorem digitChar_size : ∀ d < 16, (Nat.digitChar d).utf8Size = 1 := by
  decide

/-- No character takes more bytes than the escape of a code unit. -/
theorem escape_size_le (c : Char) : Utf8.size (escape c) ≤ 6 := by
  unfold escape
  split
  case h_8 =>
    by_cases h : c.toNat < 0x20
    · have hhigh := digitChar_size (c.toNat / 16) (by omega)
      have hlow := digitChar_size (c.toNat % 16) (by omega)
      rw [if_pos h]
      simp [hexPair, Utf8.size, hhigh, hlow]
      decide
    · rw [if_neg h]
      have hsize := c.utf8Size_le_four
      show 0 + c.utf8Size ≤ 6
      omega
  all_goals decide

/-- A character that stands for itself takes its own bytes. -/
theorem escape_size_plain {c : Char} (hquote : c ≠ '"') (hbackslash : c ≠ '\\')
    (h : ¬c.toNat < 0x20) : Utf8.size (escape c) = c.utf8Size := by
  unfold escape
  split
  case h_1 => exact absurd rfl hquote
  case h_2 => exact absurd rfl hbackslash
  case h_8 =>
    rw [if_neg h]
    exact Nat.zero_add _
  all_goals exact absurd (by decide) h

/-- A character that a letter stands for takes no more than a letter and its
    backslash. -/
theorem escape_size_unescape {c e : Char} (h : unescape? c = some e) :
    Utf8.size (escape e) ≤ 2 := by
  unfold unescape? at h
  split at h <;> cases h <;> decide

end Json

/-! ## Section 2: Nodes -/

namespace Node

/-- The least number of bytes that a key or a text takes, its quotes
    included. -/
def textWeight : Option String → Nat
  | some s => Utf8.size (Json.quote s)
  | none => 2

mutual

/-- The least number of bytes that a node takes.  A comma stands behind every
    item but the last one, and behind that the end stands. -/
def weight : Node → Nat
  | .text s => textWeight s
  | .list items => max 2 (weightItems items + 1)
  | .table entries => max 2 (weightEntries entries + 1)
  | _ => 1

/-- The least number of bytes that items take, each with what is behind it. -/
def weightItems : List Node → Nat
  | [] => 0
  | item :: rest => item.weight + 1 + weightItems rest

/-- The least number of bytes that entries take, each with its colon and what
    is behind it. -/
def weightEntries : List (Option String × Node) → Nat
  | [] => 0
  | (key, value) :: rest => textWeight key + 1 + (value.weight + 1) + weightEntries rest

end

/-- The least number of bytes that an entry takes, with what is behind it. -/
def entryWeight (e : Option String × Node) : Nat :=
  textWeight e.1 + 1 + (e.2.weight + 1)

theorem weightItems_eq (items : List Node) :
    weightItems items = (items.map fun item => item.weight + 1).sum := by
  induction items with
  | nil => rfl
  | cons item rest ih => rw [weightItems, ih, List.map_cons, List.sum_cons]

theorem weightEntries_eq (entries : List (Option String × Node)) :
    weightEntries entries = (entries.map entryWeight).sum := by
  induction entries with
  | nil => rfl
  | cons e rest ih => rw [weightEntries, ih, List.map_cons, List.sum_cons, entryWeight]

theorem weightItems_reverse (items : List Node) :
    weightItems items.reverse = weightItems items := by
  rw [weightItems_eq, weightItems_eq, List.map_reverse, List.sum_reverse]

theorem weightEntries_reverse (entries : List (Option String × Node)) :
    weightEntries entries.reverse = weightEntries entries := by
  rw [weightEntries_eq, weightEntries_eq, List.map_reverse, List.sum_reverse]

end Node

/-! ## Section 3: States of the reader -/

/-- How much of an escape has been read. -/
def TextMode.weight : TextMode → Nat
  | .plain => 0
  | .escape => 1
  | .unit left _ => 2 + (4 - left)

/-- The weight of a text that has begun. -/
def TextDraft.weight (t : TextDraft) : Nat :=
  1 + Json.escapedSize t.chars + t.mode.weight

namespace Container

/-- The weight of a container in which a value or an entry may begin. -/
def weight : Container → Nat
  | .list done => Node.weightItems done + 1
  | .table done => Node.weightEntries done + 1
  | .entry done key => Node.weightEntries done + 1 + (Node.textWeight key + 1)

/-- Its weight where a value has ended: nothing is behind that yet. -/
def pausedWeight (c : Container) : Nat :=
  max 1 (c.weight - 1)

/-- A container is at least the byte that it begins with. -/
theorem weight_pos (c : Container) : 0 < c.weight := by
  cases c <;> exact Nat.succ_pos _

theorem weight_le_paused (c : Container) : c.weight ≤ c.pausedWeight + 1 := by
  unfold pausedWeight
  omega

/-- The weights of containers around something. -/
def weights (cs : List Container) : Nat :=
  (cs.map weight).sum

theorem weights_cons (c : Container) (cs : List Container) :
    weights (c :: cs) = c.weight + weights cs :=
  List.sum_cons

end Container

/-- The weight of what may go on. -/
def Phase.weight : Phase → Nat
  | .text _ t => t.weight
  | .colon name => Node.textWeight name
  | .word _ node => node.weight
  | .number _ _ => 1
  | .complete node => node.weight
  | _ => 0

/-- The weight of a state. -/
def Reader.weight (r : Reader) : Nat :=
  match r.phase, r.containers with
  | .separator, c :: outer => c.pausedWeight + Container.weights outer
  | phase, cs => phase.weight + Container.weights cs

/-- Where no value has just ended, everything counts in full. -/
theorem Reader.weight_eq (cs : List Container) (phase : Phase) (h : phase ≠ .separator) :
    (Reader.mk cs phase).weight = phase.weight + Container.weights cs := by
  cases phase <;> first | rfl | exact absurd rfl h

/-! ## Section 4: One character of a text -/

namespace TextDraft

theorem push_weight (t : TextDraft) (c : Char) :
    (t.push c).weight = 1 + Json.escapedSize t.chars + Utf8.size (Json.escape c) := by
  show 1 + Json.escapedSize (c :: t.chars) + 0 = _
  rw [Json.escapedSize_cons]
  omega

/-- A code unit adds one character or none. -/
theorem pushUnit_weight (t : TextDraft) (u : Nat) :
    (t.pushUnit u).weight ≤ 1 + Json.escapedSize t.chars + 6 := by
  have hpush : ∀ (c : Char) (paired : Bool),
      (TextDraft.mk (c :: t.chars) paired none .plain).weight
        ≤ 1 + Json.escapedSize t.chars + 6 := by
    intro c paired
    have hsize := Json.escape_size_le c
    show 1 + Json.escapedSize (c :: t.chars) + 0 ≤ _
    rw [Json.escapedSize_cons]
    omega
  have hskip : ∀ (paired : Bool) (high : Option Nat),
      (TextDraft.mk t.chars paired high .plain).weight ≤ 1 + Json.escapedSize t.chars + 6 := by
    intro paired high
    show 1 + Json.escapedSize t.chars + 0 ≤ _
    omega
  unfold pushUnit
  dsimp only
  split
  · split
    · exact hpush _ _
    · exact hskip _ _
  · split
    · exact hskip _ _
    · split
      · exact hskip _ _
      · exact hpush _ _

/-- **A character adds no more to a text than it takes itself.** -/
theorem step_more_weight {t t' : TextDraft} {c : Char} (h : t.step c = .more t') :
    t'.weight ≤ t.weight + c.utf8Size := by
  have hpos := c.utf8Size_pos
  have hweight : t.weight = 1 + Json.escapedSize t.chars + t.mode.weight := rfl
  unfold step at h
  cases hmode : t.mode with
  | plain =>
    rw [hmode, TextMode.weight] at hweight
    simp only [hmode] at h
    split at h
    · cases h
    rename_i hquote
    split at h
    · cases h
      show 1 + Json.escapedSize t.chars + 1 ≤ _
      omega
    rename_i hbackslash
    split at h
    · cases h
    rename_i hcontrol
    cases h
    -- What is neither escaped nor ends the text is written as it is read.
    have hsize := Json.escape_size_plain hquote hbackslash hcontrol
    rw [push_weight]
    omega
  | escape =>
    rw [hmode, TextMode.weight] at hweight
    simp only [hmode] at h
    split at h
    · cases h
      show 1 + Json.escapedSize t.chars + 2 ≤ _
      omega
    split at h
    · rename_i e he
      have hsize := Json.escape_size_unescape he
      cases h
      rw [push_weight]
      omega
    · cases h
  | unit left value =>
    rw [hmode, TextMode.weight] at hweight
    simp only [hmode] at h
    split at h
    · cases h
    split at h
    · -- A backslash, a letter and four digits are as long as any escape.
      rename_i d _ hleft
      cases h
      have hunit := pushUnit_weight t (value * 16 + d)
      omega
    · cases h
      show 1 + Json.escapedSize t.chars + (2 + (4 - (left - 1))) ≤ _
      omega

/-- At its end a text has the weight of what was read. -/
theorem step_closed_weight {t : TextDraft} {c : Char} {s : Option String}
    (h : t.step c = .closed s) : Node.textWeight s ≤ t.weight + 1 := by
  have hclose : Node.textWeight t.close ≤ t.weight + 1 := by
    -- A text that cannot be used takes its quotes at least.
    unfold close
    split
    · rw [Node.textWeight, Json.size_quote, String.toList_ofList, Json.escapedSize_reverse, weight]
      omega
    · rw [Node.textWeight, weight]
      omega
  unfold step at h
  cases hmode : t.mode with
  | plain =>
    simp only [hmode] at h
    split at h
    · cases h
      exact hclose
    · repeat' split at h
      all_goals cases h
  | escape =>
    simp only [hmode] at h
    repeat' split at h
    all_goals cases h
  | unit left value =>
    simp only [hmode] at h
    repeat' split at h
    all_goals cases h

end TextDraft

/-! ## Section 5: One character -/

namespace Reader

open Container (weights weights_cons)

variable {cs : List Container} {r r' : Reader} {c : Char}

/-- A value has the same weight where it is put. -/
theorem place_weight {node : Node} (h : place node cs = some r) :
    r.weight ≤ node.weight + weights cs := by
  unfold place at h
  split at h
  · cases h
    exact Nat.le_refl _
  · rename_i done outer
    cases h
    rw [weights_cons]
    show max 1 (Node.weightItems (node :: done) + 1 - 1) + weights outer
      ≤ node.weight + (Node.weightItems done + 1 + weights outer)
    rw [Node.weightItems]
    omega
  · rename_i done key outer
    cases h
    rw [weights_cons]
    show max 1 (Node.weightEntries ((key, node) :: done) + 1 - 1) + weights outer
      ≤ node.weight + (Node.weightEntries done + 1 + (Node.textWeight key + 1) + weights outer)
    rw [Node.weightEntries]
    omega
  · cases h

/-- The end of a container is one byte more, whether it has items or not. -/
theorem ended_weight {c : Container} {outer : List Container} {node : Node}
    (hnode : node.weight = max 2 c.weight) (h : place node outer = some r) :
    r.weight ≤ c.pausedWeight + weights outer + 1 ∧ r.weight ≤ c.weight + weights outer + 1 := by
  have hplace := place_weight h
  have hpos := c.weight_pos
  unfold Container.pausedWeight
  omega

theorem endList_weight (h : endList cs = some r) :
    ∃ c outer, cs = c :: outer ∧ r.weight ≤ c.pausedWeight + weights outer + 1 ∧
      r.weight ≤ c.weight + weights outer + 1 := by
  unfold endList at h
  split at h
  · rename_i done outer
    have hnode : (Node.list done.reverse).weight = max 2 (Container.list done).weight := by
      rw [Node.weight, Node.weightItems_reverse, Container.weight]
    exact ⟨_, outer, rfl, ended_weight hnode h⟩
  · cases h

theorem endTable_weight (h : endTable cs = some r) :
    ∃ c outer, cs = c :: outer ∧ r.weight ≤ c.pausedWeight + weights outer + 1 ∧
      r.weight ≤ c.weight + weights outer + 1 := by
  unfold endTable at h
  split at h
  · rename_i done outer
    have hnode : (Node.table done.reverse).weight = max 2 (Container.table done).weight := by
      rw [Node.weight, Node.weightEntries_reverse, Container.weight]
    exact ⟨_, outer, rfl, ended_weight hnode h⟩
  · cases h

theorem beginValue_weight (h : beginValue cs c = some r) : r.weight ≤ weights cs + 1 := by
  unfold beginValue at h
  split at h
  case h_2 | h_3 =>
    -- The byte is already in the weight of the container that begins with it.
    cases h
    exact Nat.le_of_eq ((Nat.zero_add _).trans (Nat.add_comm _ _))
  case h_9 =>
    split at h
    · cases h
      exact Nat.le_of_eq (Nat.add_comm _ _)
    · cases h
  all_goals
    cases h
    exact Nat.le_of_eq (Nat.add_comm 1 (weights cs))

/-- A comma is one byte more, and something may begin behind it. -/
theorem comma_weight (c : Container) (outer : List Container) :
    weights (c :: outer) ≤ (Reader.mk (c :: outer) .separator).weight + 1 := by
  have hpaused := c.weight_le_paused
  rw [weights_cons]
  show _ ≤ c.pausedWeight + weights outer + 1
  omega

/-- Behind a value every character is one byte more at most. -/
theorem afterValue_weight (h : r.afterValue c = some r') : r'.weight ≤ r.weight + 1 := by
  obtain ⟨cs, phase⟩ := r
  unfold afterValue at h
  split at h
  · cases h
    exact Nat.le_succ _
  split at h
  · rename_i done outer hphase hcontainers _
    cases h
    obtain rfl : phase = .separator := hphase
    obtain rfl : cs = .list done :: outer := hcontainers
    exact Nat.le_trans (Nat.le_of_eq (Nat.zero_add _)) (comma_weight _ outer)
  · rename_i done outer hphase hcontainers _
    cases h
    obtain rfl : phase = .separator := hphase
    obtain rfl : cs = .table done :: outer := hcontainers
    exact Nat.le_trans (Nat.le_of_eq (Nat.zero_add _)) (comma_weight _ outer)
  · rename_i hphase _
    obtain rfl : phase = .separator := hphase
    obtain ⟨c, outer, rfl, hpaused, -⟩ := endList_weight h
    exact hpaused
  · rename_i hphase _
    obtain rfl : phase = .separator := hphase
    obtain ⟨c, outer, rfl, hpaused, -⟩ := endTable_weight h
    exact hpaused
  · cases h

theorem step_value_weight {orEnd : Bool} (h : step ⟨cs, .value orEnd⟩ c = some r) :
    r.weight ≤ weights cs + 1 := by
  simp only [step] at h
  split at h
  · cases h
    show 0 + weights cs ≤ _
    omega
  split at h
  · split at h
    · obtain ⟨c, outer, rfl, -, hended⟩ := endList_weight h
      rw [weights_cons]
      exact hended
    · cases h
  · exact beginValue_weight h

theorem step_key_weight {orEnd : Bool} (h : step ⟨cs, .key orEnd⟩ c = some r) :
    r.weight ≤ weights cs + 1 := by
  simp only [step] at h
  split at h
  · cases h
    show 0 + weights cs ≤ _
    omega
  split at h
  · split at h
    · obtain ⟨c, outer, rfl, -, hended⟩ := endTable_weight h
      rw [weights_cons]
      exact hended
    · cases h
  split at h
  · cases h
    exact Nat.le_of_eq (Nat.add_comm 1 (weights cs))
  · cases h

theorem step_text_weight {isKey : Bool} {t : TextDraft} (h : step ⟨cs, .text isKey t⟩ c = some r) :
    r.weight ≤ t.weight + weights cs + c.utf8Size := by
  have hpos := c.utf8Size_pos
  simp only [step] at h
  split at h
  · rename_i t' ht
    have hmore := TextDraft.step_more_weight ht
    cases h
    show t'.weight + weights cs ≤ _
    omega
  · rename_i s hs
    have hclosed := TextDraft.step_closed_weight hs
    split at h
    · cases h
      show Node.textWeight s + weights cs ≤ _
      omega
    · have hplace := place_weight h
      rw [Node.weight] at hplace
      omega
  · cases h

theorem step_colon_weight {key : Option String} (h : step ⟨cs, .colon key⟩ c = some r) :
    r.weight ≤ Node.textWeight key + weights cs + 1 := by
  simp only [step] at h
  split at h
  · cases h
    exact Nat.le_succ _
  split at h
  · rename_i done outer _
    cases h
    show 0 + weights (.entry done key :: outer) ≤ Node.textWeight key + weights (_ :: outer) + 1
    rw [weights_cons, weights_cons, Container.weight, Container.weight]
    omega
  · cases h

theorem step_word_weight {rest : List Char} {node : Node}
    (h : step ⟨cs, .word rest node⟩ c = some r) : r.weight ≤ node.weight + weights cs := by
  simp only [step] at h
  split at h
  · cases h
  · split at h
    · exact place_weight h
    · cases h
  · split at h
    · cases h
      exact Nat.le_refl _
    · cases h

theorem step_number_weight {part : NumberPart} {read : List Char}
    (h : step ⟨cs, .number part read⟩ c = some r) : r.weight ≤ weights cs + 2 := by
  simp only [step] at h
  split at h
  · cases h
    show 1 + weights cs ≤ _
    omega
  split at h
  · -- What ends the number is read behind it.
    obtain ⟨placed, hplaced, hafter⟩ := Option.bind_eq_some_iff.mp h
    have hplace : placed.weight ≤ 1 + weights cs := place_weight hplaced
    have hnext := afterValue_weight hafter
    omega
  · cases h

/-- **One character adds no more than it takes itself.** -/
theorem step_weight (h : r.step c = some r') : r'.weight ≤ r.weight + c.utf8Size := by
  have hpos := c.utf8Size_pos
  obtain ⟨cs, phase⟩ := r
  -- Only inside a text does it matter how many bytes the character takes.
  cases phase with
  | value orEnd =>
    have hstep := step_value_weight h
    rw [weight_eq cs (.value orEnd) nofun]
    omega
  | key orEnd =>
    have hstep := step_key_weight h
    rw [weight_eq cs (.key orEnd) nofun]
    omega
  | text isKey t =>
    rw [weight_eq cs (.text isKey t) nofun]
    exact step_text_weight h
  | colon key =>
    have hstep := step_colon_weight h
    rw [weight_eq cs (.colon key) nofun, Phase.weight]
    omega
  | word rest node =>
    have hstep := step_word_weight h
    rw [weight_eq cs (.word rest node) nofun, Phase.weight]
    omega
  | number part read =>
    have hstep := step_number_weight h
    rw [weight_eq cs (.number part read) nofun, Phase.weight]
    omega
  | separator =>
    have hafter := afterValue_weight h
    omega
  | complete node =>
    have hafter := afterValue_weight h
    omega

/-! ## Section 6: Whole texts -/

theorem steps_weight {text : List Char} (h : r.steps text = some r') :
    r'.weight ≤ r.weight + Utf8.size text := by
  induction text generalizing r with
  | nil =>
    cases h
    exact Nat.le_refl _
  | cons c text ih =>
    rw [steps] at h
    cases hstep : r.step c with
    | none =>
      rw [hstep] at h
      cases h
    | some first =>
      rw [hstep] at h
      have hfirst := step_weight hstep
      have hrest := ih h
      rw [Utf8.size_cons]
      omega

theorem result?_weight {node : Node} (h : r.result? = some node) : node.weight ≤ r.weight := by
  obtain ⟨containers, phase⟩ := r
  unfold result? at h
  split at h
  · rename_i read hphase
    cases h
    obtain rfl : phase = .complete node := hphase
    exact Nat.le_add_right _ _
  · rename_i part read hphase hcontainers
    split at h
    · cases h
      obtain rfl : phase = .number part read := hphase
      exact Nat.le_add_right _ _
    · cases h
  · cases h

end Reader

/-- **A node takes at least as many bytes as it weighs**, however it is
    written. -/
theorem Json.read?_weight {text : List Char} {node : Node} (h : read? text = some node) :
    node.weight ≤ Utf8.size text := by
  obtain ⟨r, hsteps, hresult⟩ := Option.bind_eq_some_iff.mp h
  have hstart : Reader.start.weight = 0 := rfl
  have hread := Reader.steps_weight hsteps
  have hnode := Reader.result?_weight hresult
  omega

end BatchFilter
