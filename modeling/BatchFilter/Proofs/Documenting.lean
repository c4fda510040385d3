import BatchFilter.Document.Format
import BatchFilter.Proofs.Forgetting
import BatchFilter.Proofs.Wire
import Mathlib.Data.List.TakeWhile

/-! # Settings There and Back

    Documenting settings writes every type with the one section it reads.
    Reading that gives the settings again, with defaults in place of what
    was not written, unless conditions nest too deep to be built anyway.

    * `Number.ofWritten_digits`: integers of 64 bits are read as they are.
    * `Clause.reads_documented`: the document of a condition.
    * `StageConfig.ofNode?_documented`, `Declarations.ofNode?_documented`: a
      stage and declared conditions.
    * `Settings.document_loses_nothing`: whole settings. -/

namespace BatchFilter

/-! ## Section 1: Integers -/

/-- More digits make no number smaller. -/
theorem le_ofDigitChars (ds : List Char) (n : Nat) : n ≤ Nat.ofDigitChars 10 ds n := by
  induction ds generalizing n with
  | nil => exact Nat.le_of_eq Nat.ofDigitChars_nil.symm
  | cons d ds ih =>
    rw [Nat.ofDigitChars_cons]
    have hrest := ih (10 * n + (d.toNat - '0'.toNat))
    omega

/-- Digits in front of the point are taken one by one while they fit. -/
theorem Significand.takeWhole_digits {ds : List Char} {s : Significand}
    (h : Nat.ofDigitChars 10 ds s.digits < digitsLimit) :
    s.takeWhole ds = { s with digits := Nat.ofDigitChars 10 ds s.digits } := by
  induction ds generalizing s with
  | nil => rw [takeWhole, Nat.ofDigitChars_nil]
  | cons d ds ih =>
    rw [Nat.ofDigitChars_cons, Nat.mul_comm 10] at h ⊢
    have hstep : s.digits * 10 + (d.toNat - '0'.toNat) < digitsLimit :=
      Nat.lt_of_le_of_lt (le_ofDigitChars ds _) h
    rw [takeWhole, if_pos hstep]
    exact ih h

theorem Significand.ofWritten_toDigits {m : Nat} (h : m < digitsLimit) :
    ofWritten (Nat.toDigits 10 m) [] 0 = ⟨m, 0⟩ := by
  have hvalue : Nat.ofDigitChars 10 (Nat.toDigits 10 m) ({} : Significand).digits = m :=
    Nat.ofDigitChars_ten_toDigits
  unfold ofWritten
  rw [takeWhole_digits (by rwa [hvalue]), hvalue]
  rfl

theorem Number.ofWhole_toDigits {n : Int} (hfits : (Number.int n).fits 64 = true) :
    ofWhole (decide (n < 0)) (Nat.toDigits 10 n.natAbs) = .int n := by
  have hrange : -9223372036854775808 ≤ n ∧ n < 18446744073709551616 := of_decide_eq_true hfits
  have hlimit : n.natAbs < Significand.digitsLimit := by
    show n.natAbs < 18446744073709551616
    omega
  unfold ofWhole
  rw [Significand.ofWritten_toDigits hlimit]
  have hvalue : (if decide (n < 0) then -(n.natAbs : Int) else (n.natAbs : Int)) = n := by
    by_cases hneg : n < 0
    · rw [if_pos (decide_eq_true hneg)]
      omega
    · rw [if_neg (by simpa using hneg)]
      omega
  -- It is not minus zero.
  have hsigned : ¬(decide (n < 0) = true ∧ n.natAbs = 0) := by
    rintro ⟨hneg, hzero⟩
    have hlt := of_decide_eq_true hneg
    omega
  simp only [hvalue, hfits]
  exact if_pos ⟨trivial, trivial, hsigned⟩

theorem Number.ofWritten_digits {n : Int} (hfits : (Number.int n).fits 64 = true) :
    ofWritten (Json.digits n) = .int n := by
  have hdigits : ∀ c ∈ Nat.toDigits 10 n.natAbs, c.isDigit = true := fun c hc =>
    Nat.isDigit_of_mem_toDigits (by omega) (by omega) hc
  have htake : (Nat.toDigits 10 n.natAbs).takeWhile Char.isDigit = Nat.toDigits 10 n.natAbs :=
    List.takeWhile_eq_self_iff.mpr hdigits
  have hdrop : (Nat.toDigits 10 n.natAbs).dropWhile Char.isDigit = [] :=
    List.dropWhile_eq_nil_iff.mpr hdigits
  have hwhole := ofWhole_toDigits hfits
  unfold Json.digits ofWritten
  by_cases hneg : n < 0
  · simp only [if_pos hneg, List.head?_cons, List.tail_cons, beq_self_eq_true, if_true, htake,
      hdrop]
    simpa [hneg] using hwhole
  · -- A digit is no minus sign.
    have hhead : ((Nat.toDigits 10 n.natAbs).head? == some '-') = false := by
      rw [beq_eq_false_iff_ne]
      intro hhead
      have hminus := hdigits '-' (List.mem_of_head? hhead)
      cases hminus
    simp only [if_neg hneg, hhead, Bool.false_eq_true, if_false, htake, hdrop]
    simpa [hneg] using hwhole

/-! ## Section 2: Sections -/

theorem Number.fits_int64 (i : Int64) : (Number.int i.toInt).fits 64 = true := by
  have hleast := Int64.le_toInt i
  have hgreatest := Int64.toInt_lt i
  apply decide_eq_true
  show -9223372036854775808 ≤ i.toInt ∧ i.toInt < 18446744073709551616
  omega

theorem Number.ofWritten_int64 (i : Int64) : ofWritten (Json.digits i.toInt) = .int i.toInt :=
  ofWritten_digits (fits_int64 i)

theorem int64?_node (i : Int64) : (Json.int i.toInt).node.int64? = some i := by
  have hleast := Int64.le_toInt i
  have hgreatest := Int64.toInt_lt i
  rw [Json.node, Number.ofWritten_int64]
  unfold Node.int64? Integer.narrow? Integer.least Integer.greatest
  simp only
  rw [if_pos (by omega), Int64.ofInt_toInt]

theorem TextSection.ofNode?_toJson (room : Nat) (s : TextSection) :
    ofNode? .skipping (room + 1) s.toJson.node = some s := by
  have hfields : s.toJson.node.fields? .skipping fieldNames
      = some [some (.text (some s.operator)), some (Json.int s.part.toInt).node,
          some (.text (some s.arg))] := rfl
  unfold ofNode?
  rw [if_neg (Nat.succ_ne_zero _), hfields]
  simp only [Node.fieldOr, Node.text?, int64?_node, bind, pure, Option.bind_some]

theorem TextSection.legible_toJson (s : TextSection) : s.toJson.node.legible 64 = true := by
  simp [toJson, Json.node, Json.entryNodes, Node.legible, Node.legibleEntries,
    Number.ofWritten_int64, Number.fits_int64]

theorem MetadataSection.legible_toJson (s : MetadataSection) :
    s.toJson.node.legible 64 = true := by
  simp [toJson, Json.node, Json.entryNodes, Node.legible, Node.legibleEntries,
    Number.ofWritten_int64, Number.fits_int64]

theorem MetadataSection.ofNode?_toJson (room : Nat) (s : MetadataSection) :
    ofNode? .skipping (room + 1) s.toJson.node = some s := by
  have hfields : s.toJson.node.fields? .skipping fieldNames
      = some [some (.text (some s.operator)), some (Json.int s.part.toInt).node,
          some (.text (some s.key)), some (.text (some s.arg))] := rfl
  unfold ofNode?
  rw [if_neg (Nat.succ_ne_zero _), hfields]
  simp only [Node.fieldOr, Node.text?, int64?_node, bind, pure, Option.bind_some]

/-! ## Section 3: Conditions -/

namespace Error

theorem map_ok {α β : Type} {x : Except Error α} {f : α → β} {b : β} (h : x.map f = .ok b) :
    ∃ a, x = .ok a ∧ b = f a := by
  cases x with
  | error e => cases h
  | ok a =>
    cases h
    exact ⟨a, rfl, rfl⟩

theorem bind_ok {α β : Type} {x : Except Error α} {f : α → Except Error β} {b : β}
    (h : x >>= f = .ok b) : ∃ a, x = .ok a ∧ f a = .ok b := by
  cases x with
  | error e => cases h
  | ok a => exact ⟨a, rfl, h⟩

end Error

namespace Clause

/-- What the fields of a type and its section are. -/
theorem fields?_entry (kind : Kind) (value : Json) :
    (entry kind value).node.fields? .skipping Config.fieldNames
      = some (some (.text (some kind.name)) ::
          [Kind.static, .text, .metadata, .all, .any, .not, .resource].map fun k =>
            if k = kind then some value.node else none) := by
  cases kind <;> rfl

theorem height_entry (kind : Kind) (value : Json) :
    (entry kind value).node.height = value.node.height + 1 := by
  show max 0 (max value.node.height 0) + 1 = value.node.height + 1
  omega

/-- A document of a clause is read as the config that says this. -/
structure Reads (cl : Clause) (j : Json) : Prop where
  read : ∀ room, j.node.height ≤ room → Config.ofNode? .skipping room j.node = some cl.config
  /-- It may stand where a section of fields is expected. -/
  table : ∃ entries, j.node = .table entries
  legible : j.node.legible 64 = true
  /-- A level of combinations is a table and at most a list in it. -/
  height : j.node.height ≤ 2 * cl.depth

/-- So are the documents of clauses. -/
structure ReadsAll (cs : List Clause) (js : List Json) : Prop where
  read : ∀ room, Node.heightItems (Json.nodes js) ≤ room →
    (Json.nodes js).mapM (Config.ofNode? .skipping room) = some (configs cs)
  legible : Node.legibleItems 64 (Json.nodes js) = true
  height : Node.heightItems (Json.nodes js) ≤ 2 * depthAll cs

theorem reads_entry {cl : Clause} {kind : Kind} {value : Json}
    (hread : ∀ room, value.node.height ≤ room →
      Config.ofNode? .skipping (room + 1) (entry kind value).node = some cl.config)
    (hlegible : value.node.legible 64 = true) (hheight : value.node.height + 1 ≤ 2 * cl.depth) :
    cl.Reads (entry kind value) := by
  refine ⟨?_, ⟨_, rfl⟩, ?_, ?_⟩
  · intro room hroom
    rw [height_entry] at hroom
    obtain ⟨inner, rfl⟩ : ∃ inner, room = inner + 1 := ⟨room - 1, by omega⟩
    exact hread inner (by omega)
  · simp [entry, Json.node, Json.entryNodes, Node.legible, Node.legibleEntries, hlegible]
  · rwa [height_entry]

theorem reads_static (value : Bool) :
    (Clause.static value).Reads (entry .static (.bool value)) := by
  apply reads_entry
  · intro room _
    rw [Config.ofNode?, fields?_entry]
    rfl
  · rfl
  · show 0 + 1 ≤ 2 * 1
    decide

theorem reads_resource (name : String) :
    (Clause.resource name).Reads (entry .resource (.text name)) := by
  apply reads_entry
  · intro room _
    rw [Config.ofNode?, fields?_entry]
    rfl
  · rfl
  · show 0 + 1 ≤ 2 * 1
    decide

theorem reads_text (s : TextSection) : (Clause.text s).Reads (entry .text s.toJson) := by
  have hheight : s.toJson.node.height = 1 := rfl
  apply reads_entry
  · intro room hroom
    rw [hheight] at hroom
    obtain ⟨inner, rfl⟩ : ∃ inner, room = inner + 1 := ⟨room - 1, by omega⟩
    rw [Config.ofNode?, fields?_entry]
    simp [Node.fieldOr, Node.text?, TextSection.ofNode?_toJson, config]
  · exact s.legible_toJson
  · rw [hheight]
    exact Nat.le_refl 2

theorem reads_metadata (s : MetadataSection) :
    (Clause.metadata s).Reads (entry .metadata s.toJson) := by
  have hheight : s.toJson.node.height = 1 := rfl
  apply reads_entry
  · intro room hroom
    rw [hheight] at hroom
    obtain ⟨inner, rfl⟩ : ∃ inner, room = inner + 1 := ⟨room - 1, by omega⟩
    rw [Config.ofNode?, fields?_entry]
    simp [Node.fieldOr, Node.text?, MetadataSection.ofNode?_toJson, config]
  · exact s.legible_toJson
  · rw [hheight]
    exact Nat.le_refl 2

/-- A combination, of either type. -/
theorem reads_children {kind : Kind} {cl : Clause} {cs : List Clause} {js : List Json}
    (hcl : kind = .all ∧ cl = .all cs ∨ kind = .any ∧ cl = .any cs) (h : ReadsAll cs js) :
    cl.Reads (entry kind (.list js)) := by
  have hheight : (Json.list js).node.height = Node.heightItems (Json.nodes js) + 1 := rfl
  have hdepth : cl.depth = depthAll cs + 1 := by
    rcases hcl with ⟨_, rfl⟩ | ⟨_, rfl⟩ <;> rfl
  apply reads_entry
  · intro room hroom
    rw [hheight] at hroom
    obtain ⟨inner, rfl⟩ : ∃ inner, room = inner + 1 := ⟨room - 1, by omega⟩
    have hitems := h.read inner (by omega)
    rw [Config.ofNode?, fields?_entry]
    rcases hcl with ⟨rfl, rfl⟩ | ⟨rfl, rfl⟩ <;>
      simp [Node.fieldOr, Node.text?, Json.node, Node.items?, hitems, config]
  · exact h.legible
  · have hitems := h.height
    rw [hheight, hdepth]
    omega

/-- The child of a negation is a table, and so it is not taken for none. -/
theorem reads_not {cl : Clause} {j : Json} (h : cl.Reads j) :
    (Clause.not (some cl)).Reads (entry .not j) := by
  obtain ⟨entries, htable⟩ := h.table
  apply reads_entry
  · -- The child takes the room that is left, where a list would take one more.
    intro room hroom
    have hread := h.read room hroom
    rw [Config.ofNode?, fields?_entry]
    rw [htable] at hread ⊢
    simp [Node.fieldOr, Node.text?, hread, config, config?]
  · exact h.legible
  · have hchild := h.height
    rw [depth, depth?]
    omega

theorem reads_not_nothing : (Clause.not none).Reads (entry .not .null) := by
  apply reads_entry
  · intro room _
    rw [Config.ofNode?, fields?_entry]
    rfl
  · rfl
  · show 0 + 1 ≤ 2 * 1
    decide

theorem readsAll_cons {cl : Clause} {cs : List Clause} {j : Json} {js : List Json}
    (h : cl.Reads j) (hrest : ReadsAll cs js) : ReadsAll (cl :: cs) (j :: js) := by
  have hheight : Node.heightItems (Json.nodes (j :: js))
      = max j.node.height (Node.heightItems (Json.nodes js)) := rfl
  refine ⟨?_, ?_, ?_⟩
  · intro room hroom
    rw [hheight] at hroom
    rw [Json.nodes, List.mapM_cons, h.read room (by omega), hrest.read room (by omega)]
    rfl
  · rw [Json.nodes, Node.legibleItems, h.legible, hrest.legible]
    rfl
  · have hfirst := h.height
    have hothers := hrest.height
    rw [hheight, depthAll]
    omega

mutual

/-- **What documents a condition is read** as the config that says the
    same. -/
theorem reads_documented : ∀ (cl : Clause) {j : Json}, cl.documented = .ok j → cl.Reads j
  | .unknown kind, j, h => by cases h
  | .static value, j, h => by
      cases h
      exact reads_static value
  | .text s, j, h => by
      cases h
      exact reads_text s
  | .metadata s, j, h => by
      cases h
      exact reads_metadata s
  | .all children, j, h => by
      obtain ⟨js, hjs, rfl⟩ := Error.map_ok h
      exact reads_children (Or.inl ⟨rfl, rfl⟩) (readsAll_documented children hjs)
  | .any children, j, h => by
      obtain ⟨js, hjs, rfl⟩ := Error.map_ok h
      exact reads_children (Or.inr ⟨rfl, rfl⟩) (readsAll_documented children hjs)
  | .not none, j, h => by
      cases h
      exact reads_not_nothing
  | .not (some child), j, h => by
      obtain ⟨j', hj', rfl⟩ := Error.map_ok h
      exact reads_not (reads_documented child hj')
  | .resource name, j, h => by
      cases h
      exact reads_resource name

theorem readsAll_documented : ∀ (cs : List Clause) {js : List Json},
    documentedAll cs = .ok js → ReadsAll cs js
  | [], js, h => by
      cases h
      exact ⟨fun _ _ => rfl, rfl, Nat.le_refl 0⟩
  | cl :: rest, js, h => by
      obtain ⟨j, hj, h⟩ := Error.bind_ok h
      obtain ⟨others, hothers, h⟩ := Error.bind_ok h
      cases h
      exact readsAll_cons (reads_documented cl hj) (readsAll_documented rest hothers)

end

end Clause

/-- **A condition's config is read from its document** with defaults in place
    of what it does not read. -/
theorem Config.reads_documented {c : Config} {j : Json} (h : c.documented = .ok j) {room : Nat}
    (hroom : j.node.height ≤ room) : ofNode? .skipping room j.node = some c.reset := by
  rw [← config_clause]
  exact (c.clause.reads_documented h).read room hroom

theorem Config.height_documented {c : Config} {j : Json} (h : c.documented = .ok j)
    (hdepth : c.depth ≤ Limits.conditionDepth) : j.node.height ≤ 64 := by
  have hheight := (c.clause.reads_documented h).height
  have hlimit : c.clause.depth ≤ 32 := hdepth
  omega

/-! ## Section 4: Stages and declarations -/

theorem StageConfig.ofNode?_documented {c : StageConfig} {j : Json} (h : c.documented = .ok j)
    (hdepth : c.condition.depth ≤ Limits.conditionDepth) {room : Nat} (hroom : 64 ≤ room) :
    ofNode? .skipping (room + 1) j.node = some ⟨c.kind, c.condition.reset⟩ := by
  unfold documented at h
  split at h
  · rename_i hkind
    obtain ⟨j', hj', rfl⟩ := Error.map_ok h
    have hreads := c.condition.clause.reads_documented hj'
    have hheight := Config.height_documented hj' hdepth
    obtain ⟨entries, htable⟩ := hreads.table
    have hsection : Config.ofSection? room j'.node = some c.condition.reset := by
      have hfits : (j'.node.height ≤ room && j'.node.legible 64) = true := by
        rw [hreads.legible, Bool.and_true]
        exact decide_eq_true (Nat.le_trans hheight hroom)
      have hread := Config.reads_documented hj' (Nat.le_refl _)
      unfold Config.ofSection?
      rw [htable] at hfits hread ⊢
      simp only [hfits, if_true]
      exact hread
    have hfields : (Json.object [("type", .text c.kind), (c.kind, j')]).node.fields? .skipping
        fieldNames = some [some (.text (some c.kind)), some j'.node] := by
      rw [hkind]
      rfl
    unfold ofNode?
    rw [if_neg (Nat.succ_ne_zero _), hfields]
    simp only [Node.fieldOr, Node.text?, Nat.add_one_sub_one, hsection, bind, pure,
      Option.bind_some]
  · cases h

namespace Declarations

/-- Entries are documented one by one, and so they are read. -/
theorem mapM_ofNode? {es : List (String × Config)} {js : List (String × Json)}
    (h : es.mapM (fun e => e.2.documented.map fun j => (e.1, j)) = .ok js)
    (hdepth : ∀ e ∈ es, e.2.depth ≤ Limits.conditionDepth) {room : Nat} (hroom : 64 ≤ room) :
    (js.map fun e => (e.1, e.2.node)).mapM
        (fun e => (Config.ofNode? .skipping room e.2).map fun c => (e.1, c))
      = some (es.map fun e => (e.1, e.2.reset)) := by
  induction es generalizing js with
  | nil =>
    cases h
    rfl
  | cons e es ih =>
    rw [List.mapM_cons] at h
    obtain ⟨first, hfirst, h⟩ := Error.bind_ok h
    obtain ⟨j, hj, rfl⟩ := Error.map_ok hfirst
    obtain ⟨others, hothers, h⟩ := Error.bind_ok h
    cases h
    have hheight := Config.height_documented hj (hdepth e List.mem_cons_self)
    have hread := Config.reads_documented hj (Nat.le_trans hheight hroom)
    have hrest := ih hothers fun e' he' => hdepth e' (List.mem_cons_of_mem e he')
    rw [List.map_cons, List.mapM_cons, hread, hrest]
    rfl

theorem ofNode?_documented {d : Declarations} {js : List (String × Json)}
    (h : d.documented = .ok js)
    (hdepth : ∀ e ∈ d.conditions.entries, e.2.depth ≤ Limits.conditionDepth) {room : Nat}
    (hroom : 64 ≤ room) :
    ofNode? .skipping (room + 2) (Json.object [("conditions", .object js)]).node
      = some d.reset := by
  have hconditions : conditions? .skipping (room + 1) (Json.object js).node
      = some d.reset.conditions := by
    unfold conditions?
    rw [if_neg (Nat.succ_ne_zero _), Json.entries?_node]
    simp only [Nat.add_one_sub_one, bind, pure, Option.bind_some, mapM_ofNode? h hdepth hroom]
    exact congrArg some (Dictionary.ofList_entries d.reset.conditions)
  have hfields : (Json.object [("conditions", .object js)]).node.fields? .skipping fieldNames
      = some [some (Json.object js).node] := rfl
  unfold ofNode?
  rw [if_neg (Nat.succ_ne_zero _), hfields]
  simp only [Node.fieldOr, Nat.add_one_sub_one, hconditions, bind, pure,
    Option.bind_some]

end Declarations

/-! ## Section 5: Whole settings -/

namespace Settings

/-- A document of settings: the stage, and the declared conditions if there
    are any. -/
def jsonOf (processor : Json) (conditions : List (String × Json)) : Json :=
  .object (("processor", processor) ::
    if conditions.isEmpty then []
    else [("resources", .object [("conditions", .object conditions)])])

theorem documented_ok {s : Settings} {j : Json} (h : s.documented = .ok j) :
    ∃ processor conditions, s.processor.documented = .ok processor ∧
      s.resources.documented = .ok conditions ∧ j = jsonOf processor conditions := by
  obtain ⟨conditions, hconditions, h⟩ := Error.bind_ok h
  obtain ⟨processor, hprocessor, h⟩ := Error.bind_ok h
  cases h
  exact ⟨processor, conditions, hprocessor, hconditions, rfl⟩

/-- What is read where the declared conditions are, if any are written. -/
theorem resources?_documented {d : Declarations} {js : List (String × Json)}
    (h : d.documented = .ok js)
    (hdepth : ∀ e ∈ d.conditions.entries, e.2.depth ≤ Limits.conditionDepth) {room : Nat}
    (hroom : 64 ≤ room) (processor : Json) :
    ∃ resources, (jsonOf processor js).node.fields? .skipping fieldNames
        = some [some processor.node, resources] ∧
      Node.fieldOr {} (Declarations.ofNode? .skipping (room + 2)) resources = some d.reset := by
  cases js with
  | nil =>
    -- Nothing is written only if nothing is declared.
    have hnone : d.reset.conditions.entries = [] :=
      (Option.some.inj (Declarations.mapM_ofNode? h hdepth hroom)).symm
    have hempty : d.reset.conditions = ∅ := by
      rw [← Dictionary.ofList_entries d.reset.conditions, hnone]
      rfl
    refine ⟨none, rfl, ?_⟩
    show some {} = some (Declarations.mk d.reset.conditions)
    rw [hempty]
  | cons e js => exact ⟨_, rfl, Declarations.ofNode?_documented h hdepth hroom⟩

/-- **Settings are read from their document** with defaults in place of what
    they do not read, if no condition nests too deep. -/
theorem ofNode?_documented {s : Settings} {j : Json} (h : s.documented = .ok j)
    (hprocessor : s.processor.condition.depth ≤ Limits.conditionDepth)
    (hresources : ∀ e ∈ s.resources.conditions.entries, e.2.depth ≤ Limits.conditionDepth) :
    ofNode? .skipping Limits.documentDepth j.node = some s.reset := by
  obtain ⟨processor, conditions, hp, hc, rfl⟩ := documented_ok h
  have hroom : 64 ≤ 124 := by decide
  obtain ⟨resources, hfields, hread⟩ := resources?_documented hc hresources hroom processor
  have hstage : StageConfig.ofNode? .skipping 126 processor.node
      = some ⟨s.processor.kind, s.processor.condition.reset⟩ :=
    StageConfig.ofNode?_documented hp hprocessor (Nat.le_succ_of_le hroom)
  unfold ofNode?
  rw [if_neg (by decide), hfields]
  show (StageConfig.ofNode? .skipping 126 processor.node).bind (fun p =>
    (Node.fieldOr {} (Declarations.ofNode? .skipping (124 + 2)) resources).bind fun r =>
      some (Settings.mk p r)) = some s.reset
  rw [hstage, Option.bind_some, hread]
  rfl

/-- **The document of settings loses nothing that is read.**  Settings that can
    be built can be documented.  Documented settings are read from the written
    document with defaults for every section that the type beside it does not
    read, if no condition nests deeper than it may.  These settings have the
    same document, and the same is built from them: the same stage, which
    counts under the same paths, or the same error. -/
theorem document_loses_nothing (s : Settings) :
    (∀ r stage, (s.build r).result = .ok stage → ∃ j, s.documented = .ok j) ∧
    ∀ j, s.documented = .ok j →
      (s.processor.condition.depth ≤ Limits.conditionDepth →
        (∀ name c, s.resources.conditions.find? name = some c →
          c.depth ≤ Limits.conditionDepth) →
        Format.json.decode ofNode? j.indented.toList = .ok s.reset) ∧
      s.reset.documented = .ok j ∧
      ∀ r, s.reset.build r = s.build r := by
  refine ⟨fun _ _ => documented_of_build, ?_⟩
  intro j hj
  refine ⟨?_, s.documented_reset.trans hj, s.build_reset⟩
  intro hprocessor hresources
  have hobject : ¬∃ n, j = .int n := by
    obtain ⟨processor, conditions, _, _, rfl⟩ := documented_ok hj
    rintro ⟨n, hn⟩
    cases hn
  have hread : Json.read? j.indented.toList = some j.node := by
    rw [Json.indented, String.toList_ofList]
    exact Json.read?_render Json.Layout.spaced_indented j hobject
  have hentries : ∀ e ∈ s.resources.conditions.entries, e.2.depth ≤ Limits.conditionDepth :=
    fun e he => hresources e.1 e.2 (Dictionary.find?_of_mem he)
  have hsettings := ofNode?_documented hj hprocessor hentries
  unfold Format.decode Format.read?
  simp only [hread, Option.bind_some, hsettings]

end Settings

end BatchFilter
