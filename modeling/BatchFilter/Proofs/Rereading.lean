import BatchFilter.Proofs.Documenting

/-! # Settings Written in Full

    Writing settings in full gives every section of every config, read or
    not; only a negation without a child leaves its section out.  So nothing
    is lost: the text is read as the settings that were written, as long as
    it nests no deeper than what can be read at all.

    * `Json.height`: how deep a value nests.
    * `Config.ofNode?_toJson`: a config and all that is in it.
    * `Config.legible_toJson`: it may stand where a section of fields is
      expected.
    * `Settings.written_is_read`: whole settings. -/

namespace BatchFilter

/-! ## Section 1: How deep a value nests -/

namespace Json

mutual

/-- How deep lists and objects nest in a value; a scalar has height 0. -/
def height : Json → Nat
  | .list items => heightItems items + 1
  | .object entries => heightEntries entries + 1
  | _ => 0

/-- The greatest height among items. -/
def heightItems : List Json → Nat
  | [] => 0
  | item :: rest => max item.height (heightItems rest)

/-- The greatest height among the values of entries. -/
def heightEntries : List (String × Json) → Nat
  | [] => 0
  | (_, value) :: rest => max value.height (heightEntries rest)

end

mutual

/-- A value is read as a node that nests as deep. -/
theorem height_node : ∀ j : Json, j.node.height = j.height
  | .null => rfl
  | .bool _ => rfl
  | .int _ => rfl
  | .text _ => rfl
  | .list items => congrArg (· + 1) (height_nodes items)
  | .object entries => congrArg (· + 1) (height_entryNodes entries)

theorem height_nodes : ∀ items : List Json, Node.heightItems (nodes items) = heightItems items
  | [] => rfl
  | item :: rest => by
      rw [nodes, Node.heightItems, heightItems, height_node item, height_nodes rest]

theorem height_entryNodes : ∀ entries : List (String × Json),
    Node.heightEntries (entryNodes entries) = heightEntries entries
  | [] => rfl
  | (key, value) :: rest => by
      rw [entryNodes, Node.heightEntries, heightEntries, height_node value,
        height_entryNodes rest]

end

theorem heightEntries_le {e : String × Json} {entries : List (String × Json)}
    (h : e ∈ entries) : e.2.height ≤ heightEntries entries := by
  induction entries with
  | nil => cases h
  | cons first rest ih =>
    rw [heightEntries]
    rcases List.mem_cons.mp h with rfl | h
    · exact Nat.le_max_left _ _
    · exact Nat.le_trans (ih h) (Nat.le_max_right _ _)

end Json

/-! ## Section 2: Configs -/

namespace Config

/-- How deep a config nests that was written in full: it has sections, a list
    of configs is one level further in, and a child is not. -/
theorem height_toJson (kind : String) (static : Bool) (text : TextSection)
    (metadata : MetadataSection) (all any : List Config) (child : Option Config)
    (resource : String) :
    (toJson ⟨kind, static, text, metadata, all, any, child, resource⟩).height
      = max 1 (max (Json.heightItems (toJsonAll all) + 1)
          (max (Json.heightItems (toJsonAll any) + 1)
            (Json.heightEntries (toJson? child)))) + 1 := by
  have htext : text.toJson.height = 1 := rfl
  have hmetadata : metadata.toJson.height = 1 := rfl
  rw [toJson]
  cases child with
  | none =>
    simp only [toJson?, Json.height, Json.heightEntries, List.cons_append, List.nil_append,
      htext, hmetadata]
    omega
  | some c =>
    simp only [toJson?, Json.height, Json.heightEntries, List.cons_append, List.nil_append,
      htext, hmetadata]
    omega

/-- What the fields of a config are that was written in full. -/
theorem fields?_toJson (kind : String) (static : Bool) (text : TextSection)
    (metadata : MetadataSection) (all any : List Config) (child : Option Config)
    (resource : String) :
    (toJson ⟨kind, static, text, metadata, all, any, child, resource⟩).node.fields? .skipping
        fieldNames
      = some [some (.text (some kind)), some (.bool static), some text.toJson.node,
          some metadata.toJson.node, some (.list (Json.nodes (toJsonAll all))),
          some (.list (Json.nodes (toJsonAll any))), child.map fun c => c.toJson.node,
          some (.text (some resource))] := by
  cases child <;> rfl

/-- A child is a table, and so it is not taken for none. -/
theorem node_toJson (c : Config) : ∃ entries, c.toJson.node = .table entries := by
  obtain ⟨kind, static, text, metadata, all, any, child, resource⟩ := c
  rw [toJson]
  exact ⟨_, rfl⟩

mutual

/-- **A config is read from what was written of it**, where there is room for
    it. -/
theorem ofNode?_toJson : ∀ (c : Config) {room : Nat}, c.toJson.height ≤ room →
    ofNode? .skipping room c.toJson.node = some c
  | ⟨kind, static, text, metadata, all, any, child, resource⟩, room, h => by
      -- The lists stand two levels further in than the config, and the child one.
      rw [height_toJson] at h
      obtain ⟨inner, rfl⟩ : ∃ inner, room = inner + 2 := ⟨room - 2, by omega⟩
      have hroomAll : Json.heightItems (toJsonAll all) ≤ inner := by omega
      have hroomAny : Json.heightItems (toJsonAll any) ≤ inner := by omega
      have hroomChild : Json.heightEntries (toJson? child) ≤ inner + 1 := by omega
      have hall := mapM_toJson all hroomAll
      have hany := mapM_toJson any hroomAny
      have hchild := fieldOr_toJson? child hroomChild
      rw [ofNode?, fields?_toJson]
      simp only [Node.fieldOr, Node.text?, Node.bool?, TextSection.ofNode?_toJson,
        MetadataSection.ofNode?_toJson, Node.items?, hall, hany, Option.bind_some, bind, pure]
      exact congrArg (Option.bind · _) hchild

/-- Configs in a list are read one by one. -/
theorem mapM_toJson : ∀ (cs : List Config) {room : Nat},
    Json.heightItems (toJsonAll cs) ≤ room →
    (Json.nodes (toJsonAll cs)).mapM (ofNode? .skipping room) = some cs
  | [], _, _ => rfl
  | c :: rest, room, h => by
      rw [toJsonAll, Json.heightItems] at h
      have hfirst : c.toJson.height ≤ room := Nat.le_trans (Nat.le_max_left _ _) h
      have hrest : Json.heightItems (toJsonAll rest) ≤ room :=
        Nat.le_trans (Nat.le_max_right _ _) h
      rw [toJsonAll, Json.nodes, List.mapM_cons, ofNode?_toJson c hfirst, mapM_toJson rest hrest]
      rfl

/-- The child of a negation is read if it was written, and is none if not. -/
theorem fieldOr_toJson? : ∀ (child : Option Config) {room : Nat},
    Json.heightEntries (toJson? child) ≤ room →
    Node.fieldOr none (fun node =>
        match node with
        | .null => some none
        | node => (ofNode? .skipping room node).map some) (child.map fun c => c.toJson.node)
      = some child
  | none, _, _ => rfl
  | some c, room, h => by
      have hchild : c.toJson.height ≤ room := Nat.le_trans (Nat.le_max_left _ _) h
      have hread := ofNode?_toJson c hchild
      obtain ⟨entries, htable⟩ := node_toJson c
      rw [htable] at hread
      rw [Option.map_some, Node.fieldOr, htable]
      exact congrArg (Option.map some) hread

end

mutual

/-- All that a config writes in full is legible. -/
theorem legible_toJson : ∀ c : Config, c.toJson.node.legible 64 = true
  | ⟨kind, static, text, metadata, all, any, child, resource⟩ => by
      have hall := legible_toJsonAll all
      have hany := legible_toJsonAll any
      have hchild := legible_toJson? child
      rw [toJson]
      cases child with
      | none =>
        simp [toJson?, Json.node, Json.entryNodes, Node.legible, Node.legibleEntries, hall, hany,
          TextSection.legible_toJson, MetadataSection.legible_toJson]
      | some c =>
        simp [toJson?, Json.node, Json.entryNodes, Node.legible, Node.legibleEntries, hall, hany,
          TextSection.legible_toJson, MetadataSection.legible_toJson, hchild c rfl]

theorem legible_toJsonAll : ∀ cs : List Config,
    Node.legibleItems 64 (Json.nodes (toJsonAll cs)) = true
  | [] => rfl
  | c :: rest => by
      rw [toJsonAll, Json.nodes, Node.legibleItems, legible_toJson c, legible_toJsonAll rest]
      rfl

theorem legible_toJson? : ∀ (child : Option Config) (c : Config), child = some c →
    c.toJson.node.legible 64 = true
  | none, _, h => nomatch h
  | some c, _, h => Option.some.inj h ▸ legible_toJson c

end

/-- **A config is read where a section of fields is expected**, where there is
    room for it. -/
theorem ofSection?_toJson {c : Config} {room : Nat} (h : c.toJson.height ≤ room) :
    ofSection? room c.toJson.node = some c := by
  have hfits : (c.toJson.node.height ≤ room && c.toJson.node.legible 64) = true := by
    rw [legible_toJson, Bool.and_true, Json.height_node]
    exact decide_eq_true h
  -- A section is first read as it is, and then with just the room that it takes.
  have hread : ofNode? .skipping c.toJson.node.height c.toJson.node = some c :=
    ofNode?_toJson c (Nat.le_of_eq (Json.height_node c.toJson).symm)
  obtain ⟨entries, htable⟩ := node_toJson c
  unfold ofSection?
  rw [htable] at hfits hread ⊢
  simp only [hfits, if_true]
  exact hread

end Config

/-! ## Section 3: Stages and declarations -/

theorem StageConfig.ofNode?_toJson {c : StageConfig} {room : Nat} (h : c.toJson.height ≤ room) :
    ofNode? .skipping room c.toJson.node = some c := by
  have hcondition : c.condition.toJson.height + 1 ≤ room :=
    Nat.le_trans (Nat.succ_le_succ (Json.heightEntries_le (e := (Stage.typeName, _))
      (List.mem_cons_of_mem _ List.mem_cons_self))) h
  obtain ⟨inner, rfl⟩ : ∃ inner, room = inner + 1 := ⟨room - 1, by omega⟩
  have hsection := Config.ofSection?_toJson (Nat.le_of_succ_le_succ hcondition)
  have hfields : c.toJson.node.fields? .skipping fieldNames
      = some [some (.text (some c.kind)), some c.condition.toJson.node] := rfl
  unfold ofNode?
  rw [if_neg (Nat.succ_ne_zero _), hfields]
  simp only [Node.fieldOr, Node.text?, Nat.add_one_sub_one, hsection, bind, pure,
    Option.bind_some]

namespace Declarations

/-- The declared conditions as JSON, by name. -/
def conditionsJson (d : Declarations) : Json :=
  .object (d.conditions.entries.map fun e => (e.1, e.2.toJson))

theorem conditions?_toJson {d : Declarations} {room : Nat} (h : d.conditionsJson.height ≤ room) :
    conditions? .skipping room d.conditionsJson.node = some d.conditions := by
  obtain ⟨inner, rfl⟩ : ∃ inner, room = inner + 1 := ⟨room - 1, by
    have : 1 ≤ d.conditionsJson.height := Nat.succ_le_succ (Nat.zero_le _)
    omega⟩
  have hconfig : ∀ e ∈ d.conditions.entries,
      (Config.ofNode? .skipping inner e.2.toJson.node).map (fun c => (e.1, c)) = some e := by
    intro e he
    have hheight : e.2.toJson.height ≤ inner := by
      apply Nat.le_of_succ_le_succ
      refine Nat.le_trans (Nat.succ_le_succ ?_) h
      exact Json.heightEntries_le (List.mem_map_of_mem (f := fun e => (e.1, e.2.toJson)) he)
    rw [Config.ofNode?_toJson e.2 hheight]
    rfl
  have hentries : d.conditionsJson.node.entries?
      = some (d.conditions.entries.map fun e => (e.1, e.2.toJson.node)) := by
    rw [conditionsJson, Json.entries?_node, List.map_map]
    rfl
  have hconfigs : (d.conditions.entries.map fun e => (e.1, e.2.toJson.node)).mapM
      (fun e => (Config.ofNode? .skipping inner e.2).map fun c => (e.1, c))
        = some d.conditions.entries := by
    rw [List.mapM_map]
    exact (mapM_some (g := id) hconfig).trans (by rw [List.map_id])
  unfold conditions?
  rw [if_neg (Nat.succ_ne_zero _), hentries]
  simp only [Nat.add_one_sub_one, bind, pure, Option.bind_some, hconfigs,
    Dictionary.ofList_entries]

theorem ofNode?_toJson {d : Declarations} {room : Nat} (h : d.toJson.height ≤ room) :
    ofNode? .skipping room d.toJson.node = some d := by
  have hconditions : d.conditionsJson.height + 1 ≤ room :=
    Nat.le_trans (Nat.succ_le_succ (Json.heightEntries_le (e := ("conditions", _))
      List.mem_cons_self)) h
  obtain ⟨inner, rfl⟩ : ∃ inner, room = inner + 1 := ⟨room - 1, by omega⟩
  have hread := conditions?_toJson (Nat.le_of_succ_le_succ hconditions)
  have hfields : d.toJson.node.fields? .skipping fieldNames
      = some [some d.conditionsJson.node] := rfl
  unfold ofNode?
  rw [if_neg (Nat.succ_ne_zero _), hfields]
  simp only [Node.fieldOr, Nat.add_one_sub_one, hread, bind, pure, Option.bind_some]

end Declarations

/-! ## Section 4: Whole settings -/

namespace Settings

theorem ofNode?_toJson {s : Settings} {room : Nat} (h : s.toJson.height ≤ room) :
    ofNode? .skipping room s.toJson.node = some s := by
  have hfield : ∀ e ∈ [("processor", s.processor.toJson), ("resources", s.resources.toJson)],
      e.2.height + 1 ≤ room :=
    fun e he => Nat.le_trans (Nat.succ_le_succ (Json.heightEntries_le he)) h
  have hprocessor := hfield _ List.mem_cons_self
  have hresources := hfield _ (List.mem_cons_of_mem _ List.mem_cons_self)
  obtain ⟨inner, rfl⟩ : ∃ inner, room = inner + 1 := ⟨room - 1, by omega⟩
  have hstage := StageConfig.ofNode?_toJson (Nat.le_of_succ_le_succ hprocessor)
  have hdeclared := Declarations.ofNode?_toJson (Nat.le_of_succ_le_succ hresources)
  have hfields : s.toJson.node.fields? .skipping fieldNames
      = some [some s.processor.toJson.node, some s.resources.toJson.node] := rfl
  unfold ofNode?
  rw [if_neg (Nat.succ_ne_zero _), hfields]
  simp only [Node.fieldOr, Nat.add_one_sub_one, hstage, hdeclared, bind, pure, Option.bind_some]

/-- **Settings that are written in full are read as they were.**  This holds
    for all settings, with all their sections, those that no type reads
    included, as long as the text nests no deeper than what can be read. -/
theorem written_is_read (s : Settings) (h : s.toJson.height ≤ Limits.documentDepth) :
    Format.json.decode ofNode? s.toJson.compact.toList = .ok s := by
  have hread : Json.read? s.toJson.compact.toList = some s.toJson.node := by
    rw [Json.compact, String.toList_ofList]
    apply Json.read?_render Json.Layout.spaced_compact
    rintro ⟨n, hn⟩
    cases hn
  have hsettings := ofNode?_toJson h
  unfold Format.decode Format.read?
  simp only [hread, Option.bind_some, hsettings]

/-- So many negations, in a section that is not read, around a config of a type
    nobody knows. -/
def buried : Nat → Config
  | 0 =>
      { kind := "telepathy", text := { part := -9223372036854775808, arg := "\"\n\\" },
        resource := "a.\x00" }
  | n + 1 => { kind := "static", not := some (buried n) }

theorem height_buried (n : Nat) : (buried n).toJson.height = n + 2 := by
  induction n with
  | zero => rfl
  | succ n ih =>
    rw [buried, Config.height_toJson]
    show max 1 (max 1 (max 1 (max (buried n).toJson.height 0))) + 1 = n + 1 + 2
    omega

/-- Settings that nest just as deep as what can be read. -/
theorem written_is_read_deepest :
    let s : Settings := { processor := { condition := buried 123 } }
    s.toJson.height = Limits.documentDepth ∧
      Format.json.decode ofNode? s.toJson.compact.toList = .ok s := by
  intro s
  have hheight : s.toJson.height = Limits.documentDepth := by
    show max (max 0 (max (buried 123).toJson.height 0) + 1) (max 2 0) + 1 = 127
    rw [height_buried]
    rfl
  exact ⟨hheight, written_is_read s (Nat.le_of_eq hheight)⟩

end Settings

end BatchFilter
