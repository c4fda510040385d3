import BatchFilter.Document.Node

/-! # Tables under Construction

    A TOML document names a table in several places: in a header, as part
    of a longer header, as part of a dotted key.  What may still be added to
    a table depends on how it came to be, so a table that is being built
    remembers that.

    * A table with a header of its own has no other header.
    * A table that only longer headers have named may still get one, or be
      taken over by dotted keys.
    * A table that dotted keys have made or taken over is for dotted keys to
      extend.
    * A value is closed: nothing is added to it. -/

namespace BatchFilter.Toml

/-- How a table came to be. -/
inductive Origin where
  /-- It has a header, or is the table of the whole document. -/
  | header
  /-- It is part of the header of another table. -/
  | passed
  /-- It is part of a dotted key, whether or not it was part of a header
      before. -/
  | dotted
  deriving DecidableEq

/-- What stands under a key. -/
inductive Draft where
  | value (node : Node)
  | table (origin : Origin) (entries : List (String × Draft))
  /-- A list of tables, each with a header; the newest first. -/
  | tables (elements : List (List (String × Draft)))

/-- A table under construction, with its entries newest first. -/
structure Table where
  origin : Origin := .header
  entries : List (String × Draft) := []

namespace Table

/-- What stands under a key. -/
def find? (t : Table) (key : String) : Option Draft :=
  (t.entries.find? fun e => e.1 == key).map Prod.snd

/-- Put something under a new key. -/
def add (t : Table) (key : String) (d : Draft) : Table :=
  { t with entries := (key, d) :: t.entries }

/-- Put something else under a key. -/
def replace (t : Table) (key : String) (d : Draft) : Table :=
  { t with entries := t.entries.map fun e => if e.1 = key then (key, d) else e }

/-- The table as what stands under a key. -/
def toDraft (t : Table) : Draft :=
  .table t.origin t.entries

/-! ## Section 1: Paths -/

/-- Change the table at the end of a path, making the tables that are
    missing.  A dotted key does not go through a table with a header, and
    takes over the others that it goes through.  The last of a list of tables
    stands for the list. -/
def changeAt (isDotted : Bool) (change : Table → Option Table) :
    List String → Table → Option Table
  | [], t => change t
  | key :: path, t =>
      match t.find? key with
      | none =>
          -- What is missing on the way is made, and remembers who made it.
          let origin := if isDotted then Origin.dotted else .passed
          (changeAt isDotted change path ⟨origin, []⟩).map fun inner =>
            t.add key inner.toDraft
      | some (.value _) => none
      | some (.table origin entries) =>
          if isDotted && origin == .header then none
          else
            let origin := if isDotted then Origin.dotted else origin
            (changeAt isDotted change path ⟨origin, entries⟩).map fun inner =>
              t.replace key inner.toDraft
      | some (.tables []) => none
      | some (.tables (last :: older)) =>
          (changeAt isDotted change path ⟨.header, last⟩).map fun inner =>
            t.replace key (.tables (inner.entries :: older))

/-! ## Section 2: Keys -/

/-- Add a value under a key.  A plain key adds to tables with headers, a
    dotted one to tables that dotted keys have made or taken over; no key is
    given twice. -/
def addValue (t : Table) (path : List String) (key : String) (value : Node) :
    Option Table :=
  t.changeAt (!path.isEmpty) (fun inner =>
    if (inner.origin == .dotted) == path.isEmpty then none
    else
      match inner.find? key with
      | some _ => none
      | none => some (inner.add key (.value value))) path

/-! ## Section 3: Headers -/

/-- A header: where its table stands, and whether it is one of a list. -/
structure Header where
  path : List String
  key : String
  isElement : Bool

/-- A document that is being read: its tables so far, and the one whose keys
    are being read, apart from the others. -/
structure Document where
  root : Table := {}
  header : Option Header := none
  current : Table := {}

/-- The table at the end of a path, if there is one. -/
def tableAt? : List String → Table → Option Table
  | [], t => some t
  | key :: path, t =>
      match t.find? key with
      | some (.table origin entries) => tableAt? path ⟨origin, entries⟩
      | some (.tables (last :: _)) => tableAt? path ⟨.header, last⟩
      | _ => none

/-- The table that a header begins with: what longer headers have put there,
    or an empty one. -/
def opened (root : Table) (h : Header) : Table :=
  match (root.tableAt? h.path).bind (·.find? h.key), h.isElement with
  | some (.table .passed entries), false => ⟨.header, entries⟩
  | _, _ => {}

/-- Put the table of a header to the others.  It must be one of a list, or
    new, or not have had a header. -/
def settle (root : Table) (h : Header) (current : Table) : Option Table :=
  root.changeAt false (fun parent =>
    match parent.find? h.key, h.isElement with
    | none, false => some (parent.add h.key current.toDraft)
    | none, true => some (parent.add h.key (.tables [current.entries]))
    | some (.table .passed _), false => some (parent.replace h.key current.toDraft)
    | some (.tables elements), true =>
        some (parent.replace h.key (.tables (current.entries :: elements)))
    | some _, _ => none) h.path

namespace Document

/-- The document with the table that is being read put to the others. -/
def finish (d : Document) : Option Table :=
  match d.header with
  | none => some d.current
  | some h => d.root.settle h d.current

/-- Go on with the table of a header. -/
def openTable (d : Document) (h : Header) : Option Document :=
  d.finish.map fun root => ⟨root, some h, root.opened h⟩

/-- Add a value to the table that is being read. -/
def addValue (d : Document) (path : List String) (key : String) (value : Node) :
    Option Document :=
  (d.current.addValue path key value).map fun current => { d with current := current }

end Document

end Table

/-! ## Section 4: The finished table -/

namespace Draft

mutual

/-- The node of a draft. -/
def toNode : Draft → Node
  | .value node => node
  | .table _ entries => .table (entriesToNodes [] entries)
  | .tables elements => .list (elementsToNodes [] elements)

/-- The nodes of entries, oldest first, in front of `done`. -/
def entriesToNodes (done : List (Option String × Node)) :
    List (String × Draft) → List (Option String × Node)
  | [] => done
  | (key, d) :: rest => entriesToNodes ((some key, d.toNode) :: done) rest

/-- The nodes of tables in a list, oldest first, in front of `done`. -/
def elementsToNodes (done : List Node) : List (List (String × Draft)) → List Node
  | [] => done
  | entries :: rest =>
      elementsToNodes (.table (entriesToNodes [] entries) :: done) rest

end

end Draft

/-- The node of a finished table. -/
def Table.toNode (t : Table) : Node :=
  t.toDraft.toNode

end BatchFilter.Toml
