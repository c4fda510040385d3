import BatchFilter.Files.Tree
import BatchFilter.Stream.Source

/-! # Hosts

    What a command needs from the system it runs on: to look at paths, to
    read and write files and streams.  Commands are written against a `Host`
    and know no more of the system than that.

    A `World` is the system as a value: a file tree, the directory one is in,
    and the standard streams. -/

namespace BatchFilter

/-- What a path leads to. -/
inductive FileStatus where
  | file (size : Nat)
  | directory
  | other
  deriving DecidableEq

/-- What a command needs from the system it runs on. -/
structure Host (m : Type → Type) where
  /-- The path from the root that a path stands for, links resolved. -/
  realPath : String → m (Except SystemError String)
  /-- What a path leads to. -/
  status : String → m (Except SystemError FileStatus)
  /-- The bytes of a file. -/
  read : String → m (Except SystemError Bytes)
  /-- Make sure that a path can be read from. -/
  openInput : String → m (Except SystemError Unit)
  /-- Make an empty file, or empty the one that is there. -/
  create : String → m (Except SystemError Unit)
  /-- A path to read from, or the standard input. -/
  source : Option String → m Source
  /-- Write to a path that was created, or to the standard output. -/
  write : Option String → Bytes → m Unit
  /-- Write to the standard error stream. -/
  report : String → m Unit

/-! ## The system as a value -/

/-- A file tree, the directory one is in, and the standard streams. -/
structure World where
  tree : FileTree
  cwd : Location := []
  input : Bytes := []
  output : Bytes := []
  errors : Bytes := []
  deriving DecidableEq

namespace World

/-- How many bytes a path may have that is followed at once.  One that is
    resolved name by name may be longer. -/
def pathLimit : Nat := 4095

/-- The place that a path leads to. -/
def locate (w : World) (path : String) : Except SystemError Location :=
  if pathLimit < path.utf8ByteSize then .error .nameTooLong
  else w.tree.resolve w.cwd path

/-- The status of what stands at a place. -/
def statusAt (w : World) (place : Location) : FileStatus :=
  match w.tree.find? place with
  | some (.file content) => .file content.length
  | some .directory => .directory
  | _ => .other

/-- The path from the root that a path stands for.  A stream is not in the
    tree, so no path stands for it. -/
def realPath (w : World) (path : String) : Except SystemError String :=
  match w.tree.resolve w.cwd path with
  | .error e => .error e
  | .ok place =>
      match w.tree.find? place with
      | some (.device .null) => .ok (FileTree.pathTo place)
      | some (.device _) => .error .notFound
      | _ => .ok (FileTree.pathTo place)

/-- The bytes that can be read at a path. -/
def read (w : World) (path : String) : Except SystemError Bytes :=
  match w.locate path with
  | .error e => .error e
  | .ok place =>
      match w.tree.find? place with
      | some (.file content) => .ok content
      | some .directory => .error .isDirectory
      | some (.device .input) => .ok w.input
      | _ => .ok []

/-- Write bytes at the end of what stands at a path. -/
def append (w : World) (path : String) (data : Bytes) : World :=
  match w.locate path with
  | .error _ => w
  | .ok place =>
      match w.tree.find? place with
      | some (.file content) =>
          { w with tree := w.tree.insert place (.file (content ++ data)) }
      | some (.device .output) => { w with output := w.output ++ data }
      | some (.device .errors) => { w with errors := w.errors ++ data }
      | _ => w

/-- The source at a path, or the standard input. -/
def source (w : World) : Option String → Source
  | none => { pieces := [w.input] }
  | some path =>
      match w.read path with
      | .ok content => { pieces := [content] }
      | .error e => { pieces := [], failure := some e.message }

/-- The host that a world is. -/
def host : Host (StateM World) where
  realPath path := do return (← get).realPath path
  status path := do
    let w ← get
    return (w.locate path).map w.statusAt
  read path := do return (← get).read path
  openInput path := do
    let w ← get
    return (w.locate path).map fun _ => ()
  create path := do
    let w ← get
    match w.tree.create w.cwd path with
    | .error e => return .error e
    | .ok (tree, _) =>
        set { w with tree := tree }
        return .ok ()
  source path := do return (← get).source path
  write path data := modify fun w =>
    match path with
    | none => { w with output := w.output ++ data }
    | some path => w.append path data
  report text := modify fun w => { w with errors := w.errors ++ Utf8.ofString text }

end World

end BatchFilter
