import BatchFilter.Error
import BatchFilter.Files.Path
import BatchFilter.Text.Utf8

/-! # File Trees

    Files, directories, links and devices under a root, and where a path
    leads among them.  A path is followed name by name from the directory
    one is in; whatever it goes through must be a directory, and it may go
    through only so many links. -/

namespace BatchFilter

/-! ## Section 1: Entries -/

/-- The devices that stand for streams. -/
inductive Device where
  | null
  | input
  | output
  | errors
  deriving DecidableEq

/-- What stands at a place in a file tree. -/
inductive FileEntry where
  | file (content : Bytes)
  | directory
  | link (target : String)
  | device (d : Device)
  deriving DecidableEq

/-- A place in a file tree: the names on the way from the root. -/
abbrev Location : Type := List String

/-- A file tree.  The root is not listed. -/
structure FileTree where
  entries : List (Location × FileEntry)
  deriving DecidableEq

namespace FileTree

/-- What stands at a place. -/
def find? (t : FileTree) (place : Location) : Option FileEntry :=
  if place.isEmpty then some .directory
  else (t.entries.find? fun e => e.1 == place).map Prod.snd

/-- Put an entry at a place. -/
def insert (t : FileTree) (place : Location) (e : FileEntry) : FileTree :=
  ⟨(place, e) :: t.entries.filter fun other => other.1 != place⟩

/-! ## Section 2: Following a path -/

/-- Where a path leads: to something, or to a name that is not taken. -/
inductive Spot where
  | taken (place : Location)
  | free (directory : Location) (name : String)
  deriving DecidableEq

/-- How many links a path may go through. -/
def linkLimit : Nat := 40

/-- How many bytes a name may have. -/
def nameLimit : Nat := 255

/-- What a path is followed for. -/
inductive Purpose where
  /-- To reach what is there. -/
  | reach
  /-- To make a file if nothing is there. -/
  | make
  deriving DecidableEq

/-- Do the names say no more than that a directory has to be here? -/
def endsInSlash (names : List String) : Bool :=
  !names.isEmpty && names.all String.isEmpty

/-- Follow names from a place, through at most `links` links.  Nothing can be
    made under a last name with a slash behind it, also if that is the last
    name of a link. -/
def walk (t : FileTree) (purpose : Purpose) (links : Nat) (place : Location)
    (pending : List String) : Except SystemError Spot :=
  match pending with
  | [] => .ok (.taken place)
  | name :: rest =>
      match t.find? place with
      | some .directory =>
          if name = "" ∨ name = "." then walk t purpose links place rest
          else if name = ".." then walk t purpose links place.dropLast rest
          else if purpose = .make ∧ endsInSlash rest then .error .isDirectory
          else if nameLimit < name.utf8ByteSize then .error .nameTooLong
          else
            match t.find? (place ++ [name]) with
            | none => if rest.isEmpty then .ok (.free place name) else .error .notFound
            | some (.link target) =>
                -- The names of a link come before those that are left.
                match links with
                | 0 => .error .tooManyLinks
                | left + 1 =>
                    walk t purpose left (if Path.isAbsolute target then [] else place)
                      (Path.names target ++ rest)
            | some _ => walk t purpose links (place ++ [name]) rest
      | _ => .error .notDirectory
termination_by (links, pending.length)

/-- Follow a path from the directory `cwd`. -/
def follow (t : FileTree) (purpose : Purpose) (cwd : Location) (path : String) :
    Except SystemError Spot :=
  if path.toList.contains '\x00' then .error .unusablePath
  else
    t.walk purpose linkLimit (if Path.isAbsolute path then [] else cwd) (Path.names path)

/-- The place that a path leads to. -/
def resolve (t : FileTree) (cwd : Location) (path : String) :
    Except SystemError Location :=
  match t.follow .reach cwd path with
  | .ok (.taken place) => .ok place
  | .ok (.free _ _) => .error .notFound
  | .error e => .error e

/-- The path of a place from the root. -/
def pathTo (place : Location) : String :=
  if place.isEmpty then "/" else place.foldl (fun path name => path ++ "/" ++ name) ""

/-- Make an empty file where a path leads, or empty the one that is there:
    the tree after it, and the place. -/
def create (t : FileTree) (cwd : Location) (path : String) :
    Except SystemError (FileTree × Location) :=
  match t.follow .make cwd path with
  | .error e => .error e
  | .ok (.free directory name) =>
      .ok (t.insert (directory ++ [name]) (.file []), directory ++ [name])
  | .ok (.taken place) =>
      match t.find? place with
      | some .directory => .error .isDirectory
      | some (.file _) => .ok (t.insert place (.file []), place)
      | _ => .ok (t, place)

end FileTree

end BatchFilter
