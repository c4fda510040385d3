/-! # Paths

    What can be said of a path by its text alone: the names it goes
    through, its last name, and the path of what holds that.  Slashes
    repeated or at the end count for nothing here, and neither do single
    dots, but for one at the front. -/

namespace BatchFilter.Path

/-- The names between the slashes of a text after `name` (newest character
    first). -/
def splitFrom (name : List Char) : List Char → List String
  | [] => [String.ofList name.reverse]
  | c :: cs =>
      if c = '/' then String.ofList name.reverse :: splitFrom [] cs
      else splitFrom (c :: name) cs

/-- The names that a path goes through.  An empty name stands for a slash
    too many, also for one at the front or at the end. -/
def names (path : String) : List String :=
  splitFrom [] path.toList

/-- Does the path begin at the root? -/
def isAbsolute (path : String) : Bool :=
  match path.toList with
  | '/' :: _ => true
  | _ => false

/-- How many characters at the front of a path are the root, or the dot that
    stands for the directory one is in. -/
def frontLength : List Char → Nat
  | '/' :: _ => 1
  | ['.'] => 1
  | '.' :: '/' :: _ => 1
  | _ => 0

/-- A path (last character first) without slashes and single dots at its
    end. -/
def trimEnd : List Char → List Char
  | '/' :: cs => trimEnd cs
  | ['.'] => []
  | '.' :: '/' :: cs => trimEnd cs
  | cs => cs

/-- A path cut in front of its last name: what comes before it, and the
    name, empty if there is none. -/
def cut (path : String) : String × String :=
  let cs := path.toList
  let front := cs.take (frontLength cs)
  let body := trimEnd (cs.drop (frontLength cs)).reverse
  let before := trimEnd (body.dropWhile (· != '/'))
  if body.isEmpty then ("", "")
  else
    (String.ofList (front ++ before.reverse),
      String.ofList (body.takeWhile (· != '/')).reverse)

/-- The path of what holds the last name of a path. -/
def parent (path : String) : String :=
  let before := (cut path).1
  if before = "" then "." else before

/-- The last name of a path.  Two dots are no name. -/
def name? (path : String) : Option String :=
  let name := (cut path).2
  if name = "" ∨ name = ".." then none else some name

/-- A name under a directory. -/
def join (directory name : String) : String :=
  if directory.toList.getLast? = some '/' then directory ++ name
  else directory ++ "/" ++ name

/-- What comes after the last dot of a name, unless the name begins with
    it. -/
def extensionOf? (name : String) : Option String :=
  let cs := name.toList.reverse
  match cs.dropWhile (· != '.') with
  | '.' :: _ :: _ => some (String.ofList (cs.takeWhile (· != '.')).reverse)
  | _ => none

/-- The extension of a path's last name. -/
def extension? (path : String) : Option String :=
  (name? path).bind extensionOf?

end BatchFilter.Path
