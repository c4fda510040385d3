import BatchFilter.CommandLine.Execute

/-! # The Program

    The command line on the system the program runs on.  Everything is
    decided elsewhere; here the system is made a host, and the outcome of a
    request is told. -/

namespace BatchFilter.Main

/-- What the system says about a path. -/
def systemError (e : IO.Error) : SystemError :=
  match e with
  | .noFileOrDirectory _ _ _ => .notFound
  | .inappropriateType _ code _ => if code = 21 then .isDirectory else .notDirectory
  | .invalidArgument _ code text =>
      if code = 40 then .tooManyLinks else if code = 36 then .nameTooLong else .other text
  | .otherError code text =>
      if code = 40 then .tooManyLinks else if code = 36 then .nameTooLong else .other text
  | e => .other (toString e)

/-- Do something that may fail. -/
def attempt {α : Type} (action : IO α) : IO (Except SystemError α) := do
  try
    return .ok (← action)
  catch e =>
    return .error (systemError e)

/-- How much is read at a time. -/
def pieceSize : USize := 8192

/-- Read a stream to its end; the pieces come in order. -/
partial def readPieces (stream : IO.FS.Stream) (done : List Bytes) : IO Source := do
  match ← attempt (stream.read pieceSize) with
  | .error e => return { pieces := done.reverse, failure := some e.message }
  | .ok data =>
      if data.isEmpty then return { pieces := done.reverse }
      else readPieces stream (data.toList :: done)

/-- The path from the root that a path stands for.  The system says more of
    what is wrong with a path when it is opened. -/
def realPath (path : String) : IO (Except SystemError String) := do
  match ← attempt (IO.FS.realPath path) with
  | .ok real => return .ok real.toString
  | .error e =>
      match ← attempt (IO.FS.Handle.mk path .read) with
      | .ok _ => return .error e
      | .error e => return .error e

/-- What a path leads to. -/
def status (path : String) : IO (Except SystemError FileStatus) := do
  match ← attempt (IO.FS.realPath path) with
  | .ok real =>
      match ← attempt real.metadata with
      | .error e => return .error e
      | .ok data =>
          match data.type with
          | .file => return .ok (.file data.byteSize.toNat)
          | .dir => return .ok .directory
          | _ => return .ok .other
  | .error _ =>
      match ← attempt (IO.FS.Handle.mk path .read) with
      | .ok _ => return .ok .other
      | .error e => return .error e

/-- Bytes as the system takes them. -/
def packed (data : Bytes) : ByteArray :=
  ⟨data.toArray⟩

/-- The system the program runs on. -/
def host : Host IO where
  realPath path := realPath path
  status path := status path
  read path := attempt do return (← IO.FS.readBinFile path).toList
  openInput path := attempt do
    let _ ← IO.FS.Handle.mk path .read
  create path := attempt (IO.FS.writeBinFile path ByteArray.empty)
  source path :=
    match path with
    | none => do readPieces (← IO.getStdin) []
    | some path => do
        match ← attempt (IO.FS.Handle.mk path .read) with
        | .ok handle => readPieces (IO.FS.Stream.ofHandle handle) []
        | .error e => return { pieces := [], failure := some e.message }
  write path data :=
    match path with
    | none => do
        let out ← IO.getStdout
        out.write (packed data)
        out.flush
    | some path => IO.FS.writeBinFile path (packed data)
  report text := IO.eprint text

/-- How the program is used. -/
def usage : String :=
  "Usage: sieve [--json-mode] <COMMAND>\n\n"
    ++ "Commands:\n"
    ++ "  run       -c <FILE> [-i <FILE>] [-o <FILE>] [-w <N>] [-m]\n"
    ++ "  lint      -c <FILE>\n"
    ++ "  sanitize  -c <FILE>\n"
    ++ "  list\n"
    ++ "  help      [COMMAND]\n"

/-- Tell why there is no request, and give the exit code. -/
def refuse (fault : UsageFault) : IO UInt32 := do
  match fault with
  | .version => IO.print versionText
  | .help => IO.print usage
  | _ => IO.eprint usage
  return if fault.isAnswer then 0 else 2

end BatchFilter.Main

open BatchFilter in
/-- Do what the command line asks. -/
def main (args : List String) : IO UInt32 := do
  match Request.parse args with
  | .error fault => Main.refuse fault
  | .ok request =>
      match ← (request.execute Main.host).run with
      | .ok () => return 0
      | .error e =>
          IO.eprintln ("Error: " ++ e.message)
          return if e.category = .breakdown then 101 else 1
