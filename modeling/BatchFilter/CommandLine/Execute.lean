import BatchFilter.CommandLine.Arguments
import BatchFilter.CommandLine.Host
import BatchFilter.Document.Format
import BatchFilter.Run
import BatchFilter.Settings.Written
import BatchFilter.Text.Quoted

/-! # Commands

    What the commands do, on any host: run the stage of a config over
    batches, check a config, reduce one to what it says, list the types
    there are.

    The steps of a command are taken in order, and the first that fails
    is the failure of the command. -/

namespace BatchFilter

/-! ## Section 1: Config files -/

/-- The format of a config file, by its name. -/
def Format.ofPath (path : String) : Format :=
  match Path.extension? path with
  | some extension => if extension.toLower = "json" then .json else .toml
  | none => .toml

/-- The settings that the bytes of a config file denote. -/
def Settings.ofBytes (f : Format) (content : Bytes) : Except Error Settings :=
  match Utf8.decode? content with
  | none => .error (.io (.readConfig "stream did not contain valid UTF-8"))
  | some text => f.decode Settings.ofNode? text

section

variable {m : Type → Type} [Monad m]

/-- The path of a config file with links resolved, which decide on the
    name that counts.  Only a file that is not too large will do. -/
def Host.configPath (h : Host m) (path : String) : ExceptT Error m String := do
  match ← h.realPath path with
  | .error e => throw (.io (.configPath path e))
  | .ok real =>
      match ← h.status real with
      | .ok (.file size) =>
          if size > Limits.configBytes then
            throw (.invalidConfig (.tooLarge size Limits.configBytes))
          else return real
      | _ => throw (.io (.notRegular path))

/-- Load the settings of a config file. -/
def Host.load (h : Host m) (path : String) : ExceptT Error m Settings := do
  let real ← h.configPath path
  match ← h.read real with
  | .error e => throw (.io (.readConfig e.message))
  | .ok content => ExceptT.mk (pure (Settings.ofBytes (Format.ofPath real) content))

/-! ## Section 2: Inputs and outputs -/

/-- Make sure that a path can be read from.  A directory cannot. -/
def Host.checkInput (h : Host m) (path : String) : ExceptT Error m Unit := do
  match ← h.status path with
  | .error e => throw (.io (.inputPath path e))
  | .ok .directory => throw (.io (.inputIsDirectory path))
  | .ok _ =>
      match ← h.openInput path with
      | .error e => throw (.io (.openInput e))
      | .ok () => return ()

/-- Make the file for the output, whose directory must exist, and give its
    path. -/
def Host.createOutput (h : Host m) (path : String) : ExceptT Error m String := do
  let parent := Path.parent path
  match ← h.realPath parent with
  | .error e => throw (.io (.outputDirectory parent e))
  | .ok directory =>
      match ← h.status directory with
      | .ok .directory =>
          match Path.name? path with
          | none => throw (.io .outputUnnamed)
          | some name =>
              let target := Path.join directory name
              match ← h.create target with
              | .error e => throw (.io (.createOutput e))
              | .ok () => return target
      | _ => throw (.io (.outputNotDirectory parent))

/-! ## Section 3: Reports -/

/-- The totals and the counters of a run, as JSON. -/
def metricsJson (summary : Summary) (counters : List (String × Int64)) : Json :=
  .object [("summary", summary.toJson),
    ("counters", .object (counters.map fun e => (e.1, .int e.2.toInt)))]

/-- What is said of a config that can be used. -/
def lintText (path : String) (s : Settings) : String :=
  "Config OK: " ++ Quoted.name path ++ "\n"
    ++ "  Processor: " ++ s.processor.kind ++ "\n"
    ++ "  Condition: " ++ s.processor.condition.kind ++ "\n"
    ++ "  Resources: " ++ toString s.resources.conditions.size ++ "\n"

/-- What is said of a config that can be used, as JSON. -/
def lintJson (s : Settings) : Json :=
  .object [("valid", .bool true), ("processor", .text s.processor.kind),
    ("condition", .text s.processor.condition.kind),
    ("resources", .list (s.resources.conditions.keys.map Json.text))]

/-- The types of stages and of conditions, with what they do. -/
def catalogue : List (String × List (String × String)) :=
  [("processors", [(Stage.typeName, Stage.description)]),
    ("conditions", Kind.every.map fun k => (k.name, k.description))]

/-- The types there are, as JSON. -/
def listJson : Json :=
  .object (catalogue.map fun group =>
    (group.1, .object (group.2.map fun e => (e.1, .text e.2))))

/-- One group of the types there are, under its title. -/
def listGroup (title : String) (entries : List (String × String)) : String :=
  title ++ "\n==========\n"
    ++ String.join (entries.map fun e => e.1 ++ "\n    " ++ e.2 ++ "\n")

/-- The types there are. -/
def listText : String :=
  listGroup "Processors" [(Stage.typeName, Stage.description)] ++ "\n"
    ++ listGroup "Conditions" (Kind.every.map fun k => (k.name, k.description))

/-! ## Section 4: Commands -/

/-- Print a text to the standard output. -/
def Host.print (h : Host m) (text : String) : ExceptT Error m Unit :=
  h.write none (Utf8.ofString text)

/-- Run the stage of a config over an input. -/
def Host.runStage (h : Host m) (config : String) (input output : Option String)
    (workers : Nat) (metrics : Bool) : ExceptT Error m Unit := do
  let settings ← h.load config
  let attempt := settings.build (.table 0)
  let stage ← ExceptT.mk (pure attempt.result)
  if let some path := input then h.checkInput path
  let target ← match output with
    | none => pure none
    | some path => some <$> h.createOutput path
  let finished := Run.perform stage.processor workers Limits.lineBytes (← h.source input) {}
  h.write target finished.sink.bytes
  let summary ← ExceptT.mk (pure finished.result)
  if metrics then
    let ledger := (Ledger.empty.addTable.registerAll attempt.registered).addAll
      (finished.increments stage)
    h.report ((metricsJson summary (ledger.snapshot 0)).indented ++ "\n")

/-- Check a config. -/
def Host.lint (h : Host m) (json : Bool) (config : String) : ExceptT Error m Unit := do
  let settings ← h.load config
  let _ ← ExceptT.mk (pure (settings.build .discard).result)
  h.print (if json then (lintJson settings).indented ++ "\n" else lintText config settings)

/-- Print what a config says, and no more. -/
def Host.sanitize (h : Host m) (config : String) : ExceptT Error m Unit := do
  let settings ← h.load config
  let j ← ExceptT.mk (pure settings.documented)
  h.print (j.indented ++ "\n")

/-- Do what is asked. -/
def Request.execute (h : Host m) (r : Request) : ExceptT Error m Unit :=
  match r.command with
  | .run config input output workers metrics =>
      h.runStage config input output workers metrics
  | .lint config => h.lint r.json config
  | .sanitize config => h.sanitize config
  | .list => h.print (if r.json then listJson.indented ++ "\n" else listText)

end

end BatchFilter
