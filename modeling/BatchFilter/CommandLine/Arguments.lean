import BatchFilter.Text.Integer

/-! # Arguments

    The words of a command line and the request they make.  The first word
    that stands alone names a command; its switches come after it, and a few
    may come before it.

    A switch with its value in the next word is looked at when another
    switch comes, or at the end.  A word that nobody knows is refused before
    that.

    * `Word.ofString`: what a word looks like.
    * `Given`: the switches that were given.
    * `Request.parse`: a whole command line. -/

namespace BatchFilter

/-! ## Section 1: Requests -/

/-- What the program is asked to do. -/
inductive Command where
  | run (config : String) (input output : Option String) (workers : Nat) (metrics : Bool)
  | lint (config : String)
  | sanitize (config : String)
  | list
  deriving DecidableEq

/-- A command, and whether its report is to be JSON. -/
structure Request where
  json : Bool
  command : Command
  deriving DecidableEq

/-- Why no request was made. -/
inductive UsageFault where
  /-- Help was asked for. -/
  | help
  /-- The version was asked for. -/
  | version
  /-- There was nothing to do, so help is due. -/
  | nothingGiven
  | commandMissing
  | commandUnknown
  | argumentUnknown
  | argumentMissing
  /-- A switch lacks its value, or has an empty one that it does not take. -/
  | valueMissing
  /-- A value is not of the kind that its switch takes. -/
  | valueMalformed
  /-- A switch that takes no value was given one. -/
  | valueUnwanted
  /-- A switch was given twice. -/
  | repeated
  deriving DecidableEq

/-- Is this no mistake, but an answer that was asked for? -/
def UsageFault.isAnswer : UsageFault → Bool
  | .help => true
  | .version => true
  | _ => false

/-- The program's name and version. -/
def versionText : String := "sieve 0.4.0\n"

/-! ## Section 2: Switches -/

/-- The switches there are. -/
inductive Switch where
  | jsonMode
  | help
  | version
  | config
  | input
  | output
  | workers
  | metrics
  deriving DecidableEq

/-- What a switch takes. -/
inductive ValueKind where
  | nothing
  | path
  | count
  deriving DecidableEq

namespace Switch

/-- The word that stands for the switch after two dashes. -/
def long : Switch → String
  | .jsonMode => "json-mode"
  | .help => "help"
  | .version => "version"
  | .config => "config"
  | .input => "input"
  | .output => "output"
  | .workers => "workers"
  | .metrics => "metrics"

/-- The letter that stands for the switch after one dash. -/
def short? : Switch → Option Char
  | .jsonMode => none
  | .help => some 'h'
  | .version => some 'V'
  | .config => some 'c'
  | .input => some 'i'
  | .output => some 'o'
  | .workers => some 'w'
  | .metrics => some 'm'

/-- What the switch takes. -/
def kind : Switch → ValueKind
  | .config => .path
  | .input => .path
  | .output => .path
  | .workers => .count
  | _ => .nothing

end Switch

/-- The commands by name. -/
inductive Verb where
  | run
  | lint
  | sanitize
  | list
  | help
  deriving DecidableEq

namespace Verb

/-- The command of a name. -/
def ofName? : String → Option Verb
  | "run" => some .run
  | "lint" => some .lint
  | "sanitize" => some .sanitize
  | "list" => some .list
  | "help" => some .help
  | _ => none

/-- The switches of a command. -/
def switches : Verb → List Switch
  | .run => [.config, .input, .output, .workers, .metrics, .jsonMode, .help]
  | .lint => [.config, .jsonMode, .help]
  | .sanitize => [.config, .jsonMode, .help]
  | .list => [.jsonMode, .help]
  | .help => []

end Verb

/-- The switches that may come before the command. -/
def leadingSwitches : List Switch :=
  [.jsonMode, .help, .version]

/-! ## Section 3: Values -/

/-- The greatest number of workers that can be asked for. -/
def countLimit : Nat := Nat.pow 2 64 - 1

/-- The number that a text denotes: a plus sign or none, then digits. -/
def count? (s : String) : Option Nat :=
  let digits := match s.toList with
    | '+' :: cs => cs
    | cs => cs
  (Integer.digits? digits).filter (· ≤ countLimit)

/-- Is the value one that the switch takes? -/
def checkValue (s : Switch) (value : String) : Except UsageFault Unit :=
  match s.kind with
  | .nothing => .ok ()
  | .path => if value = "" then .error .valueMissing else .ok ()
  | .count => if (count? value).isSome then .ok () else .error .valueMalformed

/-! ## Section 4: Words -/

/-- What a word looks like. -/
inductive Word where
  /-- Two dashes: no switches come after it. -/
  | escape
  | long (name : String) (value : Option String)
  | short (letters : List Char)
  | plain (s : String)

/-- The text before the first equals sign, and the text after it. -/
def splitValue (name : List Char) : List Char → String × Option String
  | [] => (String.ofList name.reverse, none)
  | c :: cs =>
      if c = '=' then (String.ofList name.reverse, some (String.ofList cs))
      else splitValue (c :: name) cs

/-- What a word looks like.  A dash alone is nothing special. -/
def Word.ofString (s : String) : Word :=
  match s.toList with
  | ['-', '-'] => .escape
  | '-' :: '-' :: cs =>
      let (name, value) := splitValue [] cs
      .long name value
  | '-' :: c :: cs => .short (c :: cs)
  | _ => .plain s

/-- The switches that were given so far, with their values, and the one
    that may still wait for its value or have it looked at. -/
structure Given where
  settled : List (Switch × String) := []
  pending : Option (Switch × Option String) := none

namespace Given

/-- Was the switch given? -/
def has (g : Given) (s : Switch) : Bool :=
  g.settled.any fun e => e.1 == s

/-- The value that a switch was given. -/
def value? (g : Given) (s : Switch) : Option String :=
  (g.settled.find? fun e => e.1 == s).map Prod.snd

/-- Take a switch and its value.  A switch is given once. -/
def put (g : Given) (s : Switch) (value : String) : Except UsageFault Given :=
  if g.has s then .error .repeated
  else (checkValue s value).map fun _ => { g with settled := (s, value) :: g.settled }

/-- Look at the switch that is still pending. -/
def resolve (g : Given) : Except UsageFault Given :=
  match g.pending with
  | none => .ok g
  | some (_, none) => .error .valueMissing
  | some (s, some value) => ({ g with pending := none } : Given).put s value

/-- Take a switch that has no value of its own. -/
def act (g : Given) (s : Switch) : Except UsageFault Given := do
  let g ← g.resolve
  match s with
  | .help => .error .help
  | .version => .error .version
  | s => g.put s ""

/-- Take a switch with a value in the same word. -/
def attach (g : Given) (s : Switch) (value : String) : Except UsageFault Given := do
  (← g.resolve).put s value

/-- Take a switch whose value is in the next word. -/
def await (g : Given) (s : Switch) : Except UsageFault Given :=
  g.resolve.map fun g => { g with pending := some (s, none) }

/-- A word of letters after one dash: switches without a value, and at most
    one with a value, which is the rest of the word. -/
def letters (known : List Switch) (g : Given) : List Char → Except UsageFault Given
  | [] => .ok g
  | c :: cs =>
      match known.find? fun s => s.short? == some c with
      | none => .error .argumentUnknown
      | some s =>
          if s.kind = .nothing then
            match g.act s with
            | .error e => .error e
            | .ok g => letters known g cs
          else
            match cs with
            | [] => g.await s
            | '=' :: value => g.attach s (String.ofList value)
            | value => g.attach s (String.ofList value)

/-- A word of a name after two dashes, with a value or without. -/
def named (known : List Switch) (g : Given) (name : String) (value : Option String) :
    Except UsageFault Given :=
  match known.find? fun s => s.long == name with
  | none => .error .argumentUnknown
  | some s =>
      match s.kind, value with
      | .nothing, none => g.act s
      | .nothing, some _ => .error .valueUnwanted
      | _, some value => g.attach s value
      | _, none => g.await s

/-- The words of a command.  A word that stands alone is the value of the
    switch before it, or else one too many. -/
def words (known : List Switch) (escaped : Bool) (g : Given) :
    List String → Except UsageFault Given
  | [] => g.resolve
  | w :: rest =>
      if escaped then .error .argumentUnknown
      else
        match Word.ofString w with
        | .escape => words known true g rest
        | .long name value =>
            match g.named known name value with
            | .error e => .error e
            | .ok g => words known false g rest
        | .short cs =>
            match g.letters known cs with
            | .error e => .error e
            | .ok g => words known false g rest
        | .plain value =>
            match g.pending with
            | some (s, none) =>
                words known false { g with pending := some (s, some value) } rest
            | _ => .error .argumentUnknown

end Given

/-! ## Section 5: Commands -/

/-- How many workers there are if nobody says. -/
def defaultWorkers : Nat := 4

/-- The command that a name and the switches after it make. -/
def Verb.command (v : Verb) (g : Given) : Except UsageFault Command :=
  match v, g.value? .config with
  | .list, _ => .ok .list
  | .help, _ => .error .help
  | _, none => .error .argumentMissing
  | .lint, some config => .ok (.lint config)
  | .sanitize, some config => .ok (.sanitize config)
  | .run, some config =>
      .ok (.run config (g.value? .input) (g.value? .output)
        (((g.value? .workers).bind count?).getD defaultWorkers) (g.has .metrics))

/-- The command whose help is asked for must exist; none has commands of its
    own. -/
def helpFor : List String → UsageFault
  | [] => .help
  | [name] => if (Verb.ofName? name).isSome then .help else .commandUnknown
  | _ => .commandUnknown

/-- The request of a command after the switches in front of it. -/
def Verb.request (v : Verb) (leading : Given) (rest : List String) :
    Except UsageFault Request :=
  if v = .help then .error (helpFor rest)
  else do
    let g ← Given.words v.switches false {} rest
    let command ← v.command g
    return ⟨leading.has .jsonMode || g.has .jsonMode, command⟩

/-- A word that stands alone where a command is wanted, and is none or comes
    too late to be one. -/
def misplaced (escaped : Bool) (w : String) : UsageFault :=
  if escaped && (Verb.ofName? w).isSome then .argumentUnknown else .commandUnknown

/-- The request that words make after the switches in `g`. -/
def Request.ofWords (escaped : Bool) (g : Given) : List String → Except UsageFault Request
  | [] => .error (if g.settled.isEmpty then .nothingGiven else .commandMissing)
  | w :: rest =>
      if escaped then .error (misplaced true w)
      else
        match Verb.ofName? w with
        | some v => v.request g rest
        | none =>
            match Word.ofString w with
            | .escape => ofWords true g rest
            | .long name value =>
                match g.named leadingSwitches name value with
                | .error e => .error e
                | .ok g => ofWords false g rest
            | .short cs =>
                match g.letters leadingSwitches cs with
                | .error e => .error e
                | .ok g => ofWords false g rest
            | .plain _ => .error (misplaced false w)

/-- The request that the words of a command line make. -/
def Request.parse (args : List String) : Except UsageFault Request :=
  Request.ofWords false {} args

end BatchFilter
