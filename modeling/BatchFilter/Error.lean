/-! # Errors

    What can go wrong, by cause.  Each cause has one wording, and a cause
    inside another is worded inside it.  All but one belong to eight
    categories that callers tell apart; the one that is left is no error that
    anybody can handle, as the program breaks down over it. -/

namespace BatchFilter

/-! ## Section 1: Causes -/

/-- What the operating system answers about a path. -/
inductive SystemError where
  | notFound
  | notDirectory
  | isDirectory
  | tooManyLinks
  | nameTooLong
  /-- A path with a NUL character, which the system cannot be given. -/
  | unusablePath
  | other (text : String)
  deriving DecidableEq

/-- Why a line is no batch. -/
inductive BatchFault where
  | tooLong (size limit : Nat)
  | notText
  | malformed
  | other (text : String)
  deriving DecidableEq

/-- Why a config is refused. -/
inductive ConfigFault where
  | malformed
  | tooLarge (size limit : Nat)
  | tooDeep (depth limit : Nat)
  | unknownTextOperator (name : String)
  | unknownMetadataOperator (name : String)
  | integerRequired (operator arg : String)
  | keyRequired
  | childrenRequired (kind : String)
  | tooManyChildren (kind : String) (count limit : Nat)
  | childRequired
  | nameRequired
  | selfReference (name : String)
  | other (text : String)
  deriving DecidableEq

/-- Which step of reading or writing failed. -/
inductive StreamFault where
  | configPath (path : String) (cause : SystemError)
  | notRegular (path : String)
  | readConfig (cause : String)
  | inputPath (path : String) (cause : SystemError)
  | inputIsDirectory (path : String)
  | openInput (cause : SystemError)
  | outputDirectory (path : String) (cause : SystemError)
  | outputNotDirectory (path : String)
  | outputUnnamed
  | createOutput (cause : SystemError)
  | readInput (cause : String)
  | workerFailed (line : Nat)
  | writeOutput (cause : String)
  | flushOutput (cause : String)
  | other (text : String)
  deriving DecidableEq

/-- Why something could not be built or run. -/
inductive Error where
  | unknownConditionType (name : String)
  | unknownProcessorType (name : String)
  | conditionConstruction (kind : String) (source : Error)
  | invalidConfig (fault : ConfigFault)
  | resourceConstruction (name : String) (source : Error)
  | resourceNotFound (name : String)
  | serialization (text : String)
  | invalidBatch (fault : BatchFault)
  | io (fault : StreamFault)
  /-- The places of a window take more bytes than can be asked for. -/
  | windowTooLarge
  deriving DecidableEq

/-! ## Section 2: Categories -/

/-- The kinds of error that callers tell apart. -/
inductive Error.Category where
  | unknownConditionType
  | unknownProcessorType
  | conditionConstruction
  | invalidConfig
  | resourceNotFound
  | serialization
  | invalidBatch
  | io
  /-- The program breaks down. -/
  | breakdown
  deriving DecidableEq

/-- The category of an error.  A named condition that cannot be built makes
    the config invalid that declares it. -/
def Error.category : Error → Error.Category
  | .unknownConditionType _ => .unknownConditionType
  | .unknownProcessorType _ => .unknownProcessorType
  | .conditionConstruction _ _ => .conditionConstruction
  | .invalidConfig _ => .invalidConfig
  | .resourceConstruction _ _ => .invalidConfig
  | .resourceNotFound _ => .resourceNotFound
  | .serialization _ => .serialization
  | .invalidBatch _ => .invalidBatch
  | .io _ => .io
  | .windowTooLarge => .breakdown

/-! ## Section 3: Wording -/

/-- The system's words, with its number for the error. -/
def SystemError.message : SystemError → String
  | .notFound => "No such file or directory (os error 2)"
  | .notDirectory => "Not a directory (os error 20)"
  | .isDirectory => "Is a directory (os error 21)"
  | .tooManyLinks => "Too many levels of symbolic links (os error 40)"
  | .nameTooLong => "File name too long (os error 36)"
  | .unusablePath => "file name contained an unexpected NUL byte"
  | .other text => text

/-- Why a line is no batch, in words. -/
def BatchFault.message : BatchFault → String
  | .tooLong size limit =>
      "line of " ++ toString size ++ " bytes exceeds maximum allowed "
        ++ toString limit ++ " bytes"
  | .notText => "invalid UTF-8"
  | .malformed => "not an array of parts"
  | .other text => text

/-- Why a config is refused, in words. -/
def ConfigFault.message : ConfigFault → String
  | .malformed => "not a config"
  | .tooLarge size limit =>
      "Config size " ++ toString size ++ " bytes exceeds maximum allowed "
        ++ toString limit ++ " bytes"
  | .tooDeep depth limit =>
      "condition nesting depth " ++ toString depth ++ " exceeds maximum "
        ++ toString limit
  | .unknownTextOperator name => "text operator '" ++ name ++ "' was not recognised"
  | .unknownMetadataOperator name =>
      "metadata operator '" ++ name ++ "' was not recognised"
  | .integerRequired operator arg =>
      "metadata operator '" ++ operator ++ "' requires an integer arg, got '"
        ++ arg ++ "'"
  | .keyRequired => "metadata condition requires a key"
  | .childrenRequired kind => kind ++ " condition requires at least one child"
  | .tooManyChildren kind count limit =>
      kind ++ " condition has " ++ toString count ++ " children, maximum is "
        ++ toString limit
  | .childRequired => "not condition requires a child"
  | .nameRequired => "resource condition requires a name"
  | .selfReference name => "resource condition '" ++ name ++ "' references itself"
  | .other text => text

/-- Which step failed, in words. -/
def StreamFault.message : StreamFault → String
  | .configPath path cause => "Invalid file path '" ++ path ++ "': " ++ cause.message
  | .notRegular path => "Path '" ++ path ++ "' is not a regular file"
  | .readConfig cause => "Read config: " ++ cause
  | .inputPath path cause => "Invalid input path '" ++ path ++ "': " ++ cause.message
  | .inputIsDirectory path => "Input path '" ++ path ++ "' is a directory"
  | .openInput cause => "Open input: " ++ cause.message
  | .outputDirectory path cause =>
      "Invalid output directory '" ++ path ++ "': " ++ cause.message
  | .outputNotDirectory path =>
      "Output directory '" ++ path ++ "' is not a valid directory"
  | .outputUnnamed => "Output path has no filename"
  | .createOutput cause => "Create output: " ++ cause.message
  | .readInput cause => "Read input: " ++ cause
  | .workerFailed line => "Worker failed on line " ++ toString line
  | .writeOutput cause => "Write output: " ++ cause
  | .flushOutput cause => "Flush output: " ++ cause
  | .other text => text

/-- The error in words, the cause of its cause included. -/
def Error.message : Error → String
  | .unknownConditionType name => "condition type '" ++ name ++ "' was not recognised"
  | .unknownProcessorType name => "processor type '" ++ name ++ "' was not recognised"
  | .conditionConstruction kind source =>
      "failed to construct condition '" ++ kind ++ "': " ++ source.message
  | .invalidConfig fault => "invalid config: " ++ fault.message
  | .resourceConstruction name source =>
      "invalid config: failed to build resource condition '" ++ name ++ "': "
        ++ source.message
  | .resourceNotFound name => "resource '" ++ name ++ "' was not found"
  | .serialization text => "serialization error: " ++ text
  | .invalidBatch fault => "invalid batch: " ++ fault.message
  | .io fault => "I/O error: " ++ fault.message
  | .windowTooLarge => "capacity overflow"

end BatchFilter
