import RestRoutes.File
import RestRoutes.Json.Fault
import RestRoutes.Text.Utf8
import RestRoutes.Url.Path
import RestRoutes.Yaml.Error

/-! Why a run ends without a result.  A refusal is about what the user gave; each kind has an exit
code of its own.  A defect is anything else that stops a run. -/

namespace RestRoutes

inductive DocumentFault
  | notJson (fault : Json.Fault)
  /-- Neither JSON, unless that was not tried, nor YAML. -/
  | unreadable (json : Option Json.Fault) (yaml : Yaml.Problem)
  /-- Read, but no map: the kind of the value, which an empty document has not. -/
  | notMap (kind : Option String)
  | swaggerVersion (text : String)
  | openApiVersion (text : String)
  | versionMissing
  | noContent (origin : String)
  | notFound (path : String)
  | unreadableFile (path : String) (fault : File.Fault)
  | status (code : Nat) (url : String)
  | unreachable (url reason : String)
deriving DecidableEq, Repr

def DocumentFault.message : DocumentFault → String
  | .notJson fault => "Invalid JSON: " ++ fault.message
  | .unreadable json yaml =>
    let first := match json with
      | some fault => "\n  JSON error: " ++ fault.message
      | none => ""
    "Failed to parse document as JSON or YAML" ++ first ++ "\n  YAML error: " ++ yaml.message
  | .notMap kind =>
    "Document must be a JSON/YAML object (got " ++ kind.getD "empty document" ++ ")"
  | .swaggerVersion text =>
    "Unsupported Swagger version: " ++ text ++ ". Only Swagger 2.0 is supported."
  | .openApiVersion text =>
    "Unsupported OpenAPI version: " ++ text ++
      ". Only Swagger 2.0 and OpenAPI 3.x are supported."
  | .versionMissing => "Missing 'openapi' or 'swagger' field. Is this an OpenAPI document?"
  | .noContent origin => "No content received from " ++ origin
  | .notFound path => "Document not found: " ++ path
  | .unreadableFile path fault => "Failed to read " ++ path ++ ": " ++ fault.message
  | .status code url => "HTTP " ++ toString code ++ " fetching document from " ++ url
  | .unreachable url reason => "Failed to fetch document from " ++ url ++ ": " ++ reason

inductive DestinationFault
  | template (text : String)
  | path (path : String)
deriving DecidableEq, Repr

/-- The part of a template that the name of an operation takes the place of. -/
def placeholder : String := "\x7boperation_id\x7d"

def DestinationFault.message : DestinationFault → String
  | .template text => "Destination template '" ++ text ++ "' must contain " ++ placeholder
  | .path text => "Cannot derive a destination name from path '" ++ text ++ "'"

inductive SettingKind
  | text
  | flag
  /-- A flag that is written in a way that says neither yes nor no. -/
  | flagWord
  | map
deriving DecidableEq, Repr

def SettingKind.message : SettingKind → String
  | .text => "Input should be a valid string"
  | .flag => "Input should be a valid boolean"
  | .flagWord => "Input should be a valid boolean, unable to interpret input"
  | .map => "Input should be a valid dictionary"

/-- A setting that is not acceptable. -/
structure SettingFault where
  place : List String
  expected : SettingKind
deriving DecidableEq, Repr

/-- The settings of the user and those of the project. -/
inductive SettingsFile
  | user
  | project
deriving DecidableEq, Repr

def SettingsFile.label : SettingsFile → String
  | .user => "user config"
  | .project => "project config"

inductive SettingsFault
  | notJson (file : SettingsFile) (path : String) (fault : Json.Fault)
  | unreadableFile (file : SettingsFile) (path : String) (fault : File.Fault)
  | notMap (file : SettingsFile) (path : String)
  | invalid (faults : List SettingFault)
deriving DecidableEq, Repr

def SettingFault.lines (fault : SettingFault) : String :=
  "\n" ++ String.intercalate "." fault.place ++ "\n  " ++ fault.expected.message

def SettingsFault.message : SettingsFault → String
  | .notJson file path fault => "Invalid " ++ file.label ++ " at " ++ path ++ ": " ++ fault.message
  | .unreadableFile file path fault =>
    "Invalid " ++ file.label ++ " at " ++ path ++ ": " ++ fault.message
  | .notMap file path => "Invalid " ++ file.label ++ " at " ++ path ++ ": expected a JSON object"
  | .invalid faults =>
    "Invalid configuration: " ++ toString faults.length ++ " validation error" ++
      (if faults.length = 1 then "" else "s") ++ " for GeneratorConfig" ++
      String.join (faults.map SettingFault.lines)

/-- Something that the user gave is refused. -/
inductive Refusal
  | document (fault : DocumentFault)
  /-- A parameter is said to be taken from an unknown place. The name may be empty. -/
  | location (location parameter : String)
  | destination (fault : DestinationFault)
  | outputFormat (name : String)
  | settings (fault : SettingsFault)
deriving DecidableEq, Repr

namespace Refusal

def message : Refusal → String
  | .document fault => fault.message
  | .location place parameter =>
    "Unknown parameter location '" ++ place ++ "'" ++
      (if parameter.isEmpty then "" else " on parameter '" ++ parameter ++ "'")
  | .destination fault => fault.message
  | .outputFormat name =>
    "Unknown output format '" ++ name ++ "' (choose from dsl, yaml, json, events)"
  | .settings fault => fault.message

def exitCode : Refusal → Nat
  | .settings _ => 1
  | .outputFormat _ => 2
  | .document _ => 7
  | .location _ _ => 8
  | .destination _ => 9

end Refusal

/-- Something else that stops a run. -/
inductive Defect
  /-- A scalar of a YAML document names no value. -/
  | scalar (fault : Yaml.ScalarFault)
  /-- An integer of too many digits is to be read: from a JSON text, or as a bound in a pattern. -/
  | longInteger (digits : Nat)
  /-- An integer has too many digits to be written. -/
  | longIntegerText
  | encoding (fault : Text.Utf8.Fault)
  | url (fault : Url.Fault)
  | version (n : Int)
  /-- A bound of a repetition in a filter pattern is too large. -/
  | hugeRepetition
  /-- A filter pattern asks for ASCII and for all scripts. -/
  | conflictingScripts
  | file (fault : File.Fault)
  /-- The home directory is asked for and cannot be told. -/
  | noHome
deriving DecidableEq, Repr

namespace Defect

def message : Defect → String
  | .scalar fault => fault.message
  | .longInteger digits => longIntegerMessage digits
  | .longIntegerText =>
    "Exceeds the limit (4300 digits) for integer string conversion; use " ++
      "sys.set_int_max_str_digits() to increase the limit"
  | .encoding fault => fault.message
  | .url fault => fault.message
  | .version n => "Unsupported OpenAPI major version: " ++ toString n
  | .hugeRepetition => "the repetition number is too large"
  | .conflictingScripts => "ASCII and UNICODE flags are incompatible"
  | .file fault => fault.message
  | .noHome => "Could not determine home directory."

def label : Defect → String
  | .scalar (.notBoolean _) => "KeyError"
  | .scalar .emptyNumber => "IndexError"
  | .scalar .hugeFloat => "OverflowError"
  | .scalar .noMoment => "AttributeError"
  | .scalar (.codePoint true) => "OverflowError"
  | .hugeRepetition => "OverflowError"
  | .encoding _ => "UnicodeDecodeError"
  | .file fault =>
    match fault.cause with
    | .missing => "FileNotFoundError"
    | .denied => "PermissionError"
    | .exists => "FileExistsError"
    | .notDirectory => "NotADirectoryError"
    | .isDirectory => "IsADirectoryError"
    | .nameTooLong => "OSError"
    | .nullCharacter => "ValueError"
  | .noHome => "RuntimeError"
  | _ => "ValueError"

end Defect

inductive Failure
  | refusal (r : Refusal)
  | defect (d : Defect)
deriving DecidableEq, Repr

def Failure.message : Failure → String
  | .refusal r => r.message
  | .defect d => d.message

end RestRoutes
