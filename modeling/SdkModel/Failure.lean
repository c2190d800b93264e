import SdkModel.Coercion
import SdkModel.Json.Reader
import SdkModel.Log
import SdkModel.Value.Display
import SdkModel.Yaml.Fault

/-!
# Failures

Everything that can go wrong, as causes. `Failure.message` words a cause, `Failure.exitCode` is the
status that the command line ends with, and `Failure.isReported` tells the causes that are
explained to the user from those that end in a crash report.
-/

namespace SdkModel

/-- A document that cannot be read, or whose references cannot be followed. -/
inductive DocumentError where
  | remote (source : String)
  | noInput
  | notFound (path : String)
  | empty (path : String)
  | notObject (kind : String)
  | invalidJson (error : Json.SyntaxError)
  | unreadable (json : Option Json.SyntaxError)
  | oldFormat (version : String)
  | noVersion
  | unsupportedVersion (version : String)
  | externalReference (reference : String)
  | missingKey (reference key : String)
  | badIndex (reference index : String)
  | notContainer (reference kind : String)
deriving DecidableEq, Repr

def DocumentError.message : DocumentError → String
  | .remote source => "Remote documents are not supported: " ++ source ++
      ". Download the document and pass the local path instead."
  | .noInput => "No input received from stdin"
  | .notFound path => "Document not found: " ++ path
  | .empty path => "Document is empty: " ++ path
  | .notObject kind => "Document must be a JSON/YAML object (got " ++ kind ++ ")"
  | .invalidJson error => "Invalid JSON: " ++ error.message
  | .unreadable none => "Failed to parse document as JSON or YAML"
  | .unreadable (some error) =>
      "Failed to parse document as JSON or YAML\n  JSON error: " ++ error.message
  | .oldFormat version => "Swagger " ++ version ++
      " is not supported. Only OpenAPI 3.0.x and 3.1.x are supported."
  | .noVersion => "Missing 'openapi' field. Is this an OpenAPI 3.x document?"
  | .unsupportedVersion version => "Unsupported OpenAPI version: " ++ version ++
      ". Only OpenAPI 3.0.x and 3.1.x are supported."
  | .externalReference reference => "External $ref not supported: " ++ reference ++
      ". Only internal references (#/...) are handled."
  | .missingKey reference key => "Cannot resolve $ref '" ++ reference ++ "': key '" ++ key ++
      "' not found at path"
  | .badIndex reference index => "Cannot resolve $ref '" ++ reference ++
      "': invalid array index '" ++ index ++ "'"
  | .notContainer reference kind => "Cannot resolve $ref '" ++ reference ++
      "': cannot navigate into " ++ kind

/-- What an operation lacks of the contract that every operation has to meet. -/
inductive ContractGap where
  | extensions
  | methodName
deriving DecidableEq, Repr

def ContractGap.message : ContractGap → String
  | .extensions => "Operation extensions not found"
  | .methodName => "Operation method name not found"

/-- The records with typed fields. -/
inductive RecordKind where
  | operationExtensions
  | schemaExtensions
  | infoExtensions
  | schema
  | generationConfig
  | outputConfig
  | globalConfig
deriving DecidableEq, Repr

def RecordKind.title : RecordKind → String
  | .operationExtensions => "OperationExtensions"
  | .schemaExtensions => "SchemaExtensions"
  | .infoExtensions => "InfoExtensions"
  | .schema => "Schema"
  | .generationConfig => "GenerationConfig"
  | .outputConfig => "OutputConfig"
  | .globalConfig => "GlobalConfig"

/-- The count of the faults of a record, as the first line of their report gives it. -/
def faultCount (kind : RecordKind) (faults : List FieldFault) : String :=
  let n := faults.length
  toString n ++ (if n = 1 then " validation error for " else " validation errors for ") ++
    kind.title

inductive ConfigError where
  | invalidJson (label path : String) (error : Json.SyntaxError)
  | invalidUserConfig (path : String) (faults : List FieldFault)
  | projectNotObject (path : String)
  | sectionNotObject
  | notBoolean (name value : String)
  | invalidGeneration (faults : List FieldFault)
deriving DecidableEq, Repr

def ConfigError.message : ConfigError → String
  | .invalidJson label path error => "Invalid " ++ label ++ " at " ++ path ++ ": " ++ error.message
  | .invalidUserConfig path _ => "Invalid global config at " ++ path
  | .projectNotObject path => "Invalid project config at " ++ path ++ ": expected a JSON object"
  | .sectionNotObject => "Project config 'generation' must be a JSON object"
  | .notBoolean name value => "Environment variable " ++ name ++
      " must be a boolean, got " ++ Text.quoted value
  | .invalidGeneration _ => "Invalid generation config"

/-- A part of the input that has a shape which the program takes for granted to be another. -/
inductive Malformed where
  | notMapping
  | notIterable
  | notText
  | unknownFlag
  | unknownChoice
  | unregisteredKey
  | missingFile
  | undecodable
  | unwritableKey
  | limit (l : Limit)
  | yaml (fault : Yaml.Fault)
deriving DecidableEq, Repr

inductive Failure where
  | document (error : DocumentError)
  | contract (gap : ContractGap) (path : String) (operationId : Option String)
  | unknownExtension (key place : String)
  | invalidExtension (record : RecordKind) (place : String) (faults : List FieldFault)
  | depth (limit : Int) (place : String)
  | unknownBackend (name : String) (available : List String)
  | config (error : ConfigError)
  | invalidRecord (record : RecordKind) (faults : List FieldFault)
  | malformed (shape : Malformed)
deriving DecidableEq, Repr

namespace Failure

/-- The wording of a failure, without the list of faults that some failures carry. -/
def message : Failure → String
  | .document e => e.message
  | .contract gap path id =>
      let location := " ".intercalate ([path, id.getD ""].filter (· ≠ ""))
      if location = "" then gap.message else gap.message ++ " (" ++ location ++ ")"
  | .unknownExtension key place => "Unknown extension key '" ++ key ++ "' at " ++ place
  | .invalidExtension _ place _ => "Invalid extension value at " ++ place
  | .depth limit place => "Schema nesting exceeds " ++ toString limit ++ " levels at " ++ place
  | .unknownBackend name available =>
      let known := if available.isEmpty then "none" else ", ".intercalate available
      "Backend '" ++ name ++ "' not found (available: " ++ known ++ ")"
  | .config e => e.message
  | .invalidRecord record faults => faultCount record faults
  | .malformed _ => ""

/-- The record whose faults a failure lists, with the faults. -/
def faults? : Failure → Option (RecordKind × List FieldFault)
  | .invalidExtension record _ faults => some (record, faults)
  | .config (.invalidUserConfig _ faults) => some (.globalConfig, faults)
  | .config (.invalidGeneration faults) => some (.generationConfig, faults)
  | _ => none

/-- The report on a failure, up to the faults that it lists. -/
def report (f : Failure) : String :=
  match f.faults? with
  | some (record, faults) => f.message ++ ": " ++ faultCount record faults
  | none => f.message

def exitCode : Failure → Nat
  | .document _ => 7
  | .contract .. | .unknownExtension .. | .invalidExtension .. => 8
  | .depth .. => 9
  | .unknownBackend .. => 10
  | .config _ | .invalidRecord .. | .malformed _ => 1

/-- A failure that is explained to the user; the others end in a crash report. -/
def isReported : Failure → Bool
  | .invalidRecord .. | .malformed _ => false
  | _ => true

end Failure

/-- An answer or the failure that stands in its place. -/
abbrev Checked (α : Type) := Except Failure α

/-- A computation that writes log records and may fail. -/
abbrev Build (α : Type) := Logged Failure α

namespace Value

/-- The entries of a value that has to be an object. -/
def requireEntries : Value → Checked Entries
  | .object es => .ok es
  | _ => .error (.malformed .notMapping)

/-- The entries of an object that may be left out: what states nothing counts as an empty one. -/
def optionalEntries (v : Value) : Checked Entries :=
  if v.isTelling then v.requireEntries else .ok []

/-- The parts of a value that are walked one by one: items of a list, keys of an object and
characters of a text; what states nothing has none. -/
def parts (v : Value) : Checked (List Value) :=
  if v.isTelling then
    match v with
    | .list xs => .ok xs
    | .object es => .ok (es.map fun e => .text e.1.display)
    | .text s => .ok (s.toList.map fun c => .text (String.singleton c))
    | _ => .error (.malformed .notIterable)
  else .ok []

end Value

end SdkModel
