import SdkModel.Failure

/-!
# Settings

The settings of a run: what steers generation and how data is shown. Both are sections of the user
configuration. A section is read from an object whose unknown keys do not matter.
-/

namespace SdkModel

/-- The inputs that steer a generation run. -/
structure GenerationConfig where
  qaMode : Bool := false
  backend : String := "python"
  hiddenOverrides : List String := []
  maxSchemaDepth : Int := 32
  strictExtensions : Bool := false
deriving DecidableEq, Repr

/-- How data is written to standard output. -/
inductive OutputFormat where
  | auto
  | json
  | plain
  | rich
deriving DecidableEq, Repr

namespace OutputFormat

def word : OutputFormat → String
  | auto => "auto"
  | json => "json"
  | plain => "plain"
  | rich => "rich"

def ofWord? (s : String) : Option OutputFormat := [auto, json, plain, rich].find? (·.word = s)

end OutputFormat

structure OutputConfig where
  format : OutputFormat := .auto
  verbose : Bool := false
deriving DecidableEq, Repr

/-- The user configuration. -/
structure GlobalConfig where
  generation : GenerationConfig := {}
  output : OutputConfig := {}
deriving DecidableEq, Repr

namespace Coercion

/-- An integer from one on. -/
def positive : Coercion Int := fun v => do
  let i ← int v
  if 1 ≤ i then .ok i else fault .greaterThanEqual

def outputFormat : Coercion OutputFormat
  | .text s => match OutputFormat.ofWord? s with
    | some f => .ok f
    | none => fault .literal
  | _ => fault .literal

/-- A record read off an object. -/
def record {α : Type} (read : Entries → Reading α) : Coercion α
  | .object es => (read es).result
  | _ => fault .modelType

end Coercion

namespace GenerationConfig

def read (es : Entries) : Reading GenerationConfig := do
  let qaMode ← Reading.field es "qa_mode" false .flag
  let backend ← Reading.field es "backend" "python" .text
  let hiddenOverrides ← Reading.field es "hidden_overrides" [] (.list .text)
  let maxSchemaDepth ← Reading.field es "max_schema_depth" 32 .positive
  let strictExtensions ← Reading.field es "strict_extensions" false .flag
  return { qaMode, backend, hiddenOverrides, maxSchemaDepth, strictExtensions }

def coercion : Coercion GenerationConfig := .record read

def toEntries (c : GenerationConfig) : Entries := [
  (.text "qa_mode", .bool c.qaMode), (.text "backend", .text c.backend),
  (.text "hidden_overrides", .texts c.hiddenOverrides),
  (.text "max_schema_depth", .int c.maxSchemaDepth),
  (.text "strict_extensions", .bool c.strictExtensions)]

def toValue (c : GenerationConfig) : Value := .object c.toEntries

end GenerationConfig

namespace OutputConfig

def read (es : Entries) : Reading OutputConfig := do
  let format ← Reading.field es "format" .auto .outputFormat
  let verbose ← Reading.field es "verbose" false .flag
  return { format, verbose }

def coercion : Coercion OutputConfig := .record read

def toValue (c : OutputConfig) : Value :=
  .record [("format", .text c.format.word), ("verbose", .bool c.verbose)]

end OutputConfig

namespace GlobalConfig

def read (es : Entries) : Reading GlobalConfig := do
  let generation ← Reading.field es "generation" {} GenerationConfig.coercion
  let output ← Reading.field es "output" {} OutputConfig.coercion
  return { generation, output }

def coercion : Coercion GlobalConfig := .record read

def toValue (c : GlobalConfig) : Value :=
  .record [("generation", c.generation.toValue), ("output", c.output.toValue)]

end GlobalConfig

/-- A section read on its own; its faults are an error. -/
def validate {α : Type} (kind : RecordKind) (read : Coercion α) (v : Value) : Checked α :=
  (read v).mapError (.invalidRecord kind)

end SdkModel
