import SdkModel.Config.Basic
import SdkModel.Host.Environment
import SdkModel.Json.Printer
import SdkModel.Text.Blank
import SdkModel.Text.Case

/-!
# Resolving the configuration

A setting of generation is taken from the first source that has it: the command line, an
environment variable, the project configuration, the user configuration. What no source has is at
its default. Every source is read, also one whose values are not needed, so a faulty source is an
error in any case.

The settings of output come from the user configuration and the command line alone.
-/

namespace SdkModel.Config

def qaVariable : String := "SDKGEN_QA_MODE"

def backendVariable : String := "SDKGEN_BACKEND"

/-- The value that a file spells. -/
def parsed : Content → Except Json.SyntaxError Value
  | .text text => Json.read (String.ofList (Text.unifyLineEnds text.toList))
  | .bytes fault => .error (.ofBytes fault)

/-- The value of a configuration file. -/
def readJson (label path : String) (content : Content) : Checked Value :=
  match parsed content with
  | .ok v => .ok v
  | .error e =>
    if e.limit? = some .nesting then .error (.malformed (.limit .nesting))
    else .error (.config (.invalidJson label path e))

/-- The user configuration; the default one where there is no file. -/
def user (h : Host) : Checked GlobalConfig :=
  match h.files.read? h.userConfigPath with
  | none => .ok {}
  | some content => do
    let v ← readJson "global config" h.userConfigPath content
    (GlobalConfig.coercion v).mapError fun faults =>
      .config (.invalidUserConfig h.userConfigPath faults)

/-- The project configuration, if there is one. -/
def project? (h : Host) : Checked (Option Entries) :=
  match h.files.read? Host.projectConfigPath with
  | none => .ok none
  | some content => do
    match ← readJson "project config" Host.projectConfigPath content with
    | .object es => return some es
    | _ => .error (.config (.projectNotObject Host.projectConfigPath))

/-- The section on generation of a project configuration. -/
def generationSection (project : Option Entries) : Checked Entries :=
  match project.bind (·.get? (.text "generation")) with
  | none => .ok []
  | some (.object es) => .ok es
  | some _ => .error (.config .sectionNotObject)

def trueWords : List String := ["1", "true", "yes", "on"]

def falseWords : List String := ["0", "false", "no", "off", ""]

/-- The truth value of an environment variable, if it is set. -/
def envFlag (h : Host) (name : String) : Checked (Option Bool) :=
  match h.env? name with
  | none => .ok none
  | some raw =>
    let word := String.ofList (Text.lowerAll (Text.trim raw).toList)
    if word ∈ trueWords then .ok (some true)
    else if word ∈ falseWords then .ok (some false)
    else .error (.config (.notBoolean name raw))

/-- The settings that the command line gives; null where it gives none. -/
structure GenerationFlags where
  qaMode : Value := .null
  backend : Value := .null

/-- The entry of a setting that a source has. -/
def entryOf (name : String) (v : Value) : Entries :=
  match v with
  | .null => []
  | v => [(.text name, v)]

def GenerationFlags.entries (f : GenerationFlags) : Entries :=
  entryOf "qa_mode" f.qaMode ++ entryOf "backend" f.backend

/-- The settings that the environment gives. -/
def envEntries (h : Host) : Checked Entries := do
  let qa ← envFlag h qaVariable
  return entryOf "qa_mode" ((qa.map Value.bool).getD .null) ++
    entryOf "backend" (.optText (h.telling? backendVariable))

/-- The settings of a generation run. -/
def generation (h : Host) (flags : GenerationFlags) : Checked GenerationConfig := do
  let user ← user h
  let project ← project? h
  let projectEntries ← generationSection project
  let fromEnv ← envEntries h
  let merged := [projectEntries, fromEnv, flags.entries].foldl Entries.overlay
    user.generation.toEntries
  (GenerationConfig.coercion (.object merged)).mapError fun faults =>
    .config (.invalidGeneration faults)

/-- How output is asked for; the format is a word that is looked up later. -/
structure OutputChoice where
  format : String
  verbose : Bool

def OutputChoice.toValue (c : OutputChoice) : Value :=
  .record [("format", .text c.format), ("verbose", .bool c.verbose)]

/-- The settings of output; the command line can only switch verbosity on. -/
def output (h : Host) (format : Option String) (verbose : Bool) : Checked OutputChoice := do
  let config := (← user h).output
  return { format := format.getD config.format.word, verbose := config.verbose || verbose }

/-- The host with a user configuration written. -/
def saveUser (h : Host) (config : GlobalConfig) : Host :=
  { h with files := h.files.write h.userConfigPath (Json.stored config.toValue ++ "\n") }

end SdkModel.Config
