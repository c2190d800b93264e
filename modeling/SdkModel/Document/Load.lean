import SdkModel.Failure
import SdkModel.Host.Files
import SdkModel.Json.Reader
import SdkModel.Text.Case
import SdkModel.Yaml.Reader

/-!
# Loading a document

A document comes from a file or, for the source `-`, from standard input, and is an object written
in JSON or YAML. The ending of the file name tells which; without a known ending JSON is tried
first and YAML second. Remote sources are refused, since nothing here uses a network.
-/

namespace SdkModel.Document

/-- The language that the ending of a file name announces. -/
inductive Dialect where
  | json
  | yaml
  | either
deriving DecidableEq, Repr

def dialectOf (path : String) : Dialect :=
  let ending := String.ofList (Text.lowerAll (Path.suffix path).toList)
  if ending = ".json" then .json
  else if ending = ".yaml" ∨ ending = ".yml" then .yaml
  else .either

/-- The entries of a document that was read. -/
def requireObject : Value → Checked Entries
  | .object es => .ok es
  | .null => .error (.document (.notObject "empty document"))
  | v => .error (.document (.notObject v.kindName))

/-- Reads a text as YAML; `error` is why it is no JSON, if that was tried. -/
def parseYaml (text : String) (error : Option Json.SyntaxError) : Checked Entries :=
  match Yaml.read text with
  | .ok v => requireObject v
  | .error .malformed => .error (.document (.unreadable error))
  | .error (.limit l) => .error (.malformed (.limit l))
  | .error fault => .error (.malformed (.yaml fault))

/-- The document that a text holds. -/
def parse (dialect : Dialect) (text : String) : Checked Entries :=
  if dialect = .yaml then parseYaml text none
  else match Json.read text with
    | .ok v => requireObject v
    | .error e => match e.limit? with
      | some l => .error (.malformed (.limit l))
      | none =>
        if dialect = .json then .error (.document (.invalidJson e)) else parseYaml text (some e)

def isRemote (source : String) : Bool :=
  Text.hasStart "http://" source || Text.hasStart "https://" source

/-- The text of a file as it is read. -/
def fileText (text : String) : String := String.ofList (Text.unifyLineEnds text.toList)

/-- Loads the document at `source`. -/
def load (files : Files) (stdin : Content) (source : String) : Checked Entries :=
  if isRemote source then .error (.document (.remote source))
  else if source = "-" then
    match stdin with
    | .bytes _ => .error (.malformed .undecodable)
    | .text text =>
      if Text.isBlankText text then .error (.document .noInput) else parse .either text
  else match files.read? source with
    | none => .error (.document (.notFound source))
    | some (.bytes _) => .error (.malformed .undecodable)
    | some (.text text) =>
      if Text.isBlankText text then .error (.document (.empty source))
      else parse (dialectOf source) (fileText text)

end SdkModel.Document
