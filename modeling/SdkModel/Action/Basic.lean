import SdkModel.Action.Parameter
import SdkModel.Action.Response
import SdkModel.Action.Traits
import SdkModel.Action.Url
import SdkModel.Schema.Build
import SdkModel.Text.Case

/-!
# Actions

One operation of a document. An action is built from an operation whose references are inlined;
building it checks the contract that every operation has to meet, that it carries extensions and a
method name among them, and makes every schema that the action reads. Actions have one of two
methods: `GET` with query parameters, or `POST` with a request body.
-/

namespace SdkModel

inductive HttpMethod where
  | get
  | post
deriving DecidableEq, Repr

namespace HttpMethod

def word : HttpMethod → String
  | get => "GET"
  | post => "POST"

/-- The key of an operation in its path item. -/
def key : HttpMethod → String
  | get => "get"
  | post => "post"

def ofWord? (s : String) : Option HttpMethod := [get, post].find? (·.word = s)

end HttpMethod

/-- Where a parameter travels. -/
inductive ParameterPlace where
  | path
  | query
  | elsewhere
deriving DecidableEq, Repr

def ParameterPlace.ofValue (v : Value) : ParameterPlace :=
  let word := String.ofList (Text.lowerAll v.display.toList)
  if word = "path" then .path else if word = "query" then .query else .elsewhere

/-- How a model is built. -/
structure BuildRules where
  qa : Bool := false
  schemas : SchemaRules := {}
deriving DecidableEq, Repr

structure Action where
  id : Value
  method : HttpMethod
  url : String
  name : String
  description : Value
  deprecated : Bool
  qa : Bool
  extensions : OperationExtensions
  body : Option Schema
  success : Option Schema
  parameters : List (ParameterPlace × Parameter)

namespace Action

def formType : String := "application/x-www-form-urlencoded"

def jsonType : String := "application/json"

/-- The place of an operation in its document. -/
def place (method : HttpMethod) (url : String) : String := "#/paths/" ++ url ++ "/" ++ method.key

/-- The operation id as a contract error gives it; one that is no text cannot be given. -/
def idText (id : Value) : Checked (Option String) :=
  if id.isTelling then
    match id with
    | .text s => .ok (some s)
    | _ => .error (.malformed .notText)
  else .ok none

/-- The error on an operation that lacks a part of its contract. -/
def contractError {α : Type} (gap : ContractGap) (url : String) (id : Value) : Build α := do
  let id ← idText id
  .fail (.contract gap url id)

/-- A schema of an operation. -/
def schemaAt (rules : BuildRules) (here : String) (v : Value) : Build (Option Schema) :=
  Schema.ofValue? rules.schemas here v

/-- The schema of a request body: of its form content, or else of its JSON content. -/
def bodySchema (rules : BuildRules) (here : String) (body : Value) : Build (Option Schema) := do
  let some body := body.entries? | return none
  let content ← (body.get "content").optionalEntries
  match [formType, jsonType].findSome? fun t => (content.get t).entries?.map fun es => (t, es) with
  | some (t, media) => schemaAt rules (here ++ "/requestBody/content/" ++ t) (media.get "schema")
  | none => return none

/-- The declared success response, under `200` as text or as a number. -/
def successResponse (responses : Entries) : Value :=
  let ok := responses.get "200"
  if ok.isTelling then ok else (responses.get? (.int 200)).getD .null

/-- The schema of the JSON content of the success response. -/
def successSchema (rules : BuildRules) (here : String) (responses : Value) :
    Build (Option Schema) := do
  let some responses := responses.entries? | return none
  let some ok := (successResponse responses).entries? | return none
  let content ← (ok.get "content").optionalEntries
  let some media := (content.get jsonType).entries? | return none
  schemaAt rules (here ++ "/responses/200") (media.get "schema")

/-- The name of a declared parameter; one that is left out is empty. -/
def nameText (es : Entries) (name : String) : String :=
  ((es.get? (.text name)).map Value.display).getD ""

/-- One declared parameter. Path parameters are always required. -/
def parameter (rules : BuildRules) (here : String) (es : Entries) :
    Build (ParameterPlace × Parameter) := do
  let schema ← schemaAt rules (here ++ "/schema") (es.get "schema")
  let extensions ← decode SchemaExtensions es here rules.schemas.strict
  let location := ParameterPlace.ofValue ((es.get? (.text "in")).getD (.text ""))
  return (location, {
    name := nameText es "name"
    schema := schema.getD {}
    isRequired := location = .path || (es.get "required").isTelling
    qa := rules.qa
    extensions })

/-- The declared parameters in order; `index` counts them. -/
def parametersFrom (rules : BuildRules) (here : String) (index : Nat) :
    List Entries → Build (List (ParameterPlace × Parameter))
  | [] => return []
  | es :: rest => do
    let p ← parameter rules (here ++ "/parameters/" ++ toString index) es
    return p :: (← parametersFrom rules here (index + 1) rest)

/-- The action of an operation. -/
def ofOperation (rules : BuildRules) (method : HttpMethod) (url : String) (operation : Entries) :
    Build Action := do
  let id := operation.get "operationId"
  let here := place method url
  if (vendorEntries operation).isEmpty then contractError .extensions url id
  let extensions ← decode OperationExtensions operation here rules.schemas.strict
  let name ← match extensions.methodName.filter (· ≠ "") with
    | some name => pure name
    | none => contractError .methodName url id
  let description := operation.get "description"
  let declared ← (operation.get "parameters").parts
  let body ← bodySchema rules here (operation.get "requestBody")
  let success ← successSchema rules here (operation.get "responses")
  let parameters ← parametersFrom rules here 0 (declared.filterMap Value.entries?)
  return {
    id, method, url, name, extensions, body, success, parameters
    description := if description.isTelling then description else .text ""
    deprecated := (operation.get "deprecated").isTelling
    qa := rules.qa }

/-! ## Traits -/

def traits (a : Action) : ActionTraits := a.extensions.classify a.deprecated a.qa

def sortOrder (a : Action) : Int := a.extensions.sortOrder

def resourceId? (a : Action) : Option String := a.extensions.resourceId

def isList (a : Action) : Bool := a.extensions.isList

def isHidden (a : Action) : Bool := a.extensions.isHidden a.qa

def isExcluded (a : Action) : Bool := a.extensions.isExcluded a.qa

def batchId (a : Action) : String := a.extensions.batchPathId.getD ""

def modelName (a : Action) : String := a.extensions.modelName.getD ""

/-- The options of a request: whether it is idempotent, when the operation says so. -/
def options (a : Action) : List (String × Bool) :=
  if "is_idempotent" ∈ a.extensions.declared then [("isIdempotent", a.extensions.isIdempotent)]
  else []

def supportsCustomFields (a : Action) : Bool :=
  match a.method with
  | .get => a.extensions.isCustomFieldsSupported
  | .post => a.body.any (·.extensions.isCustomFieldsSupported)

def supportsAdditionalProperties (a : Action) : Bool := a.body.any (·.isOpenMap)

def urlParts (a : Action) : UrlParts := .ofUrl a.url

/-! ## Parameters -/

def declaredParameters (a : Action) : List Parameter := a.parameters.map (·.2)

def pathParameters (a : Action) : List Parameter :=
  (a.parameters.filter (·.1 = .path)).map (·.2)

/-- The query parameters of a `GET` action in declaration order. -/
def declaredQuery (a : Action) : List Parameter :=
  if a.method = .get then (a.parameters.filter (·.1 = .query)).map (·.2) else []

/-- The query parameters of a `GET` action, in sort order. -/
def queryParameters (a : Action) : List Parameter :=
  sortByOrder Parameter.sortOrder a.declaredQuery

/-- The body of a `POST` action when it is an object with properties. -/
def objectBody? (a : Action) : Option Schema :=
  if a.method = .post then
    a.body.filter fun s => !s.propertyList.isEmpty && s.type = some "object"
  else none

/-- The fields of an object body. A field is required when the body says so or when its own schema
states what it requires. -/
def bodyFields (qa : Bool) (s : Schema) : List Parameter :=
  s.propertyList.map fun p =>
    { name := p.1, schema := p.2, isRequired := p.1 ∈ s.requiredNames || p.2.required.isSome, qa }

/-- The body fields of a `POST` action in declaration order. -/
def declaredBody (a : Action) : List Parameter :=
  match a.objectBody? with
  | some s => bodyFields a.qa s
  | none => []

/-- The body fields of a `POST` action, in sort order. -/
def bodyParameters (a : Action) : List Parameter :=
  sortByOrder Parameter.sortOrder a.declaredBody

def visibleBodyParameters (a : Action) : List Parameter := a.bodyParameters.filter (!·.isHidden)

def visibleQueryParameters (a : Action) : List Parameter := a.queryParameters.filter (!·.isHidden)

def hasBodyOrQueryParameters (a : Action) : Bool :=
  !a.queryParameters.isEmpty || !a.bodyParameters.isEmpty

/-- Nothing is required, inside a parameter either. -/
def allOptional (ps : List Parameter) : Bool := !ps.any fun p => p.isRequired || p.hasRequiredField

def allBodyOptional (a : Action) : Bool := allOptional a.bodyParameters

def allQueryOptional (a : Action) : Bool := allOptional a.queryParameters

/-- A filter is sent in the body. -/
def hasFilterInBody (a : Action) : Bool :=
  a.bodyParameters.any fun p => p.isFilter || p.asAttribute.nested.any (·.isFilter)

/-- A declared parameter remains in generated code. -/
def hasInputs (a : Action) : Bool := a.declaredParameters.any (·.isDeclaredVisible)

/-- A declared parameter remains in generated code or is an early one. -/
def hasEarlyInputs (a : Action) : Bool :=
  a.declaredParameters.any fun p => p.extensions.isEap || p.isDeclaredVisible

def response (a : Action) : Response := ⟨a.name, a.success, a.isList⟩

end Action

end SdkModel
