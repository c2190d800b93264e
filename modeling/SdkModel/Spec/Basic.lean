import SdkModel.Config.Basic
import SdkModel.Document.Format
import SdkModel.Reference.Resolve
import SdkModel.Resource.ErrorResource

/-!
# The model of a document

`Spec.build` checks and resolves a loaded document, makes every component schema, builds every
operation into an action and groups the actions by the resource that they belong to. All that can
be wrong with a document is found there; the views of a spec only read.
-/

namespace SdkModel

structure Spec where
  document : Entries
  config : GenerationConfig
  version : Version
  schemas : List (String × Schema)
  /-- The actions of each resource id, in the order of the document. -/
  actions : List (String × List Action)

namespace Spec

def rulesOf (config : GenerationConfig) : BuildRules :=
  { qa := config.qaMode
    schemas := { maxDepth := config.maxSchemaDepth, strict := config.strictExtensions } }

/-- The nodes of the component schemas; entries that are no objects are left out. -/
def schemasOf (rules : SchemaRules) : Entries → Build (List (String × Schema))
  | [] => return []
  | (k, .object es) :: rest => do
    let node ← Schema.ofEntries rules 0 ("#/components/schemas/" ++ k.display) es
    return (k.display, node) :: (← schemasOf rules rest)
  | _ :: rest => schemasOf rules rest

def buildSchemas (rules : SchemaRules) (document : Entries) :
    Build (List (String × Schema)) := do
  let components ← (document.get "components").optionalEntries
  let schemas ← (components.get "schemas").optionalEntries
  return Assoc.ofPairs (← schemasOf rules schemas)

/-- The operations of a path item: `GET` before `POST`. -/
def operationsOf (item : Entries) : List (HttpMethod × Entries) :=
  [HttpMethod.get, HttpMethod.post].filterMap fun m =>
    (item.get m.key).entries?.map fun es => (m, es)

/-- The operations of all paths, in document order. -/
def operations (paths : Entries) : List (String × HttpMethod × Entries) :=
  paths.flatMap fun p =>
    ((p.2.entries?.map operationsOf).getD []).map fun o => (p.1.display, o)

/-- Builds the operations one after the other. Those without a resource id are dropped. -/
def actionsOf (rules : BuildRules) :
    List (String × HttpMethod × Entries) → Build (List (String × Action))
  | [] => return []
  | (url, method, operation) :: rest => do
    let action ← Action.ofOperation rules method url operation
    match action.resourceId? with
    | none =>
      .write .debug ("Operation " ++ method.word ++ " " ++ url ++ " has no resource id (dropped)")
      actionsOf rules rest
    | some id => return (id, action) :: (← actionsOf rules rest)

/-- Actions in groups of one resource id each, in the order of their first occurrence. -/
def groupActions (pairs : List (String × Action)) : List (String × List Action) :=
  pairs.foldl (fun groups p => Assoc.addTo groups p.1 p.2) []

def buildActions (rules : BuildRules) (document : Entries) :
    Build (List (String × List Action)) := do
  let paths ← (document.get "paths").optionalEntries
  return groupActions (← actionsOf rules (operations paths))

/-- The model of a document whose references are inlined. -/
def ofResolved (config : GenerationConfig) (document : Entries) : Build Spec := do
  let rules := rulesOf config
  let version ← Version.resolve (document.get "info") config.strictExtensions
  let schemas ← buildSchemas rules.schemas document
  let actions ← buildActions rules document
  return { document, config, version, schemas, actions }

/-- The model of a loaded document. -/
def build (config : GenerationConfig) (document : Entries) : Build Spec := do
  let _ ← (Document.formatVersion document).mapError Failure.document
  let resolved ← Reference.resolve (.object document)
  let entries ← resolved.requireEntries
  ofResolved config entries

variable (spec : Spec)

def qa : Bool := spec.config.qaMode

/-- The actions grouped under a resource id; hidden ones included. -/
def actionsUnder (id : String) : List Action := (spec.actions.lookup id).getD []

def resourceOf (name : String) (schema : Schema) : Resource :=
  .make name schema spec.qa (spec.actionsUnder (schema.extensions.resourceId.getD ""))

/-- The schemas that carry a resource id, with it. -/
def carriers : List (String × String × Schema) :=
  spec.schemas.filterMap fun p => p.2.extensions.resourceId.map fun id => (id, p)

/-- The carriers that are the first of their id, and the later ones with the first of theirs. -/
def firstCarriers (owners : List (String × String)) :
    List (String × String × Schema) →
      List (String × String × Schema) × List (String × String × String)
  | [] => ([], [])
  | (id, name, schema) :: rest =>
    match owners.lookup id with
    | some owner =>
      let (kept, dropped) := firstCarriers owners rest
      (kept, (name, id, owner) :: dropped)
    | none =>
      let (kept, dropped) := firstCarriers ((id, name) :: owners) rest
      ((id, name, schema) :: kept, dropped)

/-- The resources, the first schema of each id, in document order. -/
def ownedResources : List Resource :=
  (firstCarriers [] spec.carriers).1.map fun c => spec.resourceOf c.2.1 c.2.2

/-- The warnings on schemas that reuse a resource id. -/
def reuseLog : Log :=
  (firstCarriers [] spec.carriers).2.map fun d =>
    ⟨.warning, "Schema " ++ d.1 ++ " reuses resource id '" ++ d.2.1 ++ "' of " ++ d.2.2 ++
      " (ignored)"⟩

/-- Every resource except third-party ones, by name. -/
def allResources : List Resource :=
  sortByName Resource.name (spec.ownedResources.filter (!·.isThirdParty))

/-- The resources that are neither hidden nor third-party, by name. -/
def resources : List Resource := spec.allResources.filter (!·.isHidden)

/-- The resources without a catalog tag or with that of the document. -/
def catalogResources : List Resource :=
  spec.resources.filter fun r => r.catalogVersion?.all (· = spec.version.catalog)

/-- A resource by name or id, hidden ones included. -/
def resource? (nameOrId : String) : Option Resource :=
  spec.allResources.find? fun r => r.name = nameOrId || r.id = some nameOrId

/-- The component schemas that are plain string enums. -/
def globalEnums : List Enum :=
  (spec.schemas.filter fun p => p.2.shape = .string && p.2.enum.isSome).map fun p => ⟨p.1, p.2⟩

/-- A name that is a number in the digits of any script. -/
def isNumeric (name : String) : Bool :=
  !name.isEmpty && name.toList.all Text.isDecimalDigit

/-- The component schemas that describe errors, by name. -/
def errorResources : List ErrorResource :=
  sortByName ErrorResource.name <|
    (spec.schemas.filter fun p =>
      p.2.isError && p.1 ∉ commonErrorFields && !isNumeric p.1).map fun p => ⟨p.1, p.2, spec.qa⟩

/-- The component schemas with `Event` in their name, by name, neither hidden nor third-party. -/
def eventResources : List Resource :=
  let events := (spec.schemas.filter fun p => Text.occurs "Event".toList p.1.toList).map fun p =>
    spec.resourceOf p.1 p.2
  sortByName Resource.name (events.filter fun r => !r.isHidden && !r.isThirdParty)

end Spec

end SdkModel
