import SdkModel.Backend.Context
import SdkModel.Backend.Parameter
import SdkModel.Backend.TypeDescriptor
import SdkModel.Spec.EnumSets

/-!
# Backends

A backend turns the model of a document into the structure that a renderer of one target language
consumes. It answers for the types and the names of the language and shapes the inputs of an
action, an enum and a resource; what is common to all languages is built on top of that: which
resources are shaped, in what order, with which enums and imports. The resources that a backend or
the configuration overrides as hidden are never shaped.
-/

namespace SdkModel

structure Backend where
  name : String
  hiddenOverrides : List String
  /-- The casing of class names. -/
  classCase : String → String
  /-- The target type of a schema held under a name. -/
  dataType : Option ShapingContext → Schema → String → Shaped TypeDescriptor
  shapeInputs : ShapingContext → Action → Shaped (List ShapedParameter)
  shapeEnum : Enum → Value
  /-- A shaped resource but for its imports. -/
  shapeBody : ShapingContext → Resource → Shaped Entries
  /-- What is logged while a resource is shaped. -/
  bodyLog : Resource → Log

namespace Backend

variable (b : Backend) (config : GenerationConfig)

/-- The ids of the resources that are never shaped. -/
def hiddenIds : List String := b.hiddenOverrides ++ config.hiddenOverrides

def isOverridden (r : Resource) : Bool := r.id.any (· ∈ b.hiddenIds config)

/-- The resources that are shaped, in sort order. -/
def resources (spec : Spec) : List Resource :=
  sortByOrder Resource.sortOrder (spec.resources.filter (!b.isOverridden config ·))

/-- The records on the resources that an override hides. -/
def resourcesLog (spec : Spec) : Log :=
  (spec.resources.filter (b.isOverridden config ·)).map fun r =>
    ⟨.info, "Resource '" ++ r.id.getD "" ++ "' hidden by override for " ++ b.name⟩

/-- The context in which a resource of a run is shaped. -/
def contextFor (resources : List Resource) (r : Resource) : ShapingContext :=
  { resource := r, resources, enums := r.generatedEnums resources }

/-- One shaped resource of a run, its imports last. -/
def shapeOne (resources : List Resource) (r : Resource) : Value :=
  let context := contextFor resources r
  let shaped := b.shapeBody context r
  .object (shaped.value.put (.text "imports") (context.importsOf shaped.references).toValue)

def shapeOneLog (resources : List Resource) (r : Resource) : Log :=
  r.generatedEnumsLog resources ++ b.bodyLog r

/-- One shaped resource of a document. -/
def shapeResource (spec : Spec) (r : Resource) : Value := b.shapeOne (b.resources config spec) r

def shapeResourceLog (spec : Spec) (r : Resource) : Log :=
  b.resourcesLog config spec ++ b.shapeOneLog (b.resources config spec) r

/-- Every shaped resource of a document, with its version and its global enums. -/
def shape (spec : Spec) : Value :=
  let resources := b.resources config spec
  .record [("backend", .text b.name), ("version", spec.version.toValue),
    ("global_enums", .list ((Enum.dedupe spec.globalEnums).map b.shapeEnum)),
    ("resources", .list (resources.map (b.shapeOne resources)))]

def shapeLog (spec : Spec) : Log :=
  let resources := b.resources config spec
  b.resourcesLog config spec ++
    [⟨.debug, "Shaping " ++ toString resources.length ++ " resources with " ++ b.name⟩] ++
    resources.flatMap (b.shapeOneLog resources)

end Backend

end SdkModel
