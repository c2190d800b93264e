import SdkModel.Backend.Registry
import SdkModel.Typed.Resource

/-!
# The reference backend

The backend of typed models. It is built in, and further backends may take it over with a name, a
casing and overrides of their own.
-/

namespace SdkModel.Typed

/-- The backend of typed models under a name. -/
def backendOf (name : String) (classCase : String → String) (hiddenOverrides : List String) :
    Backend where
  name := name
  hiddenOverrides := hiddenOverrides
  classCase := classCase
  dataType context := dataType classCase (context.any (·.splitsModels))
  shapeInputs := shapeInputs classCase
  shapeEnum e := (enumClassOf classCase e).toValue
  shapeBody context r := do return (← resourceShape classCase context r).entries
  bodyLog r := ⟨.debug, "Shaping resource " ++ r.name⟩ :: r.subResourceLog

/-- The reference backend. -/
def backend : Backend :=
  backendOf "python" camelCase ["media", "business_entity_change", "non_subscription"]

/-- The registry that a run begins with. -/
def registry : BackendRegistry Backend := ⟨[(backend.name, backend)], false⟩

end SdkModel.Typed
