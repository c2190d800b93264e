import SdkModel.Resource.Basic

/-!
# Shaping contexts

A resource is shaped inside a context of its own: the resource, the resources and the enums of the
run. Shaping answers a value together with the references to other modules that it met; the
imports of the generated module are read off the references (`ShapingContext.importsOf`), each
module once and in order. A resource never imports itself.
-/

namespace SdkModel

/-- A module that generated code refers to. -/
inductive Import where
  | enums (module : String)
  | filters (module : String)
  | model (module : String)
deriving DecidableEq, Repr

namespace Import

def enumModule? : Import → Option String
  | enums m => some m
  | _ => none

def filterModule? : Import → Option String
  | filters m => some m
  | _ => none

def modelModule? : Import → Option String
  | model m => some m
  | _ => none

end Import

/-- A shaped value with the references that shaping it met, in order. -/
structure Shaped (α : Type) where
  value : α
  references : List Import := []

namespace Shaped

instance : Monad Shaped where
  pure a := ⟨a, []⟩
  bind x f := ⟨(f x.value).value, x.references ++ (f x.value).references⟩

/-- Notes a reference. -/
def refer (i : Import) : Shaped Unit := ⟨(), [i]⟩

/-- Shapes the members of a list one after the other. -/
def each {α β : Type} (xs : List α) (f : α → Shaped β) : Shaped (List β) :=
  ⟨xs.map fun a => (f a).value, xs.flatMap fun a => (f a).references⟩

end Shaped

/-- The modules that a generated module imports, sorted. -/
structure Imports where
  enums : List String
  filters : List String
  models : List String
deriving DecidableEq, Repr

def Imports.toValue (i : Imports) : Value := .record [
  ("enums", .texts i.enums), ("filters", .texts i.filters), ("models", .texts i.models)]

/-- What is known while one resource is shaped. -/
structure ShapingContext where
  resource : Resource
  resources : List Resource := []
  enums : List Enum := []

namespace ShapingContext

variable (c : ShapingContext)

def enumNames : List String := c.enums.map (·.name)

def resource? (name : String) : Option Resource := c.resources.find? (·.name = name)

/-- Nested models live in modules of their own when the resource has dependent attributes. -/
def splitsModels : Bool := c.resource.hasDependentAttributes

/-- A model module that is imported when it is referred to. -/
def importsModel (module : String) : Bool := module ≠ "" && c.resource.id ≠ some module

/-- The imports that references amount to. -/
def importsOf (references : List Import) : Imports :=
  let modules (xs : List String) : List String := sortTexts xs.eraseDups
  { enums := modules (references.filterMap Import.enumModule?)
    filters := modules (references.filterMap Import.filterModule?)
    models := modules ((references.filterMap Import.modelModule?).filter c.importsModel) }

end ShapingContext

end SdkModel
