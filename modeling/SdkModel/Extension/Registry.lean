import SdkModel.Extension.Info
import SdkModel.Extension.Operation
import SdkModel.Extension.Schema
import SdkModel.Failure

/-!
# The extension registry

The closed catalog of recognised keys. Three records declare them, one per scope; the registry
lists every key with its scope, its default and its description. A key may be declared in several
scopes, and each declaration has an entry of its own.
-/

namespace SdkModel

/-- A record of extensions read off one kind of node. -/
class ExtensionRecord (ρ : Type) where
  scope : ExtensionScope
  kind : RecordKind
  /-- The record of a node without extensions. -/
  blank : ρ
  listing : ρ → List (ExtensionField × Value)
  read : Entries → Reading ρ
  /-- The names of the fields whose key the node carries. -/
  declared : ρ → List String

instance : ExtensionRecord OperationExtensions where
  scope := .operation
  kind := .operationExtensions
  blank := {}
  listing := OperationExtensions.listing
  read := OperationExtensions.read
  declared := OperationExtensions.declared

instance : ExtensionRecord SchemaExtensions where
  scope := .schema
  kind := .schemaExtensions
  blank := {}
  listing := SchemaExtensions.listing
  read := SchemaExtensions.read
  declared := SchemaExtensions.declared

instance : ExtensionRecord InfoExtensions where
  scope := .info
  kind := .infoExtensions
  blank := {}
  listing := InfoExtensions.listing
  read := InfoExtensions.read
  declared := InfoExtensions.declared

/-- One entry of the registry. -/
structure RegistryEntry where
  scope : ExtensionScope
  field : ExtensionField
  default : Value

/-- The entries that one record declares. -/
def recordEntries (ρ : Type) [ExtensionRecord ρ] : List RegistryEntry :=
  (ExtensionRecord.listing (@ExtensionRecord.blank ρ _)).map fun f =>
    ⟨ExtensionRecord.scope ρ, f.1, f.2⟩

/-- The keys that one record declares. -/
def recordKeys (ρ : Type) [ExtensionRecord ρ] : List String :=
  (recordEntries ρ).map (·.field.key)

/-- Every recognised key, in declaration order. -/
def registry : List RegistryEntry :=
  recordEntries OperationExtensions ++ recordEntries SchemaExtensions ++
    recordEntries InfoExtensions

/-- A key that some record declares. -/
def isRegistered (key : String) : Bool := registry.any (·.field.key = key)

/-- The documented default of a key in a scope. -/
def defaultFor (key : String) (scope : ExtensionScope) : Checked Value :=
  match registry.find? fun e => e.scope = scope && e.field.key = key with
  | some e => .ok e.default
  | none => .error (.malformed .unregisteredKey)

end SdkModel
