import SdkModel.Extension.Registry
import SdkModel.Output.Basic
import SdkModel.Spec.EnumSets

/-!
# Listings

The tables that a document is inspected by.
-/

namespace SdkModel.CommandLine

def commaList (texts : List String) : String := ", ".intercalate texts

/-- A dash stands for an empty cell. -/
def orDash (text : String) : String := if text = "" then "-" else text

def yesOrEmpty (b : Bool) : String := if b then "Yes" else ""

/-- The resources of a document in sort order. -/
def listedResources (spec : Spec) : List Resource :=
  sortByOrder Resource.sortOrder spec.resources

def resourceRow (r : Resource) : List String :=
  [r.name, orDash (r.id.getD ""), toString r.sortOrder, toString r.sortedActions.length,
    orDash (commaList (r.sortedSubResources.map (·.name)))]

def resourceTable (spec : Spec) : Table :=
  { headers := ["Resource", "Id", "Sort", "Actions", "Sub-resources"]
    rows := (listedResources spec).map resourceRow }

def actionRow (r : Resource) (a : Action) : List String :=
  [r.name, a.name, a.method.word, a.url, yesOrEmpty a.isList, yesOrEmpty a.deprecated]

/-- The actions of resources in generated code. -/
def actionTable (resources : List Resource) : Table :=
  { headers := ["Resource", "Action", "Method", "Path", "List", "Deprecated"]
    rows := resources.flatMap fun r => r.sortedActions.map (actionRow r) }

def enumRow (e : Enum) : List String :=
  [e.name, commaList e.validValues, orDash (commaList e.deprecatedValues)]

def enumTable (enums : List Enum) : Table :=
  { headers := ["Enum", "Values", "Deprecated"], rows := enums.map enumRow }

/-- The extension keys by scope and key. -/
def sortedRegistry : List RegistryEntry :=
  sortByName (fun e => e.scope.word) (sortByName (fun e => e.field.key) registry)

def extensionRow (e : RegistryEntry) : List String :=
  [e.field.key, e.scope.word, e.default.displayQuoted, orDash e.field.description]

def extensionTable : Table :=
  { headers := ["Key", "Scope", "Default", "Description"], rows := sortedRegistry.map extensionRow }

end SdkModel.CommandLine
