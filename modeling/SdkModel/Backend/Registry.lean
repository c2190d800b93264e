import SdkModel.Backend.Basic

/-!
# The backend registry

Backends are found by name. A registry begins with the built-in one; further ones are registered by
hand or discovered among the plugins that are installed in the group of this program. Discovery
happens once, when a name is looked up that is not there, and replaces nothing that is registered.
A plugin that cannot be loaded, or that is no backend, is passed over with a warning.
-/

namespace SdkModel

/-- The group that backends are installed in. -/
def pluginGroup : String := "sdkgen.backends"

/-- What loading a plugin yields. -/
inductive PluginContent (β : Type) where
  | backend (b : β)
  | foreign
  | broken (reason : String)

/-- An installed plugin. -/
structure Plugin (β : Type) where
  name : String
  group : String
  content : PluginContent β

/-- The backends by name. -/
structure BackendRegistry (β : Type) where
  entries : List (String × β)
  discovered : Bool := false

namespace BackendRegistry

variable {β : Type} (registry : BackendRegistry β) (plugins : List (Plugin β))

/-- The outcome of a discovery. -/
structure Discovery (β : Type) where
  entries : List (String × β)
  loaded : List String
  log : Log

/-- Takes one plugin in. -/
def Discovery.take (d : Discovery β) (p : Plugin β) : Discovery β :=
  if p.group ≠ pluginGroup || Assoc.has d.entries p.name then d
  else match p.content with
    | .backend b =>
      { d with entries := d.entries ++ [(p.name, b)], loaded := d.loaded ++ [p.name] }
    | .foreign =>
      { d with log := d.log ++ [⟨.warning, "Entry point '" ++ p.name ++
          "' is not a Backend subclass, skipping"⟩] }
    | .broken reason =>
      { d with log := d.log ++ [⟨.warning, "Failed to load backend '" ++ p.name ++ "': " ++
          reason⟩] }

def discovery : Discovery β := plugins.foldl Discovery.take ⟨registry.entries, [], []⟩

/-- The registry with every backend among the plugins, and the names that were added. -/
def discover : Build (BackendRegistry β × List String) :=
  let d := registry.discovery plugins
  ⟨d.log, .ok (⟨d.entries, true⟩, d.loaded)⟩

/-- The registry after the one discovery that a look-up makes. -/
def discoverOnce : Build (BackendRegistry β) :=
  if registry.discovered then return registry else do return (← registry.discover plugins).1

/-- The registry with a backend under a name, in place of the one that had it. -/
def register (name : String) (b : β) : Build (BackendRegistry β) := do
  .write .debug ("Registered backend '" ++ name ++ "'")
  return { registry with entries := Assoc.put registry.entries name b }

def sortedNames : List String := sortTexts (Assoc.names registry.entries)

/-- The names of all backends, sorted. -/
def names : Build (BackendRegistry β × List String) := do
  let found ← registry.discoverOnce plugins
  return (found, found.sortedNames)

/-- The registry in which a name is looked up: discovery is made only for a name that is not
registered. -/
def lookupTable (name : String) : Build (BackendRegistry β) :=
  if Assoc.has registry.entries name then return registry else registry.discoverOnce plugins

/-- The backend of a name. -/
def get (name : String) : Checked β :=
  match registry.entries.lookup name with
  | some b => .ok b
  | none => .error (.unknownBackend name registry.sortedNames)

end BackendRegistry

end SdkModel
