import SdkModel.Assoc
import SdkModel.Reference.Pointer
import SdkModel.Schema.Basic
import SdkModel.Value.Display

/-!
# Building schema nodes

A node is built after its children: its properties in order, the schema of further properties, its
items. Then the extensions of the node itself are decoded, and last its own fields are read. The
first step that fails decides the error. Nesting deeper than the limit is refused on entering a
node, so the limit shows in no node that is built.
-/

namespace SdkModel

/-- How schemas are built. -/
structure SchemaRules where
  maxDepth : Int := 32
  strict : Bool := false
deriving DecidableEq, Repr

namespace Schema

/-- The type of a node: of a list of types the first other than `null`. -/
def typeOf : Value → Option String
  | .list members => (members.find? fun v => v.text? ≠ some "null").map Value.display
  | .null => none
  | v => some v.display

/-- The names that a node requires; what is no list requires none. -/
def requiredCoercion : Coercion (Option (List String))
  | .list vs => (Coercion.list Coercion.text (.list vs)).map some
  | _ => .ok none

/-- Reads the fields of a node that may be of a wrong type. -/
def readFields (es : Entries) : Reading Schema := do
  let format ← Reading.field es "format" none (.opt .text)
  let required ← Reading.field es "required" none requiredCoercion
  let description ← Reading.field es "description" none (.opt .text)
  let deprecated ← Reading.field es "deprecated" none (.opt .flag)
  let ref ← Reading.fieldUnder es referenceKey "ref" none (.opt .text)
  return { format, required, description, deprecated, ref }

/-- The node itself, its children being built. -/
def assemble (rules : SchemaRules) (place : String) (es : Entries)
    (properties : Option (List (String × Schema))) (additional : Option (Additional Schema))
    (items : Option Schema) : Build Schema := do
  let extensions ← decode SchemaExtensions es place rules.strict
  match (readFields es).result with
  | .error faults => .fail (.invalidRecord .schema faults)
  | .ok fields =>
    let enum := match es.get "enum" with
      | .list vs => some vs
      | _ => none
    return { fields with
      type := typeOf (es.get "type"), enum, items, properties, additional, extensions }

theorem sizeOf_get_lt (es : Entries) (name : String) :
    sizeOf (es.get name) < sizeOf (Value.object es) := by
  unfold Entries.get Entries.get?
  cases h : es.find? fun e => e.1.same (.text name) with
  | none => cases es <;> simp +arith
  | some e =>
    obtain ⟨k, v⟩ := e
    exact Value.sizeOf_lt_of_mem_object (List.mem_of_find?_eq_some h)

theorem sizeOf_of_get {es sub : Entries} {name : String} (h : es.get name = .object sub) :
    sizeOf sub < sizeOf es := by
  have := sizeOf_get_lt es name
  rw [h] at this
  simp only [Value.object.sizeOf_spec] at this
  omega

/-- The depth of a node is within the limit. -/
def checkDepth (rules : SchemaRules) (depth : Nat) (place : String) : Build Unit :=
  if rules.maxDepth < depth then .fail (.depth rules.maxDepth place) else pure ()

mutual

/-- The node of an object at `depth` levels below the root of its schema. Only the limit of the rules
counts: the one on nesting that a run has (`Limit.nesting`) binds the readers of texts and is left
out here. -/
def ofEntries (rules : SchemaRules) (depth : Nat) (place : String) (es : Entries) :
    Build Schema := do
  checkDepth rules depth place
  let properties ← (match _h : es.get "properties" with
    | .object ps => (some ∘ Assoc.ofPairs) <$> ofProperties rules depth place ps
    | _ => pure none)
  let additional ← (match _h : es.get "additionalProperties" with
    | .object sub =>
      (some ∘ Additional.shaped) <$>
        ofEntries rules (depth + 1) (place ++ "/additionalProperties") sub
    | .bool b => pure (some (Additional.allowed b))
    | _ => pure none)
  let items ← (match _h : es.get "items" with
    | .object sub => some <$> ofEntries rules (depth + 1) (place ++ "/items") sub
    | _ => pure none)
  assemble rules place es properties additional items
termination_by sizeOf es
decreasing_by all_goals exact sizeOf_of_get _h

/-- The nodes of a property map; entries that are no objects are left out. -/
def ofProperties (rules : SchemaRules) (depth : Nat) (place : String) (ps : List (Key × Value)) :
    Build (List (String × Schema)) :=
  match ps with
  | [] => return []
  | (k, .object es) :: rest => do
    let node ← ofEntries rules (depth + 1) (place ++ "/properties/" ++ k.display) es
    return (k.display, node) :: (← ofProperties rules depth place rest)
  | _ :: rest => ofProperties rules depth place rest
termination_by sizeOf ps
decreasing_by
  all_goals
    simp only [List.cons.sizeOf_spec, Prod.mk.sizeOf_spec, Value.object.sizeOf_spec]
    omega

end

/-- The schema of a value; none for what is no object. -/
def ofValue? (rules : SchemaRules) (place : String) : Value → Build (Option Schema)
  | .object es => some <$> ofEntries rules 0 place es
  | _ => return none

end Schema

end SdkModel
