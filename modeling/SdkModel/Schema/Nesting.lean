import SdkModel.Schema.Basic

/-!
# What a schema holds

The questions that are asked of a schema and what it holds: what is visible, which attributes are
nested in it, and which traits it takes over from its items or its children. A schema flagged
hidden is hidden unless hidden nodes are exposed (`qa`).
-/

namespace SdkModel.Schema

def leafShapes : List Shape := [.string, .dateTime, .integer, .number, .boolean]

/-- A plain value, or an array of plain values. -/
def isLeaf (s : Schema) : Bool := s.itemsOrSelf.shape ∈ leafShapes

def isHidden (s : Schema) (qa : Bool) : Bool := s.extensions.hiddenFromSdk && !qa

/-- The one rule of visibility: the schema is not hidden, it has a visible property if it has any,
and its items are not hidden. -/
def isVisible (s : Schema) (qa : Bool) : Bool :=
  !s.isHidden qa &&
    (s.propertyList.isEmpty || s.propertyList.any (!·.2.isHidden qa)) &&
    !s.items.any (·.isHidden qa)

theorem isHidden_of_qa (s : Schema) : s.isHidden true = false := by
  rw [isHidden, Bool.not_true, Bool.and_false]

theorem isVisible_of_qa (s : Schema) : s.isVisible true = true := by
  rw [isVisible]
  cases s.propertyList <;> simp [isHidden_of_qa]

/-- The sub-resource flag of a schema, of its items for an array. -/
def isSubResource (s : Schema) : Bool :=
  if s.isArray then
    match _h : s.items with
    | some i => i.isSubResource
    | none => false
  else s.extensions.isSubResource
termination_by sizeOf s
decreasing_by exact sizeOf_items_lt _h

/-- The flag of a reference to a resource generated elsewhere, of its items for an array. -/
def isGlobalReference (s : Schema) : Bool :=
  if s.isArray then
    match _h : s.items with
    | some i => i.isGlobalReference
    | none => false
  else s.extensions.isGlobalResourceReference
termination_by sizeOf s
decreasing_by exact sizeOf_items_lt _h

/-- An attribute nested in a schema. -/
structure Child where
  name : String
  schema : Schema
  isRequired : Bool

/-- The schema whose properties are the nested attributes: the schema itself when it has a property
map, and the items of an array otherwise. -/
def childOwner? (s : Schema) : Option Schema :=
  if s.properties.isSome then some s
  else s.arrayItems?.filter (·.properties.isSome)

/-- The nested attributes in declaration order. -/
def children (s : Schema) : List Child :=
  match s.childOwner? with
  | none => []
  | some owner => owner.propertyList.map fun p => ⟨p.1, p.2, p.1 ∈ owner.requiredNames⟩

theorem sizeOf_child_lt {s : Schema} {c : Child} (h : c ∈ s.children) :
    sizeOf c.schema < sizeOf s := by
  unfold children childOwner? at h
  split at h
  · cases h
  · rename_i owner howner
    obtain ⟨p, hp, rfl⟩ := List.mem_map.1 h
    have hlt := sizeOf_property_lt (n := p.1) hp
    split at howner
    · cases howner
      exact hlt
    · have := sizeOf_arrayItems_lt (Option.filter_eq_some_iff.1 howner).1
      exact Nat.lt_trans hlt this

/-- The visible nested attributes. -/
def visibleChildren (s : Schema) (qa : Bool) : List Child :=
  s.children.filter (·.schema.isVisible qa)

/-- A filter by its own flags, or because something visible in it is one. -/
def isFilter (s : Schema) (qa : Bool) : Bool :=
  s.extensions.isFilterParameter || s.extensions.sdkFilterName.any (· ≠ "") ||
    s.children.attach.any fun c => c.1.schema.isVisible qa && c.1.schema.isFilter qa
termination_by sizeOf s
decreasing_by exact sizeOf_child_lt c.2

end SdkModel.Schema
