import Mathlib.Logic.Basic
import SdkModel.Proofs.Attribute.WithField

/-!
# Redacted schemas

The redaction of a schema keeps of a hidden property that it is hidden, at every depth, and all of
the rest. Most of what is asked of a schema reads its redaction: its kind, whether it is visible,
which attributes are nested in it, its enum. What a visible part holds is redacted itself.
-/

namespace SdkModel

namespace Schema

/-- A hidden schema of which nothing else is known. -/
def hiddenNode : Schema := { extensions := { hiddenFromSdk := true } }

mutual

/-- The schema with nothing left of its hidden properties. -/
def redact : Schema → Schema
  | ⟨type, format, enum, items, properties, required, additional, description, deprecated, ref,
      extensions⟩ =>
    ⟨type, format, enum, redactItems items, redactMap properties, required,
      redactAdditional additional, description, deprecated, ref, extensions⟩

def redactItems : Option Schema → Option Schema
  | none => none
  | some s => some s.redact

def redactMap : Option (List (String × Schema)) → Option (List (String × Schema))
  | none => none
  | some ps => some (redactProperties ps)

def redactProperties : List (String × Schema) → List (String × Schema)
  | [] => []
  | (name, p) :: ps =>
    (name, if p.extensions.hiddenFromSdk then hiddenNode else p.redact) :: redactProperties ps

def redactAdditional : Option (Additional Schema) → Option (Additional Schema)
  | none => none
  | some (.allowed b) => some (.allowed b)
  | some (.shaped s) => some (.shaped s.redact)

end

/-- The redaction of a property. -/
def redactProperty (p : String × Schema) : String × Schema :=
  (p.1, if p.2.extensions.hiddenFromSdk then hiddenNode else p.2.redact)

/-- Properties are redacted one by one. -/
theorem redactProperties_eq (ps : List (String × Schema)) :
    redactProperties ps = ps.map redactProperty := by
  induction ps with
  | nil => rfl
  | cons p ps ih =>
    rw [redactProperties, ih]
    rfl

variable {s t i : Schema} {qa : Bool}

/-- The items of a redacted schema are the redacted items. -/
theorem redact_items (s : Schema) : s.redact.items = s.items.map redact := by
  cases s with
  | mk _ _ _ items => cases items <;> rfl

theorem redact_properties (s : Schema) :
    s.redact.properties = s.properties.map (·.map redactProperty) := by
  cases s with
  | mk _ _ _ _ properties =>
    cases properties with
    | none => rfl
    | some ps => exact congrArg some (redactProperties_eq ps)

@[simp] theorem redact_type (s : Schema) : s.redact.type = s.type := by cases s; rfl
@[simp] theorem redact_format (s : Schema) : s.redact.format = s.format := by cases s; rfl
@[simp] theorem redact_enum (s : Schema) : s.redact.enum = s.enum := by cases s; rfl
@[simp] theorem redact_required (s : Schema) : s.redact.required = s.required := by cases s; rfl
@[simp] theorem redact_extensions (s : Schema) : s.redact.extensions = s.extensions := by
  cases s; rfl

@[simp] theorem isOpenMap_redact (s : Schema) : s.redact.isOpenMap = s.isOpenMap := by
  cases s with
  | mk _ _ _ _ _ _ additional =>
    cases additional with
    | none => rfl
    | some a => cases a <;> rfl

/-! ## The schema and its items -/

/-- What hidden content is left out of is a schema of the same shape. -/
@[simp] theorem shape_redact (s : Schema) : s.redact.shape = s.shape := by
  rw [shape, shape, redact_items, Option.isSome_map, redact_type, redact_format]

@[simp] theorem isArray_redact (s : Schema) : s.redact.isArray = s.isArray := by
  rw [isArray, isArray, shape_redact]

@[simp] theorem isObject_redact (s : Schema) : s.redact.isObject = s.isObject := by
  rw [isObject, isObject, shape_redact]

@[simp] theorem hasEnum_redact (s : Schema) : s.redact.hasEnum = s.hasEnum := by
  rw [hasEnum, hasEnum, redact_enum]

/-- A property map stays one when all that is in it is hidden. -/
@[simp] theorem isSome_properties_redact (s : Schema) :
    s.redact.properties.isSome = s.properties.isSome := by
  rw [redact_properties, Option.isSome_map]

@[simp] theorem requiredNames_redact (s : Schema) : s.redact.requiredNames = s.requiredNames := by
  rw [requiredNames, requiredNames, redact_required]

theorem arrayItems?_redact (s : Schema) : s.redact.arrayItems? = s.arrayItems?.map redact := by
  rw [arrayItems?, arrayItems?, isArray_redact, redact_items]
  split <;> rfl

theorem itemsOrSelf_redact (s : Schema) : s.redact.itemsOrSelf = s.itemsOrSelf.redact := by
  rw [itemsOrSelf, itemsOrSelf, arrayItems?_redact]
  cases s.arrayItems? <;> rfl

/-- What is not read of properties is read of the items as before. -/
theorem any_items_redact {read : Schema → Bool} (h : ∀ i : Schema, read i.redact = read i)
    (s : Schema) : s.redact.items.any read = s.items.any read := by
  rw [redact_items, Option.any_map]
  exact congrArg s.items.any (funext h)

theorem any_arrayItems_redact {read : Schema → Bool} (h : ∀ i : Schema, read i.redact = read i)
    (s : Schema) : s.redact.arrayItems?.any read = s.arrayItems?.any read := by
  rw [arrayItems?_redact, Option.any_map]
  exact congrArg s.arrayItems?.any (funext h)

theorem itemExtensions?_redact (s : Schema) : s.redact.itemExtensions? = s.itemExtensions? := by
  rw [itemExtensions?, itemExtensions?, arrayItems?_redact, Option.map_map]
  exact congrArg (s.arrayItems?.map ·) (funext redact_extensions)

/-- Flags are read of the schema and its items, which keep their extensions. -/
@[simp] theorem hasFlag_redact (s : Schema) (flag : SchemaExtensions → Bool) :
    s.redact.hasFlag flag = s.hasFlag flag := by
  rw [hasFlag, hasFlag, itemExtensions?_redact, redact_extensions]

@[simp] theorem ownOrItemName?_redact (s : Schema) (name : SchemaExtensions → Option String) :
    s.redact.ownOrItemName? name = s.ownOrItemName? name := by
  rw [ownOrItemName?, ownOrItemName?, itemExtensions?_redact, redact_extensions]

@[simp] theorem sortOrder_redact (s : Schema) : s.redact.sortOrder = s.sortOrder := by
  rw [sortOrder, sortOrder, itemExtensions?_redact, redact_extensions]

@[simp] theorem isSubResource_redact (s : Schema) : s.redact.isSubResource = s.isSubResource := by
  induction h : sizeOf s using Nat.strongRecOn generalizing s with
  | ind n ih =>
    rw [isSubResource_eq, isSubResource_eq s, isArray_redact, redact_extensions, redact_items,
      Option.any_map]
    cases hitems : s.items with
    | none => rfl
    | some i =>
      have hi := ih (sizeOf i) (h ▸ sizeOf_items_lt hitems) i rfl
      simp only [Option.any_some, hi]

@[simp] theorem isGlobalReference_redact (s : Schema) :
    s.redact.isGlobalReference = s.isGlobalReference := by
  induction h : sizeOf s using Nat.strongRecOn generalizing s with
  | ind n ih =>
    rw [isGlobalReference_eq, isGlobalReference_eq s, isArray_redact, redact_extensions,
      redact_items, Option.any_map]
    cases hitems : s.items with
    | none => rfl
    | some i =>
      have hi := ih (sizeOf i) (h ▸ sizeOf_items_lt hitems) i rfl
      simp only [Option.any_some, hi]

@[simp] theorem isEnum_redact (s : Schema) : s.redact.isEnum = s.isEnum := by
  rw [isEnum, isEnum, itemsOrSelf_redact, hasEnum_redact]

@[simp] theorem isGlobalEnum_redact (s : Schema) : s.redact.isGlobalEnum = s.isGlobalEnum := by
  rw [isGlobalEnum, isGlobalEnum, itemsOrSelf_redact, redact_extensions]

/-- The kind of an attribute is read of the schema, its items and their flags, so that redaction
does not change it. -/
@[simp] theorem isListOfSubResources_redact (s : Schema) :
    s.redact.isListOfSubResources = s.isListOfSubResources :=
  any_arrayItems_redact (fun i => by simp) s

@[simp] theorem isStructuredSubResource_redact (s : Schema) :
    s.redact.isStructuredSubResource = s.isStructuredSubResource := by
  rw [isStructuredSubResource, isStructuredSubResource, hasFlag_redact, isLeaf, isLeaf,
    itemsOrSelf_redact, shape_redact]

@[simp] theorem isTypedList_redact (s : Schema) : s.redact.isTypedList = s.isTypedList := by
  rw [isTypedList, isTypedList, any_arrayItems_redact (fun i => by rw [redact_type]), redact_type]

@[simp] theorem isListOfEnum_redact (s : Schema) : s.redact.isListOfEnum = s.isListOfEnum := by
  rw [isListOfEnum, isListOfEnum, isTypedList_redact, isStructuredSubResource_redact,
    any_arrayItems_redact fun i => by rw [redact_enum]]

@[simp] theorem isListOfSimpleType_redact (s : Schema) :
    s.redact.isListOfSimpleType = s.isListOfSimpleType := by
  rw [isListOfSimpleType, isListOfSimpleType, isTypedList_redact, isStructuredSubResource_redact,
    isListOfEnum_redact, redact_extensions]

/-! ## Visible parts -/

/-- Redaction hides nothing and shows nothing. -/
@[simp] theorem isHidden_redact (s : Schema) (qa : Bool) :
    s.redact.isHidden qa = s.isHidden qa := by
  rw [isHidden, isHidden, redact_extensions]

/-- A redacted property stays in its place in the list. -/
theorem propertyList_redact (s : Schema) :
    s.redact.propertyList = s.propertyList.map redactProperty := by
  rw [propertyList, propertyList, redact_properties]
  cases s.properties <;> rfl

@[simp] theorem isHidden_redactProperty (p : String × Schema) (qa : Bool) :
    (redactProperty p).2.isHidden qa = p.2.isHidden qa := by
  by_cases h : p.2.extensions.hiddenFromSdk = true <;>
    simp [redactProperty, isHidden, h, hiddenNode]

/-- A property that is not hidden is redacted inside only. -/
theorem redactProperty_of_not_hidden {p : String × Schema} (h : p.2.isHidden false = false) :
    redactProperty p = (p.1, p.2.redact) := by
  rw [isHidden, Bool.not_false, Bool.and_true] at h
  rw [redactProperty, h, if_neg Bool.false_ne_true]

@[simp] theorem isVisible_redact (s : Schema) (qa : Bool) :
    s.redact.isVisible qa = s.isVisible qa := by
  rw [isVisible, isVisible, isHidden_redact, propertyList_redact, List.isEmpty_map, List.any_map,
    any_items_redact fun i => isHidden_redact i qa]
  simp [Function.comp_def]

/-- A visible schema is not hidden. -/
theorem not_isHidden_of_isVisible (h : s.isVisible qa = true) : s.isHidden qa = false := by
  rw [isVisible, Bool.and_eq_true, Bool.and_eq_true, Bool.not_eq_true'] at h
  exact h.1.1

/-- A hidden property shows in no redaction. -/
theorem isVisible_redactProperty (p : String × Schema) :
    (redactProperty p).2.isVisible false = p.2.isVisible false := by
  cases h : p.2.isHidden false with
  | false => rw [redactProperty_of_not_hidden h, isVisible_redact]
  | true =>
    have hredacted := (isHidden_redactProperty p false).trans h
    rw [isVisible, isVisible, h, hredacted]
    rfl

/-- A nested attribute with its schema redacted. -/
def Child.redact (c : Child) : Child := { c with schema := c.schema.redact }

theorem childOwner?_redact (s : Schema) : s.redact.childOwner? = s.childOwner?.map redact := by
  rw [childOwner?, childOwner?, isSome_properties_redact, arrayItems?_redact]
  split
  · rfl
  · cases s.arrayItems? with
    | none => rfl
    | some i =>
      rw [Option.map_some, Option.filter_some, Option.filter_some, isSome_properties_redact]
      split <;> rfl

/-- The children keep their names and whether they are required; their schemas are redacted. -/
theorem children_redact (s : Schema) : s.redact.children = s.children.map fun c =>
    { c with schema := (redactProperty (c.name, c.schema)).2 } := by
  rw [children, children, childOwner?_redact]
  cases s.childOwner? with
  | none => rfl
  | some owner =>
    simp only [Option.map_some, propertyList_redact, List.map_map, requiredNames_redact]
    rfl

/-- The nested attributes that are visible, each redacted. -/
theorem visibleChildren_redact (s : Schema) :
    s.redact.visibleChildren false = (s.visibleChildren false).map Child.redact := by
  rw [visibleChildren, visibleChildren, children_redact, List.filter_map]
  have hfilter : s.children.filter ((fun c : Child => c.schema.isVisible false) ∘ fun c =>
      { c with schema := (redactProperty (c.name, c.schema)).2 }) =
      s.children.filter fun c => c.schema.isVisible false :=
    List.filter_congr fun c _ => isVisible_redactProperty (c.name, c.schema)
  rw [hfilter]
  refine List.map_congr_left fun c hc => ?_
  have hvisible : c.schema.isVisible false = true := (List.mem_filter.1 hc).2
  rw [redactProperty_of_not_hidden (not_isHidden_of_isVisible hvisible)]
  rfl

/-- A filter is told by visible fields, which redaction keeps. -/
@[simp] theorem isFilter_redact (s : Schema) : s.redact.isFilter false = s.isFilter false := by
  induction h : sizeOf s using Nat.strongRecOn generalizing s with
  | ind n ih =>
    rw [Bool.eq_iff_iff, isFilter_iff, isFilter_iff, redact_extensions, visibleChildren_redact]
    simp only [List.mem_map, exists_exists_and_eq_and]
    refine or_congr_right (exists_congr fun c => and_congr_right fun hc => ?_)
    have hlt := sizeOf_child_lt (List.mem_filter.1 hc).1
    rw [Child.redact, ih (sizeOf c.schema) (h ▸ hlt) c.schema rfl]

/-- A redacted schema makes an attribute of the same kind. -/
@[simp] theorem kindOf_redact (name : String) (s : Schema) :
    s.redact.kindOf name false = s.kindOf name false := by
  simp only [kindOf, isFilter_redact, isSubResource_redact, isGlobalReference_redact,
    isListOfSubResources_redact, isStructuredSubResource_redact, isEnum_redact,
    isGlobalEnum_redact, isListOfEnum_redact, isOpenMap_redact, isListOfSimpleType_redact,
    isObject_redact, isSome_properties_redact]

end Schema

end SdkModel
