import SdkModel.Proofs.Schema.Build
import SdkModel.Proofs.Schema.Redaction
import SdkModel.Proofs.Value.Entries

/-!
# Schemas built from redacted nodes

The redaction of a schema node of a document keeps of a property that is flagged hidden nothing but
the flag. Nodes of one redaction are built into schemas of one redaction
(`redact_eq_of_ofEntries`): building a node reads the hidden flag of a property as it is decoded,
and of the node itself no entry that redaction changes but for its children.
-/

namespace SdkModel

def hiddenKey : String := "x-cb-hidden-from-client-sdk"

namespace Value

/-- An object whose hidden flag reads as true. -/
def isHiddenNode : Value → Bool
  | .object es => (Reading.field es hiddenKey false Coercion.flag).value
  | _ => false

/-- A hidden node of which nothing else is known. -/
def hiddenNode : Value := .object [(.text hiddenKey, .bool true)]

end Value

mutual

/-- A schema node with nothing left of its hidden properties. -/
def Value.redactNode : Value → Value
  | .object es => .object (redactEntries es)
  | v => v

def Value.redactMap : Value → Value
  | .object ps => .object (redactNamed ps)
  | v => v

def redactEntries : List (Key × Value) → List (Key × Value)
  | [] => []
  | (k, v) :: es =>
    (k, if k.same (.text "properties") then v.redactMap
      else if k.same (.text "items") || k.same (.text "additionalProperties") then v.redactNode
      else v) :: redactEntries es

def redactNamed : List (Key × Value) → List (Key × Value)
  | [] => []
  | (k, v) :: ps =>
    (k, if v.isHiddenNode then Value.hiddenNode else v.redactNode) :: redactNamed ps

end

/-- What becomes of the value under a key of a node. -/
def Value.redactUnder (name : String) (v : Value) : Value :=
  if name = "properties" then v.redactMap
  else if name = "items" ∨ name = "additionalProperties" then v.redactNode
  else v

variable {es fs : Entries}

/-! ## Entries of a node -/

/-- Redaction keeps the keys of a node and redacts the values under those of children. -/
theorem get?_redactEntries (es : Entries) (name : String) :
    Entries.get? (redactEntries es) (.text name) =
      (es.get? (.text name)).map (·.redactUnder name) := by
  induction es with
  | nil => rfl
  | cons e es ih =>
    obtain ⟨k, v⟩ := e
    rw [redactEntries, Entries.get?_cons, Entries.get?_cons, ih]
    by_cases hk : k.same (.text name) = true
    · simp only [hk, if_true, Option.map_some, Key.same_congr hk, Key.same_text,
        Value.redactUnder, decide_eq_true_eq, Bool.or_eq_true]
    · rw [if_neg hk, if_neg hk]

theorem get_redactEntries (es : Entries) (name : String) :
    Entries.get (redactEntries es) name = (es.get name).redactUnder name := by
  rw [Entries.get, Entries.get, get?_redactEntries]
  cases es.get? (.text name) with
  | some v => rfl
  | none =>
    rw [Option.map_none, Option.getD_none, Value.redactUnder]
    split
    · rfl
    · split <;> rfl

/-- The entries that hold the children of a node. -/
def childKeys : List String := ["properties", "items", "additionalProperties"]

/-- Only values under the keys of children are redacted. -/
theorem redactUnder_of_not_mem {name : String} (h : name ∉ childKeys) (v : Value) :
    v.redactUnder name = v := by
  simp only [childKeys, List.mem_cons, List.not_mem_nil, or_false, not_or] at h
  rw [Value.redactUnder, if_neg h.1, if_neg (not_or.2 ⟨h.2.1, h.2.2⟩)]

/-- A field that holds no children is read as before. -/
theorem fieldUnder_redactEntries {α : Type} {key : String} (h : key ∉ childKeys) (es : Entries)
    (label : String) (default : α) (read : Coercion α) :
    Reading.fieldUnder (redactEntries es) key label default read =
      Reading.fieldUnder es key label default read := by
  rw [Reading.fieldUnder, Reading.fieldUnder, get?_redactEntries]
  cases es.get? (.text key) with
  | none => rfl
  | some v => rw [Option.map_some, redactUnder_of_not_mem h]

theorem field_redactEntries {α : Type} {name : String} (h : name ∉ childKeys) (es : Entries)
    (default : α) (read : Coercion α) :
    Reading.field (redactEntries es) name default read = Reading.field es name default read :=
  fieldUnder_redactEntries h es name default read

/-- The same keys are there. -/
theorem has_redactEntries (es : Entries) (name : String) :
    Entries.has (redactEntries es) name = es.has name := by
  induction es with
  | nil => rfl
  | cons e es ih =>
    obtain ⟨k, v⟩ := e
    rw [redactEntries, Entries.has, Entries.has, List.any_cons, List.any_cons]
    exact congrArg (k.same (.text name) || ·) ih

/-- The extensions of a node are not redacted. -/
theorem read_redactEntries (es : Entries) :
    SchemaExtensions.read (redactEntries es) = SchemaExtensions.read es := by
  have hdeclared : declaredFields (SchemaExtensions.listing {}) (redactEntries es) =
      declaredFields (SchemaExtensions.listing {}) es := by
    rw [declaredFields, declaredFields]
    simp only [has_redactEntries]
  simp (disch := decide) only [SchemaExtensions.read, field_redactEntries, hdeclared]

/-- The plain fields of a node are not redacted. -/
theorem readFields_redactEntries (es : Entries) :
    Schema.readFields (redactEntries es) = Schema.readFields es := by
  simp (disch := decide) only [Schema.readFields, field_redactEntries, fieldUnder_redactEntries]

/-! ## Nodes -/

/-- A node is hidden after redaction when it was before. -/
theorem isHiddenNode_redactNode (v : Value) : v.redactNode.isHiddenNode = v.isHiddenNode := by
  cases v with
  | object es =>
    rw [Value.redactNode, Value.isHiddenNode, field_redactEntries (by decide)]
    rfl
  | _ => rfl

theorem isHiddenNode_hiddenNode : Value.hiddenNode.isHiddenNode = true := rfl

/-- The redaction of the node of a property. -/
def Value.redactProperty (v : Value) : Value :=
  if v.isHiddenNode then Value.hiddenNode else v.redactNode

theorem redactNamed_cons (k : Key) (v : Value) (ps : Entries) :
    redactNamed ((k, v) :: ps) = (k, v.redactProperty) :: redactNamed ps := rfl

/-- Redaction keeps which properties are hidden. -/
theorem isHiddenNode_redactProperty (v : Value) :
    v.redactProperty.isHiddenNode = v.isHiddenNode := by
  rw [Value.redactProperty]
  cases h : v.isHiddenNode with
  | true => exact isHiddenNode_hiddenNode
  | false => rw [if_neg Bool.false_ne_true, isHiddenNode_redactNode, h]

/-- An object stays one, as the mark of a hidden node is one. -/
theorem isObject_redactProperty (v : Value) : v.redactProperty.isObject = v.isObject := by
  rw [Value.redactProperty]
  cases v with
  | object es => split <;> rfl
  | _ => rfl

/-- What is an object on one side is one on the other. -/
theorem exists_object_of_redactProperty_eq {v : Value}
    (h : (Value.object es).redactProperty = v.redactProperty) : ∃ fs, v = .object fs := by
  have hobject := congrArg Value.isObject h
  rw [isObject_redactProperty, isObject_redactProperty] at hobject
  cases v with
  | object fs => exact ⟨fs, rfl⟩
  | _ => cases hobject

theorem not_object_of_redactProperty_eq {v w : Value} (hv : ∀ es, v ≠ .object es)
    (h : v.redactProperty = w.redactProperty) (es : Entries) : w ≠ .object es := by
  rintro rfl
  obtain ⟨fs, hfs⟩ := exists_object_of_redactProperty_eq h.symm
  exact hv fs hfs

namespace Assoc

variable {α β : Type} (f : α → β)

/-- Mapping the values of a list of pairs goes with putting a value. -/
theorem put_map (xs : List (String × α)) (name : String) (a : α) :
    put (xs.map fun p => (p.1, f p.2)) name (f a) =
      (put xs name a).map fun p => (p.1, f p.2) := by
  induction xs with
  | nil => rfl
  | cons x xs ih =>
    rw [List.map_cons, put, put]
    split
    · rfl
    · rw [ih, List.map_cons]

/-- Changing the values of a named list keeps which of them are put in place of others. -/
theorem ofPairs_map (xs : List (String × α)) :
    ofPairs (xs.map fun p => (p.1, f p.2)) = (ofPairs xs).map fun p => (p.1, f p.2) := by
  have hfold (acc : List (String × α)) :
      (xs.map fun p => (p.1, f p.2)).foldl (fun xs p => put xs p.1 p.2)
        (acc.map fun p => (p.1, f p.2)) =
      (xs.foldl (fun xs p => put xs p.1 p.2) acc).map fun p => (p.1, f p.2) := by
    induction xs generalizing acc with
    | nil => rfl
    | cons x xs ih =>
      rw [List.map_cons, List.foldl_cons, List.foldl_cons, put_map]
      exact ih (put acc x.1 x.2)
  exact hfold []

end Assoc

namespace Schema

variable {rules : SchemaRules} {depth : Nat} {place : String} {s t : Schema}
variable {properties : Option (List (String × Schema))} {additional : Option (Additional Schema)}
variable {items : Option Schema}

/-- The schema of a node with the given children. -/
def nodeOf (es : Entries) (properties : Option (List (String × Schema)))
    (additional : Option (Additional Schema)) (items : Option Schema) : Schema :=
  { (readFields es).value with
    type := typeOf (es.get "type")
    enum := match es.get "enum" with
      | .list vs => some vs
      | _ => none
    properties, additional, items
    extensions := (SchemaExtensions.read es).value }

/-- A reading without faults gives its value. -/
theorem value_of_result {α : Type} {x : Reading α} {a : α} (h : x.result = .ok a) :
    x.value = a := by
  unfold Reading.result at h
  split at h
  · exact Except.ok.inj h
  · cases h

theorem value_of_decode {ρ : Type} [ExtensionRecord ρ] {strict : Bool} {record : ρ}
    (h : (decode ρ es place strict).outcome = .ok record) :
    (ExtensionRecord.read es : Reading ρ).value = record := by
  obtain ⟨_, -, h⟩ := Logged.bind_ok_iff.1 h
  refine value_of_result ?_
  cases hresult : (ExtensionRecord.read es : Reading ρ).result with
  | ok read =>
    rw [hresult] at h
    exact congrArg Except.ok (Except.ok.inj h)
  | error faults =>
    rw [hresult] at h
    cases h

/-- What is assembled is the node of the entries and their children. -/
theorem eq_nodeOf_of_assemble
    (h : (assemble rules place es properties additional items).outcome = .ok s) :
    s = nodeOf es properties additional items := by
  obtain ⟨extensions, hextensions, h⟩ := Logged.bind_ok_iff.1 h
  have hread : (SchemaExtensions.read es).value = extensions := by
    change (ExtensionRecord.read es : Reading SchemaExtensions).value = _
    exact value_of_decode hextensions
  cases hfields : (readFields es).result with
  | ok fields =>
    rw [hfields] at h
    cases h
    obtain rfl := hread
    obtain rfl := value_of_result hfields
    rfl
  | error faults =>
    rw [hfields] at h
    cases h

/-- Building a node reads nothing that redaction changes but its children. -/
theorem nodeOf_congr (h : redactEntries es = redactEntries fs) :
    nodeOf es properties additional items = nodeOf fs properties additional items := by
  have hread (es : Entries) :
      nodeOf (redactEntries es) properties additional items =
        nodeOf es properties additional items := by
    have htype := get_redactEntries es "type"
    have henum := get_redactEntries es "enum"
    rw [redactUnder_of_not_mem (by decide)] at htype henum
    rw [nodeOf, nodeOf, readFields_redactEntries, read_redactEntries, htype, henum]
  rw [← hread es, h, hread fs]

/-- Redacting a node redacts its children and leaves the rest. -/
theorem redact_nodeOf : (nodeOf es properties additional items).redact =
    nodeOf es (redactMap properties) (redactAdditional additional) (redactItems items) := rfl

/-- The parts of a node that is built. -/
theorem parts_of_ofEntries (h : (ofEntries rules depth place es).outcome = .ok s) :
    ∃ properties additional items,
      (childProperties rules depth place (es.get "properties")).outcome = .ok properties ∧
      (childAdditional rules depth place (es.get "additionalProperties")).outcome =
        .ok additional ∧
      (childItems rules depth place (es.get "items")).outcome = .ok items ∧
      s = nodeOf es properties additional items := by
  rw [ofEntries_eq] at h
  obtain ⟨_, -, h⟩ := Logged.bind_ok_iff.1 h
  obtain ⟨properties, hproperties, h⟩ := Logged.bind_ok_iff.1 h
  obtain ⟨additional, hadditional, h⟩ := Logged.bind_ok_iff.1 h
  obtain ⟨items, hitems, h⟩ := Logged.bind_ok_iff.1 h
  exact ⟨properties, additional, items, hproperties, hadditional, hitems,
    eq_nodeOf_of_assemble h⟩

/-- The hidden flag of a node is decoded as it reads. -/
theorem hiddenFromSdk_of_ofEntries (h : (ofEntries rules depth place es).outcome = .ok s) :
    s.extensions.hiddenFromSdk = (Value.object es).isHiddenNode := by
  obtain ⟨_, _, _, -, -, -, rfl⟩ := parts_of_ofEntries h
  rfl

/-- Properties of one name become one before redaction as after it. -/
theorem redactMap_some (ps : List (String × Schema)) :
    redactMap (some (Assoc.ofPairs ps)) = some (Assoc.ofPairs (ps.map redactProperty)) := by
  have hpairs := Assoc.ofPairs_map
    (fun p : Schema => if p.extensions.hiddenFromSdk then hiddenNode else p.redact) ps
  rw [redactMap, redactProperties_eq]
  exact congrArg some hpairs.symm

theorem ofProperties_nil_ok {nodes : List (String × Schema)}
    (h : (ofProperties rules depth place []).outcome = .ok nodes) : nodes = [] := by
  rw [ofProperties] at h
  cases h
  rfl

/-- A property that is an object is built, and then the others are. -/
theorem ofProperties_cons_ok {k : Key} {ps : Entries} {nodes : List (String × Schema)}
    (h : (ofProperties rules depth place ((k, .object es) :: ps)).outcome = .ok nodes) :
    ∃ node rest,
      (ofEntries rules (depth + 1) (place ++ "/properties/" ++ k.display) es).outcome = .ok node ∧
      (ofProperties rules depth place ps).outcome = .ok rest ∧
      nodes = (k.display, node) :: rest := by
  rw [ofProperties] at h
  obtain ⟨node, hnode, h⟩ := Logged.bind_ok_iff.1 h
  obtain ⟨rest, hrest, h⟩ := Logged.bind_ok_iff.1 h
  cases h
  exact ⟨node, rest, hnode, hrest, rfl⟩

/-- A property that is no object is passed over. -/
theorem ofProperties_cons_skip {k : Key} {v : Value} (hv : ∀ es, v ≠ .object es) (ps : Entries) :
    ofProperties rules depth place ((k, v) :: ps) = ofProperties rules depth place ps := by
  rw [ofProperties]
  rintro _ es h
  cases h
  exact hv es rfl

/-- Nodes of a property whose redactions are equal: both are hidden, or both are built alike. -/
theorem redactProperty_eq_of_ofEntries {name : String} {fs : Entries}
    (hredact : (Value.object es).redactProperty = (Value.object fs).redactProperty)
    (hs : (ofEntries rules depth place es).outcome = .ok s)
    (ht : (ofEntries rules depth place fs).outcome = .ok t)
    (ih : redactEntries es = redactEntries fs → s.redact = t.redact) :
    redactProperty (name, s) = redactProperty (name, t) := by
  have hhidden : (Value.object es).isHiddenNode = (Value.object fs).isHiddenNode := by
    rw [← isHiddenNode_redactProperty, hredact, isHiddenNode_redactProperty]
  rw [redactProperty, redactProperty, hiddenFromSdk_of_ofEntries hs,
    hiddenFromSdk_of_ofEntries ht, ← hhidden]
  rw [Value.redactProperty, Value.redactProperty, ← hhidden] at hredact
  cases h : (Value.object es).isHiddenNode with
  | true => rfl
  | false =>
    rw [h] at hredact
    rw [ih (Value.object.inj hredact)]

/-- Property maps that are the same when redacted are built into the same redacted nodes, once this
holds of the properties. -/
theorem redactMap_of_childProperties {v w : Value} {p q : Option (List (String × Schema))}
    (h : v.redactUnder "properties" = w.redactUnder "properties")
    (hp : (childProperties rules depth place v).outcome = .ok p)
    (hq : (childProperties rules depth place w).outcome = .ok q)
    (ih : ∀ ps, v = .object ps → ∀ qs nodes nodes', redactNamed ps = redactNamed qs →
      (ofProperties rules depth place ps).outcome = .ok nodes →
      (ofProperties rules depth place qs).outcome = .ok nodes' →
      nodes.map redactProperty = nodes'.map redactProperty) :
    redactMap p = redactMap q := by
  cases v with
  | object ps =>
    cases w with
    | object qs =>
      obtain ⟨nodes, hnodes, rfl⟩ := Logged.map_ok_iff.1 hp
      obtain ⟨nodes', hnodes', rfl⟩ := Logged.map_ok_iff.1 hq
      have hmap := ih ps rfl qs nodes nodes' (Value.object.inj h) hnodes hnodes'
      rw [Function.comp_apply, Function.comp_apply, redactMap_some, redactMap_some, hmap]
    | _ => cases h
  | _ =>
    cases w with
    | object qs => cases h
    | _ =>
      cases hp
      cases hq
      rfl

/-- The same of additional properties. -/
theorem redactAdditional_of_childAdditional {v w : Value} {a b : Option (Additional Schema)}
    (h : v.redactUnder "additionalProperties" = w.redactUnder "additionalProperties")
    (ha : (childAdditional rules depth place v).outcome = .ok a)
    (hb : (childAdditional rules depth place w).outcome = .ok b)
    (ih : ∀ es, v = .object es → ∀ fs s t, redactEntries es = redactEntries fs →
      (ofEntries rules (depth + 1) (place ++ "/additionalProperties") es).outcome = .ok s →
      (ofEntries rules (depth + 1) (place ++ "/additionalProperties") fs).outcome = .ok t →
      s.redact = t.redact) :
    redactAdditional a = redactAdditional b := by
  cases v with
  | object es =>
    cases w with
    | object fs =>
      obtain ⟨s, hs, rfl⟩ := Logged.map_ok_iff.1 ha
      obtain ⟨t, ht, rfl⟩ := Logged.map_ok_iff.1 hb
      have hredact := ih es rfl fs s t (Value.object.inj h) hs ht
      exact congrArg (fun s => some (Additional.shaped s)) hredact
    | _ => cases h
  | _ =>
    cases w with
    | object fs => cases h
    | _ => cases h <;> exact congrArg redactAdditional (Except.ok.inj (ha.symm.trans hb))

/-- The same of items. -/
theorem redactItems_of_childItems {v w : Value} {i j : Option Schema}
    (h : v.redactUnder "items" = w.redactUnder "items")
    (hi : (childItems rules depth place v).outcome = .ok i)
    (hj : (childItems rules depth place w).outcome = .ok j)
    (ih : ∀ es, v = .object es → ∀ fs s t, redactEntries es = redactEntries fs →
      (ofEntries rules (depth + 1) (place ++ "/items") es).outcome = .ok s →
      (ofEntries rules (depth + 1) (place ++ "/items") fs).outcome = .ok t →
      s.redact = t.redact) :
    redactItems i = redactItems j := by
  cases v with
  | object es =>
    cases w with
    | object fs =>
      obtain ⟨s, hs, rfl⟩ := Logged.map_ok_iff.1 hi
      obtain ⟨t, ht, rfl⟩ := Logged.map_ok_iff.1 hj
      exact congrArg some (ih es rfl fs s t (Value.object.inj h) hs ht)
    | _ => cases h
  | _ =>
    cases w with
    | object fs => cases h
    | _ =>
      cases hi
      cases hj
      rfl

/-- **Nodes of one redaction are built into schemas of one redaction.** -/
theorem redact_eq_of_ofEntries {fs : Entries} (hredact : redactEntries es = redactEntries fs)
    (hs : (ofEntries rules depth place es).outcome = .ok s)
    (ht : (ofEntries rules depth place fs).outcome = .ok t) : s.redact = t.redact := by
  refine ofEntries.induct
    (fun depth place es => ∀ fs s t, redactEntries es = redactEntries fs →
      (ofEntries rules depth place es).outcome = .ok s →
      (ofEntries rules depth place fs).outcome = .ok t → s.redact = t.redact)
    (fun depth place ps => ∀ qs nodes nodes', redactNamed ps = redactNamed qs →
      (ofProperties rules depth place ps).outcome = .ok nodes →
      (ofProperties rules depth place qs).outcome = .ok nodes' →
      nodes.map redactProperty = nodes'.map redactProperty)
    ?_ ?_ ?_ ?_ depth place es fs s t hredact hs ht
  · intro depth place es hproperties hadditional hitems fs s t hredact hs ht
    obtain ⟨properties, additional, items, hp, ha, hi, rfl⟩ := parts_of_ofEntries hs
    obtain ⟨properties', additional', items', hp', ha', hi', rfl⟩ := parts_of_ofEntries ht
    have hget (name : String) :
        (es.get name).redactUnder name = (Entries.get fs name).redactUnder name := by
      rw [← get_redactEntries, hredact, get_redactEntries]
    have hps := redactMap_of_childProperties (hget "properties") hp hp' hproperties
    have has := redactAdditional_of_childAdditional (hget "additionalProperties") ha ha'
      hadditional
    have his := redactItems_of_childItems (hget "items") hi hi' hitems
    rw [redact_nodeOf, redact_nodeOf, hps, has, his]
    exact nodeOf_congr hredact
  · intro depth place qs nodes nodes' hredact hs ht
    cases qs with
    | nil => rw [ofProperties_nil_ok hs, ofProperties_nil_ok ht]
    | cons q qs => cases hredact
  · intro depth place k es rest ih ihrest qs nodes nodes' hredact hs ht
    cases qs with
    | nil => cases hredact
    | cons q qs =>
      obtain ⟨k', v⟩ := q
      rw [redactNamed_cons, redactNamed_cons, List.cons.injEq, Prod.mk.injEq] at hredact
      obtain ⟨⟨rfl, hproperty⟩, hrest⟩ := hredact
      obtain ⟨fs, rfl⟩ := exists_object_of_redactProperty_eq hproperty
      obtain ⟨node, others, hnode, hothers, rfl⟩ := ofProperties_cons_ok hs
      obtain ⟨node', others', hnode', hothers', rfl⟩ := ofProperties_cons_ok ht
      rw [List.map_cons, List.map_cons, ihrest qs others others' hrest hothers hothers',
        redactProperty_eq_of_ofEntries hproperty hnode hnode' fun h => ih fs _ _ h hnode hnode']
  · intro depth place head rest hhead ihrest qs nodes nodes' hredact hs ht
    obtain ⟨k, v⟩ := head
    have hv : ∀ es, v ≠ .object es := fun es h => hhead k es (by rw [h])
    cases qs with
    | nil => cases hredact
    | cons q qs =>
      obtain ⟨k', w⟩ := q
      rw [redactNamed_cons, redactNamed_cons, List.cons.injEq, Prod.mk.injEq] at hredact
      obtain ⟨⟨rfl, hproperty⟩, hrest⟩ := hredact
      have hw := not_object_of_redactProperty_eq hv hproperty
      rw [ofProperties_cons_skip hv] at hs
      rw [ofProperties_cons_skip hw] at ht
      exact ihrest qs nodes nodes' hrest hs ht

end Schema

end SdkModel
