import SdkModel.Proofs.Schema.WellTyped

/-!
# The checks of a schema in order

A schema is checked while it is built, in one order: the depth of a node on entering it, then its
properties as they are written, the schema of further properties and the items, and last the
extensions and the fields of the node itself. `checks` lists these checks with the paths of their
nodes. The first one that fails is the failure of the build, and a failure that is reported names
the place of its node (`Schema.fails_at_first_check`).
-/

namespace SdkModel

/-! ## Failures of a sequence -/

namespace Logged

variable {ε α β : Type} {x : Logged ε α} {f : α → Logged ε β} {e : ε}

/-- The failure that a computation ends with. -/
def failure? (x : Logged ε α) : Option ε :=
  match x.outcome with
  | .ok _ => none
  | .error e => some e

theorem failure?_eq_some_iff : x.failure? = some e ↔ x.outcome = .error e := by
  unfold failure?
  cases x.outcome <;> simp

/-- A computation fails unless it succeeds. -/
theorem failure?_eq_none_iff : x.failure? = none ↔ x.Succeeds := by
  unfold failure? Succeeds
  cases x.outcome <;> simp

theorem failure?_pure (a : α) : (pure a : Logged ε α).failure? = none := rfl

/-- A sequence ends with the failure of its first part, and else with that of its second part, if
this one does not depend on the answer of the first. -/
theorem failure?_bind {g : Option ε} (h : ∀ a, (f a).failure? = g) :
    (x >>= f).failure? = x.failure?.or g := by
  cases hx : x.outcome with
  | ok a =>
    rw [failure?, outcome_bind_of_ok hx, ← failure?, h a, failure?, hx]
    rfl
  | error e =>
    rw [failure?_eq_some_iff.2 hx, failure?_eq_some_iff.2 (bind_error_iff.2 (.inl hx))]
    rfl

/-- Changing the answer changes no failure. -/
theorem failure?_map {g : α → β} : (g <$> x).failure? = x.failure? :=
  (failure?_bind fun _ => failure?_pure _).trans Option.or_none

end Logged

open Logged (failure?_eq_some_iff failure?_eq_none_iff failure?_pure failure?_bind failure?_map)

/-! ## Failures of records and of places -/

/-- A failure that lists the faults of a record, when there are any. -/
def Failure.ofFaults? (report : List FieldFault → Failure) : List FieldFault → Option Failure
  | [] => none
  | faults => some (report faults)

/-- The failure of a record is about its faults. -/
theorem Failure.eq_of_ofFaults? {report : List FieldFault → Failure} {faults : List FieldFault}
    {f : Failure} (h : ofFaults? report faults = some f) : f = report faults ∧ faults ≠ [] := by
  cases faults with
  | nil => cases h
  | cons fault faults => exact ⟨(Option.some.inj h).symm, List.cons_ne_nil _ _⟩

/-- The place in a document that a failure names. -/
def Failure.place? : Failure → Option String
  | .unknownExtension _ place => some place
  | .invalidExtension _ place _ => some place
  | .depth _ place => some place
  | _ => none

/-- The place stands at the end of the message. -/
theorem Failure.message_of_place? {f : Failure} {place : String} (h : f.place? = some place) :
    ∃ start, f.message = start ++ " at " ++ place := by
  cases f with
  | unknownExtension key =>
    cases h
    have hsplit : "' at " = "'" ++ " at " := by decide
    refine ⟨"Unknown extension key '" ++ key ++ "'", ?_⟩
    change "Unknown extension key '" ++ key ++ "' at " ++ place = _
    rw [hsplit, ← String.append_assoc]
  | invalidExtension =>
    cases h
    have hsplit : "Invalid extension value at " = "Invalid extension value" ++ " at " := by decide
    refine ⟨"Invalid extension value", ?_⟩
    change "Invalid extension value at " ++ place = _
    rw [hsplit]
  | depth limit =>
    cases h
    have hsplit : " levels at " = " levels" ++ " at " := by decide
    refine ⟨"Schema nesting exceeds " ++ toString limit ++ " levels", ?_⟩
    change "Schema nesting exceeds " ++ toString limit ++ " levels at " ++ place = _
    rw [hsplit, ← String.append_assoc]
  | _ => cases h

/-! ## Decoding -/

/-- The first vendor key of a node that no record declares. -/
def unknownKey? (ρ : Type) [ExtensionRecord ρ] (es : Entries) : Option String :=
  ((vendorEntries es).map (·.1)).find? fun key => keyVerdict (recordKeys ρ) key = .unknown

section Decoding

variable {es : Entries} {place : String} {strict : Bool}

/-- Decoding strictly, the first unknown key is refused, and decoding otherwise none is. -/
theorem failure?_checkKeys (known keys : List String) :
    (checkKeys known place strict keys).failure? = if strict then
      (keys.find? fun key => keyVerdict known key = .unknown).map (.unknownExtension · place)
    else none := by
  induction keys with
  | nil => cases strict <;> rfl
  | cons key keys ih =>
    rw [checkKeys, failure?_bind fun _ => ih, checkKey, List.find?_cons]
    cases keyVerdict known key <;> cases strict <;> simp [Logged.failure?, Logged.write, Logged.fail]

/-- Decoding fails at the first unknown key when it is strict, and else by the values of the keys
that it reads. -/
theorem failure?_decode {ρ : Type} [ExtensionRecord ρ] :
    (decode ρ es place strict).failure? =
      (if strict then (unknownKey? ρ es).map (.unknownExtension · place) else none).or
        (Failure.ofFaults? (.invalidExtension (ExtensionRecord.kind ρ) place)
          (ExtensionRecord.read es : Reading ρ).faults) := by
  rw [decode, failure?_bind fun _ => ?_, failure?_checkKeys]
  · rfl
  · rw [Reading.result_eq]
    cases (ExtensionRecord.read es : Reading ρ).faults <;> rfl

end Decoding

namespace Schema

variable {rules : SchemaRules} {place : String} {es ps : Entries}

/-! ## Children -/

/-- A step from a node to one of its children. -/
inductive ChildStep where
  | property (name : String)
  | additional
  | items
deriving DecidableEq, Repr

def ChildStep.text : ChildStep → String
  | .property name => "/properties/" ++ name
  | .additional => "/additionalProperties"
  | .items => "/items"

/-- The place of the node that a path leads to from the node at a place. -/
def placeAt (place : String) (path : List ChildStep) : String :=
  path.foldl (fun p step => p ++ step.text) place

/-- The place of a child is that of its parent and one step more. -/
theorem placeAt_concat (place : String) (path : List ChildStep) (step : ChildStep) :
    placeAt place (path ++ [step]) = placeAt place path ++ step.text := List.foldl_concat ..

/-- The nodes of a property map; entries that are no objects are none. -/
def propertyNodes (ps : Entries) : List (ChildStep × Entries) :=
  ps.filterMap fun p => p.2.entries?.map (.property p.1.display, ·)

/-- The node that a value is, if it is an object. -/
def nodeUnder (step : ChildStep) (v : Value) : List (ChildStep × Entries) :=
  (v.entries?.map (step, ·)).toList

/-- The children of a node in the order in which they are built. -/
def childNodes (es : Entries) : List (ChildStep × Entries) :=
  (es.get "properties").entries?.elim [] propertyNodes ++
    nodeUnder .additional (es.get "additionalProperties") ++ nodeUnder .items (es.get "items")

theorem entries?_eq_some_iff {v : Value} : v.entries? = some es ↔ v = .object es := by
  cases v <;> simp [Value.entries?]

/-- The nodes among properties are those that are objects. -/
theorem mem_propertyNodes {c : ChildStep × Entries} :
    c ∈ propertyNodes ps ↔ ∃ k, (k, .object c.2) ∈ ps ∧ c.1 = .property k.display := by
  simp only [propertyNodes, List.mem_filterMap, Option.map_eq_some_iff, entries?_eq_some_iff]
  constructor
  · rintro ⟨⟨k, _⟩, hmem, sub, rfl, rfl⟩
    exact ⟨k, hmem, rfl⟩
  · rintro ⟨k, hmem, hstep⟩
    exact ⟨(k, .object c.2), hmem, c.2, rfl, Prod.ext hstep.symm rfl⟩

theorem mem_nodeUnder {step : ChildStep} {v : Value} {c : ChildStep × Entries} :
    c ∈ nodeUnder step v ↔ v = .object c.2 ∧ c.1 = step := by
  simp only [nodeUnder, Option.mem_toList, Option.map_eq_some_iff, entries?_eq_some_iff]
  constructor
  · rintro ⟨sub, rfl, rfl⟩
    exact ⟨rfl, rfl⟩
  · rintro ⟨hv, hstep⟩
    exact ⟨c.2, hv, Prod.ext hstep.symm rfl⟩

/-- A child is smaller than its parent, so that checks below it can be listed. -/
theorem sizeOf_childNode_lt {c : ChildStep × Entries} (h : c ∈ childNodes es) :
    sizeOf c.2 < sizeOf es := by
  rcases List.mem_append.1 h with h | h
  · rcases List.mem_append.1 h with h | h
    · cases hps : (es.get "properties").entries? with
      | none => simp [hps] at h
      | some ps =>
        rw [hps] at h
        obtain ⟨k, hmem, -⟩ := mem_propertyNodes.1 h
        have hlt := Value.sizeOf_lt_of_mem_object hmem
        have hps := sizeOf_of_get (entries?_eq_some_iff.1 hps)
        simp only [Value.object.sizeOf_spec] at hlt
        omega
    · exact sizeOf_of_get (mem_nodeUnder.1 h).1
  · exact sizeOf_of_get (mem_nodeUnder.1 h).1

/-! ## Checks -/

/-- What is checked of a node. -/
inductive Aspect where
  | depth
  | extensions
  | fields
deriving DecidableEq, Repr

/-- A check of the node at a path. -/
structure Check where
  aspect : Aspect
  path : List ChildStep
  node : Entries

/-- The failure of a check; nodes are as deep as their paths are long. -/
def Check.failure? (rules : SchemaRules) (place : String) (c : Check) : Option Failure :=
  let here := placeAt place c.path
  match c.aspect with
  | .depth => if rules.maxDepth < c.path.length then some (.depth rules.maxDepth here) else none
  | .extensions =>
    (if rules.strict then (unknownKey? SchemaExtensions c.node).map (.unknownExtension · here)
      else none).or
      (Failure.ofFaults? (.invalidExtension .schemaExtensions here)
        (SchemaExtensions.read c.node).faults)
  | .fields => Failure.ofFaults? (.invalidRecord .schema) (readFields c.node).faults

/-- The checks of the node at a path and of everything below it, in order. -/
def checks (path : List ChildStep) (es : Entries) : List Check :=
  ⟨.depth, path, es⟩ ::
    ((childNodes es).attach.flatMap fun c => checks (path ++ [c.1.1]) c.1.2) ++
    [⟨.extensions, path, es⟩, ⟨.fields, path, es⟩]
termination_by sizeOf es
decreasing_by exact sizeOf_childNode_lt c.2

/-- The checks of the nodes at the steps below a path. -/
def checksBelow (path : List ChildStep) (cs : List (ChildStep × Entries)) : List Check :=
  cs.flatMap fun c => checks (path ++ [c.1]) c.2

/-- The depth is checked first, then the children, and last the extensions and the fields. -/
theorem checks_eq (path : List ChildStep) (es : Entries) : checks path es =
    ⟨.depth, path, es⟩ :: checksBelow path (childNodes es) ++
      [⟨.extensions, path, es⟩, ⟨.fields, path, es⟩] := by
  have hattach : ((childNodes es).attach.flatMap fun c => checks (path ++ [c.1.1]) c.1.2) =
      checksBelow path (childNodes es) := by
    rw [List.flatMap_subtype (g := fun c => checks (path ++ [c.1]) c.2) fun _ _ => rfl,
      List.unattach_attach]
    rfl
  rw [checks, hattach]

theorem checksBelow_append (path : List ChildStep) (cs ds : List (ChildStep × Entries)) :
    checksBelow path (cs ++ ds) = checksBelow path cs ++ checksBelow path ds :=
  List.flatMap_append

theorem checksBelow_nodeUnder (path : List ChildStep) (step : ChildStep) (sub : Entries) :
    checksBelow path (nodeUnder step (.object sub)) = checks (path ++ [step]) sub :=
  List.append_nil _

/-- The check of the depth is that of the path to the node. -/
theorem failure?_checkDepth (path : List ChildStep) (es : Entries) :
    (checkDepth rules path.length (placeAt place path)).failure? =
      Check.failure? rules place ⟨.depth, path, es⟩ := by
  rw [checkDepth, Check.failure?]
  split <;> rfl

/-- Faults of extensions come before faults of fields. -/
theorem failure?_assemble (path : List ChildStep) (properties : Option (List (String × Schema)))
    (additional : Option (Additional Schema)) (items : Option Schema) :
    (assemble rules (placeAt place path) es properties additional items).failure? =
      (Check.failure? rules place ⟨.extensions, path, es⟩).or
        (Check.failure? rules place ⟨.fields, path, es⟩) := by
  rw [assemble, failure?_bind fun _ => ?_, failure?_decode]
  · rfl
  · rw [Reading.result_eq, Check.failure?]
    cases (readFields es).faults <;> rfl

/-- The first failure of a list of checks. -/
def firstFailure? (rules : SchemaRules) (place : String) (cs : List Check) : Option Failure :=
  cs.findSome? (Check.failure? rules place)

theorem firstFailure?_cons (c : Check) (cs : List Check) :
    firstFailure? rules place (c :: cs) =
      (c.failure? rules place).or (firstFailure? rules place cs) := by
  rw [firstFailure?, List.findSome?_cons]
  cases c.failure? rules place <;> rfl

theorem firstFailure?_nil : firstFailure? rules place [] = none := rfl

/-- The first failure of two lists is that of the first list, if there is one. -/
theorem firstFailure?_append (cs ds : List Check) : firstFailure? rules place (cs ++ ds) =
    (firstFailure? rules place cs).or (firstFailure? rules place ds) := List.findSome?_append

/-! ## The first failure -/

section Children

variable {depth : Nat} {here : String} {path : List ChildStep} {v : Value}

/-- Children are built in the order of their checks, once this holds below them. -/
theorem failure?_childAdditional (ih : ∀ sub, v = .object sub →
      (ofEntries rules (depth + 1) (here ++ "/additionalProperties") sub).failure? =
        firstFailure? rules place (checks (path ++ [.additional]) sub)) :
    (childAdditional rules depth here v).failure? =
      firstFailure? rules place (checksBelow path (nodeUnder .additional v)) := by
  cases v with
  | object sub => rw [childAdditional, failure?_map, ih sub rfl, checksBelow_nodeUnder]
  | _ => rfl

theorem failure?_childItems (ih : ∀ sub, v = .object sub →
      (ofEntries rules (depth + 1) (here ++ "/items") sub).failure? =
        firstFailure? rules place (checks (path ++ [.items]) sub)) :
    (childItems rules depth here v).failure? =
      firstFailure? rules place (checksBelow path (nodeUnder .items v)) := by
  cases v with
  | object sub => rw [childItems, failure?_map, ih sub rfl, checksBelow_nodeUnder]
  | _ => rfl

theorem failure?_childProperties (ih : ∀ ps, v = .object ps →
      (ofProperties rules depth here ps).failure? =
        firstFailure? rules place (checksBelow path (propertyNodes ps))) :
    (childProperties rules depth here v).failure? =
      firstFailure? rules place (checksBelow path (v.entries?.elim [] propertyNodes)) := by
  cases v with
  | object ps => exact failure?_map.trans (ih ps rfl)
  | _ => rfl

end Children

/-- **Building a node fails with the first failure of its checks.** -/
theorem failure?_ofEntries (path : List ChildStep) :
    (ofEntries rules path.length (placeAt place path) es).failure? =
      firstFailure? rules place (checks path es) := by
  -- The induction is that of the builder, over nodes and property maps at once.
  refine ofEntries.induct
    (fun depth here es => ∀ path, path.length = depth → placeAt place path = here →
      (ofEntries rules depth here es).failure? = firstFailure? rules place (checks path es))
    (fun depth here ps => ∀ path, path.length = depth → placeAt place path = here →
      (ofProperties rules depth here ps).failure? =
        firstFailure? rules place (checksBelow path (propertyNodes ps)))
    ?_ ?_ ?_ ?_ path.length (placeAt place path) es path rfl rfl
  · rintro _ _ es hproperties hadditional hitems path rfl rfl
    have hps := failure?_childProperties fun ps hps => hproperties ps hps path rfl rfl
    have has := failure?_childAdditional fun sub hsub =>
      hadditional sub hsub (path ++ [.additional]) (by simp) (placeAt_concat ..)
    have his := failure?_childItems fun sub hsub =>
      hitems sub hsub (path ++ [.items]) (by simp) (placeAt_concat ..)
    rw [ofEntries_eq, failure?_bind fun _ => failure?_bind fun _ => failure?_bind fun _ =>
      failure?_bind fun _ => failure?_assemble path _ _ _, failure?_checkDepth path es, hps, has,
      his, checks_eq, childNodes, checksBelow_append, checksBelow_append]
    simp only [List.cons_append, List.append_assoc, firstFailure?_cons, firstFailure?_append,
      firstFailure?_nil, Option.or_none]
  · rintro _ _ path rfl rfl
    rw [ofProperties]
    rfl
  · rintro _ _ k es rest hnode hrest path rfl rfl
    have hnode := hnode (path ++ [.property k.display]) (by simp)
      ((placeAt_concat ..).trans (String.append_assoc ..).symm)
    have hchild : propertyNodes ((k, .object es) :: rest) =
        (.property k.display, es) :: propertyNodes rest := rfl
    have hlast (node : Schema) : (do
        let nodes ← ofProperties rules path.length (placeAt place path) rest
        pure ((k.display, node) :: nodes)).failure? =
          firstFailure? rules place (checksBelow path (propertyNodes rest)) :=
      failure?_map.trans (hrest path rfl rfl)
    rw [ofProperties, failure?_bind hlast, hnode, hchild, ← firstFailure?_append]
    rfl
  · rintro _ _ ⟨k, v⟩ rest hhead hrest path rfl rfl
    have hskip : ∀ es, v ≠ .object es := fun es hv => hhead k es (congrArg (Prod.mk k) hv)
    have hchild : propertyNodes ((k, v) :: rest) = propertyNodes rest := by
      cases v with
      | object es => exact absurd rfl (hskip es)
      | _ => rfl
    rw [ofProperties_cons_skip hskip, hchild]
    exact hrest path rfl rfl

/-- A schema fails as the first of its checks does. -/
theorem failure?_ofEntries_root : (ofEntries rules 0 place es).failure? =
    firstFailure? rules place (checks [] es) := failure?_ofEntries []

/-! ## Places -/

/-- A path leads from a node to another one. -/
inductive NodeAt : Entries → List ChildStep → Entries → Prop
  | root (es : Entries) : NodeAt es [] es
  | child {es node : Entries} {c : ChildStep × Entries} {path : List ChildStep}
      (hchild : c ∈ childNodes es) (hpath : NodeAt c.2 path node) : NodeAt es (c.1 :: path) node

/-- The checks of a node are its own and those of its children. -/
theorem mem_checks_cases {start : List ChildStep} {c : Check} : c ∈ checks start es ↔
    c.path = start ∧ c.node = es ∨
      ∃ child ∈ childNodes es, c ∈ checks (start ++ [child.1]) child.2 := by
  rw [checks_eq, List.mem_append, List.mem_cons, List.mem_pair]
  have hbelow : c ∈ checksBelow start (childNodes es) ↔
      ∃ child ∈ childNodes es, c ∈ checks (start ++ [child.1]) child.2 := List.mem_flatMap
  have hself : c.path = start ∧ c.node = es ↔
      c = ⟨.depth, start, es⟩ ∨ c = ⟨.extensions, start, es⟩ ∨ c = ⟨.fields, start, es⟩ := by
    obtain ⟨aspect, path, node⟩ := c
    cases aspect <;> simp
  rw [hbelow, hself, or_right_comm, or_assoc]

/-- Every node is checked in every aspect. -/
theorem mem_checks_of_nodeAt {path : List ChildStep} {node : Entries} (h : NodeAt es path node)
    (start : List ChildStep) (aspect : Aspect) : ⟨aspect, start ++ path, node⟩ ∈ checks start es := by
  induction h generalizing start with
  | root es => exact mem_checks_cases.2 (.inl ⟨List.append_nil _, rfl⟩)
  | @child es node c path hchild _ ih =>
    have hbelow := ih (start ++ [c.1])
    rw [List.append_assoc] at hbelow
    exact mem_checks_cases.2 (.inr ⟨c, hchild, hbelow⟩)

/-- What is checked are the nodes that paths lead to. -/
theorem mem_checks_iff {start : List ChildStep} {c : Check} : c ∈ checks start es ↔
    ∃ path, NodeAt es path c.node ∧ c.path = start ++ path := by
  constructor
  · intro h
    induction start, es using checks.induct with
    | case1 start es ih =>
      rcases mem_checks_cases.1 h with ⟨hpath, rfl⟩ | ⟨child, hchild, h⟩
      · exact ⟨[], .root _, hpath.trans (List.append_nil _).symm⟩
      · obtain ⟨path, hnode, hpath⟩ := ih ⟨child, hchild⟩ h
        exact ⟨child.1 :: path, .child hchild hnode, hpath.trans (List.append_assoc ..)⟩
  · obtain ⟨aspect, path, node⟩ := c
    rintro ⟨path, hnode, rfl⟩
    exact mem_checks_of_nodeAt hnode start aspect

/-- A reported failure of a check names the place of its node. -/
theorem Check.place?_of_failure? {c : Check} {f : Failure} (h : c.failure? rules place = some f)
    (hreported : f.isReported = true) : f.place? = some (placeAt place c.path) := by
  obtain ⟨aspect, path, node⟩ := c
  cases aspect with
  | depth =>
    obtain ⟨-, h⟩ := Option.ite_none_right_eq_some.1 h
    cases h
    rfl
  | extensions =>
    rcases Option.or_eq_some_iff.1 h with h | ⟨-, h⟩
    · obtain ⟨-, h⟩ := Option.ite_none_right_eq_some.1 h
      obtain ⟨key, -, rfl⟩ := Option.map_eq_some_iff.1 h
      rfl
    · obtain ⟨rfl, -⟩ := Failure.eq_of_ofFaults? h
      rfl
  | fields =>
    obtain ⟨rfl, -⟩ := Failure.eq_of_ofFaults? h
    cases hreported

/-! ## The first check that fails -/

/-- A check of a node at a place fails with a failure, and no check before it fails. -/
def FailsFirst (rules : SchemaRules) (place : String) (es : Entries) (c : Check) (f : Failure) :
    Prop :=
  ∃ before after, checks [] es = before ++ c :: after ∧
    (∀ b ∈ before, b.failure? rules place = none) ∧ c.failure? rules place = some f

/-- The first failure is that of a check before which all others pass. -/
theorem firstFailure?_eq_some_iff {f : Failure} :
    firstFailure? rules place (checks [] es) = some f ↔ ∃ c, FailsFirst rules place es c f := by
  rw [firstFailure?, List.findSome?_eq_some_iff]
  constructor
  · rintro ⟨before, c, after, hsplit, hfails, hbefore⟩
    exact ⟨c, before, after, hsplit, hbefore, hfails⟩
  · rintro ⟨c, before, after, hsplit, hbefore, hfails⟩
    exact ⟨before, c, after, hsplit, hfails, hbefore⟩

/-- **The failure of a build is that of the first check that fails**, it names the place of the
checked node where it is reported, and without a check that fails the build succeeds. -/
theorem fails_at_first_check (rules : SchemaRules) (place : String) (es : Entries) :
    (∀ f, (ofEntries rules 0 place es).outcome = .error f ↔ ∃ c, FailsFirst rules place es c f) ∧
      (∀ c f, FailsFirst rules place es c f → NodeAt es c.path c.node ∧
        (f.isReported = true → f.place? = some (placeAt place c.path) ∧
          ∃ start, f.message = start ++ " at " ++ placeAt place c.path)) ∧
      ((ofEntries rules 0 place es).Succeeds ↔
        ∀ c ∈ checks [] es, c.failure? rules place = none) := by
  refine ⟨fun f => ?_, ?_, ?_⟩
  · rw [← failure?_eq_some_iff, failure?_ofEntries_root, firstFailure?_eq_some_iff]
  · rintro c f ⟨before, after, hsplit, -, hfails⟩
    have hmem : c ∈ checks [] es :=
      hsplit ▸ List.mem_append_right before List.mem_cons_self
    obtain ⟨path, hnode, hpath⟩ := mem_checks_iff.1 hmem
    obtain rfl : c.path = path := hpath
    refine ⟨hnode, fun hreported => ?_⟩
    have hplace := Check.place?_of_failure? hfails hreported
    exact ⟨hplace, Failure.message_of_place? hplace⟩
  · rw [← failure?_eq_none_iff, failure?_ofEntries_root, firstFailure?,
      List.findSome?_eq_none_iff]

end Schema

end SdkModel
