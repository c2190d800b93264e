import SdkModel.Proofs.Action.Build
import SdkModel.Proofs.Schema.WellTyped

/-!
# The contract of an operation

Every operation has to carry an extension and to state the name of its method
(`Action.MeetsContract`). When the values of an operation are of the types that they are read as
(`Action.WellTyped`), the contract is all that lenient decoding asks of it: an operation that meets
the contract becomes an action (`Action.succeeds_ofOperation`), and one that does not is refused
with what it lacks (`Action.outcome_ofOperation_of_lacks`).
-/

namespace SdkModel

open Logged (Succeeds succeeds_pure succeeds_map_iff bind_error_iff)

namespace Action

variable {rules : BuildRules} {method : HttpMethod} {url here : String} {operation : Entries}
variable {limit : Int} {gap : ContractGap} {v : Value}

/-! ## The contract -/

def methodKey : String := "x-cb-operation-method-name"

/-- Some key of the operation begins as the keys of extensions do. -/
def HasExtension (operation : Entries) : Prop :=
  ∃ key value, (Key.text key, value) ∈ operation ∧ Text.hasStart "x-" key = true

/-- The operation states a name for its method, and it is not empty. -/
def HasMethodName (operation : Entries) : Prop :=
  ∃ name, operation.get methodKey = .text name ∧ name ≠ ""

def MeetsContract (operation : Entries) : Prop := HasExtension operation ∧ HasMethodName operation

/-- What an operation lacks of its contract. The name is looked for among the extensions. -/
inductive Lacks (operation : Entries) : ContractGap → Prop
  | extensions (h : ¬ HasExtension operation) : Lacks operation .extensions
  | methodName (h : HasExtension operation) (hname : ¬ HasMethodName operation) :
      Lacks operation .methodName

/-- An operation lacks something when it does not meet the contract. -/
theorem exists_lacks_iff : (∃ gap, Lacks operation gap) ↔ ¬ MeetsContract operation := by
  constructor
  · rintro ⟨_, ⟨h⟩ | ⟨-, h⟩⟩ hmeets
    · exact h hmeets.1
    · exact h hmeets.2
  · intro h
    by_cases hextension : HasExtension operation
    · exact ⟨_, .methodName hextension fun hname => h ⟨hextension, hname⟩⟩
    · exact ⟨_, .extensions hextension⟩

theorem vendorEntries_eq_nil_iff : vendorEntries operation = [] ↔ ¬ HasExtension operation := by
  rw [vendorEntries, List.filterMap_eq_nil_iff]
  constructor
  · rintro h ⟨key, value, hmem, hstart⟩
    have hkept := h _ hmem
    simp [hstart] at hkept
  · intro h e he
    split
    · rename_i key hkey
      refine if_neg fun hstart => h ⟨key, e.2, ?_, hstart⟩
      rw [← hkey]
      exact he
    · rfl

theorem outcome_requireExtensions (h : HasExtension operation) :
    (requireExtensions url operation).outcome = .ok () := by
  rw [requireExtensions, if_neg]
  · rfl
  · rw [List.isEmpty_iff, vendorEntries_eq_nil_iff]
    exact not_not_intro h

/-- The name of the method is read as it is written. -/
theorem methodName_read_iff {name : String} :
    (OperationExtensions.read operation).value.methodName = some name ↔
      operation.get methodKey = .text name := by
  change (Reading.field operation methodKey none (Coercion.opt Coercion.text)).value = some name ↔ _
  unfold Reading.field Reading.fieldUnder Entries.get
  cases operation.get? (.text methodKey) with
  | none => simp
  | some v => cases v <;> simp [Coercion.opt, Coercion.text, Coercion.fault, Except.map]

/-- A method is named when its key holds a text that is not empty. -/
theorem filter_methodName_iff {extensions : OperationExtensions} {strict : Bool} {name : String}
    (hread : (decode OperationExtensions operation here strict).outcome = .ok extensions) :
    extensions.methodName.filter (· ≠ "") = some name ↔
      operation.get methodKey = .text name ∧ name ≠ "" := by
  have hvalue : (OperationExtensions.read operation).value = extensions := by
    change (ExtensionRecord.read operation : Reading OperationExtensions).value = _
    exact Schema.value_of_decode hread
  rw [← hvalue, Option.filter_eq_some_iff, methodName_read_iff, decide_eq_true_eq]

/-! ## Parts of an operation -/

/-- A content map, as far as it is given under the first of some media types. -/
def ContentWellTyped (limit : Int) (types : List String) (content : Value) : Prop :=
  content.IsOptionalObject ∧
    ∀ media schema,
      (types.findSome? fun t => (((content.entries?).getD []).get t).entries?) = some media →
      media.get "schema" = .object schema → Schema.WellTyped limit 0 schema

/-- A declared parameter. -/
structure ParameterWellTyped (limit : Int) (es : Entries) : Prop where
  schema : ∀ sub, es.get "schema" = .object sub → Schema.WellTyped limit 0 sub
  extensions : (SchemaExtensions.read es).faults = []

/-- An operation whose values are of the types that they are read as. -/
structure WellTyped (limit : Int) (operation : Entries) : Prop where
  id : (operation.get "operationId").isTelling = true → ∃ s, operation.get "operationId" = .text s
  extensions : (OperationExtensions.read operation).faults = []
  parameters : ∃ declared, (operation.get "parameters").parts = .ok declared ∧
    ∀ es, .object es ∈ declared → ParameterWellTyped limit es
  body : ∀ es : Entries, operation.get "requestBody" = .object es →
    ContentWellTyped limit [formType, jsonType] (es.get "content")
  success : ∀ es ok : Entries, operation.get "responses" = .object es →
    successResponse es = .object ok → ContentWellTyped limit [jsonType] (ok.get "content")

section Parts

variable (hstrict : rules.schemas.strict = false)
include hstrict

theorem succeeds_schemaAt
    (h : ∀ es, v = .object es → Schema.WellTyped rules.schemas.maxDepth 0 es) :
    (schemaAt rules here v).Succeeds := by
  cases v with
  | object es => exact succeeds_map_iff.2 ((Schema.succeeds_ofEntries_iff hstrict).2 (h es rfl))
  | _ => exact succeeds_pure none

theorem succeeds_bodySchema
    (h : ∀ es : Entries, v = .object es →
      ContentWellTyped rules.schemas.maxDepth [formType, jsonType] (es.get "content")) :
    (bodySchema rules here v).Succeeds := by
  cases v with
  | object es =>
    obtain ⟨hcontent, hmedia⟩ := h es rfl
    refine Value.succeeds_optionalEntries_bind hcontent ?_
    split
    · rename_i t media hfound
      refine succeeds_schemaAt hstrict fun schema hschema => hmedia media schema ?_ hschema
      have hsecond := congrArg (Option.map Prod.snd) hfound
      simpa [List.map_findSome?, Function.comp_def] using hsecond
    · exact succeeds_pure none
  | _ => exact succeeds_pure none

theorem succeeds_successSchema
    (h : ∀ es ok : Entries, v = .object es → successResponse es = .object ok →
      ContentWellTyped rules.schemas.maxDepth [jsonType] (ok.get "content")) :
    (successSchema rules here v).Succeeds := by
  cases v with
  | object es =>
    unfold successSchema
    simp only [Value.entries?]
    cases hok : successResponse es with
    | object ok =>
      obtain ⟨hcontent, hmedia⟩ := h es ok rfl hok
      refine Value.succeeds_optionalEntries_bind hcontent ?_
      split
      · rename_i media hfound
        refine succeeds_schemaAt hstrict fun schema hschema => hmedia media schema ?_ hschema
        rw [List.findSome?_singleton]
        exact hfound
      · exact succeeds_pure none
    | _ => exact succeeds_pure none
  | _ => exact succeeds_pure none

theorem succeeds_parameter {es : Entries} (h : ParameterWellTyped rules.schemas.maxDepth es) :
    (parameter rules here es).Succeeds := by
  unfold parameter
  rw [hstrict]
  refine (succeeds_schemaAt hstrict h.schema).bind fun _ _ => ?_
  exact Succeeds.bind (succeeds_decode_iff.2 h.extensions) fun _ _ => succeeds_pure _

theorem succeeds_parametersFrom {declared : List Entries} {index : Nat}
    (h : ∀ es ∈ declared, ParameterWellTyped rules.schemas.maxDepth es) :
    (parametersFrom rules here index declared).Succeeds := by
  induction declared generalizing index with
  | nil => exact succeeds_pure []
  | cons es rest ih =>
    refine (succeeds_parameter hstrict (h es List.mem_cons_self)).bind fun _ _ => ?_
    exact (ih fun es hes => h es (List.mem_cons_of_mem _ hes)).bind fun _ _ => succeeds_pure _

/-- A well-typed operation is built, whatever its extensions and its name are. -/
theorem succeeds_ofParts {extensions : OperationExtensions} {name : String}
    (h : WellTyped rules.schemas.maxDepth operation) :
    (ofParts rules method url operation extensions name).Succeeds := by
  obtain ⟨declared, hdeclared, hparameters⟩ := h.parameters
  refine Succeeds.bind ⟨_, hdeclared⟩ fun found hfound => ?_
  obtain rfl : declared = found := Except.ok.inj (hdeclared.symm.trans hfound)
  refine (succeeds_bodySchema hstrict h.body).bind fun _ _ => ?_
  refine (succeeds_successSchema hstrict h.success).bind fun _ _ => ?_
  refine Succeeds.bind (succeeds_parametersFrom hstrict fun es hes => ?_) fun _ _ => succeeds_pure _
  obtain ⟨w, hw, hes⟩ := List.mem_filterMap.1 hes
  cases w with
  | object fs =>
    obtain rfl : fs = es := Option.some.inj hes
    exact hparameters fs hw
  | _ => cases hes

end Parts

/-! ## Actions -/

/-- The id of an operation, as far as it has one. -/
def operationId? (operation : Entries) : Option String :=
  (operation.get "operationId").text?.filter (· ≠ "")

theorem idText_eq (h : WellTyped limit operation) :
    idText (operation.get "operationId") = .ok (operationId? operation) := by
  unfold idText operationId?
  split
  · rename_i htelling
    obtain ⟨s, hs⟩ := h.id htelling
    rw [hs] at htelling ⊢
    exact congrArg Except.ok (if_pos htelling).symm
  · rename_i hsilent
    cases hid : operation.get "operationId" with
    | text s =>
      rw [hid] at hsilent
      exact congrArg Except.ok (if_neg hsilent).symm
    | _ => rfl

/-- A gap is reported with the id of the operation, which is read as a text. -/
theorem outcome_contractError {α : Type} (h : WellTyped limit operation) :
    (contractError gap url (operation.get "operationId") : Build α).outcome =
      .error (.contract gap url (operationId? operation)) :=
  bind_error_iff.2 (.inr ⟨_, idText_eq h, rfl⟩)

/-- An operation that meets its contract becomes an action. -/
theorem succeeds_ofOperation (hstrict : rules.schemas.strict = false)
    (h : WellTyped rules.schemas.maxDepth operation) (hmeets : MeetsContract operation) :
    (ofOperation rules method url operation).Succeeds := by
  rw [ofOperation_eq, hstrict]
  refine Succeeds.bind ⟨(), outcome_requireExtensions hmeets.1⟩ fun _ _ => ?_
  refine Succeeds.bind (succeeds_decode_iff.2 h.extensions) fun extensions hread => ?_
  refine Succeeds.bind ?_ fun _ _ => succeeds_ofParts hstrict h
  obtain ⟨name, hname⟩ := hmeets.2
  rw [requireName, (filter_methodName_iff hread).2 hname]
  exact succeeds_pure name

/-- An operation that lacks a part of its contract is refused with what it lacks. -/
theorem outcome_ofOperation_of_lacks (hstrict : rules.schemas.strict = false)
    (h : WellTyped rules.schemas.maxDepth operation) (hlacks : Lacks operation gap) :
    (ofOperation rules method url operation).outcome =
      .error (.contract gap url (operationId? operation)) := by
  rw [ofOperation_eq, hstrict]
  cases hlacks with
  | extensions hnone =>
    refine bind_error_iff.2 (.inl ?_)
    rw [requireExtensions, vendorEntries_eq_nil_iff.2 hnone]
    exact outcome_contractError h
  | methodName hsome hnone =>
    have hdecode : (decode OperationExtensions operation (place method url) false).Succeeds :=
      succeeds_decode_iff.2 h.extensions
    obtain ⟨extensions, hread⟩ := hdecode
    have hname : extensions.methodName.filter (· ≠ "") = none :=
      Option.eq_none_iff_forall_ne_some.2 fun name hname =>
        hnone ⟨name, (filter_methodName_iff hread).1 hname⟩
    refine bind_error_iff.2 (.inr ⟨(), outcome_requireExtensions hsome, ?_⟩)
    refine bind_error_iff.2 (.inr ⟨extensions, hread, bind_error_iff.2 (.inl ?_)⟩)
    rw [requireName, hname]
    exact outcome_contractError h

end Action

end SdkModel
