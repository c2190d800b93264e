import SdkModel.Proofs.Action.Contract
import SdkModel.Proofs.Spec.Grouping

/-!
# Contract errors of a document

When everything else of a document is in order (`Spec.IsWellTyped`), building it ends in a contract
error exactly when one of its operations does not meet the contract, and the error is that of the
first such operation in the order of the paths, `GET` before `POST` (`Spec.build_contract_iff`).
Operations are built before they are grouped under resources, so neither the resource id of an
operation nor anything that hides it matters.
-/

namespace SdkModel

open Logged (Succeeds succeeds_pure not_succeeds_of_error succeeds_bind_iff succeeds_bind_iff_left
  bind_error_iff bind_error_of_ok)

namespace Spec

variable {rules : BuildRules} {config : GenerationConfig} {document resolved paths : Entries}
variable {gap : ContractGap} {url : String} {id : Option String} {failure : Failure}

/-! ## The first refusal -/

/-- A list of operations is refused as the first of them is that is refused. -/
theorem actionsOf_error {operations : List (String × HttpMethod × Entries)}
    (h : (actionsOf rules operations).outcome = .error failure) :
    ∃ before o after, operations = before ++ o :: after ∧
      (∀ b ∈ before, (Action.ofOperation rules b.2.1 b.1 b.2.2).Succeeds) ∧
      (Action.ofOperation rules o.2.1 o.1 o.2.2).outcome = .error failure := by
  induction operations with
  | nil => cases h
  | cons o rest ih =>
    rcases bind_error_iff.1 h with hfirst | ⟨action, hfirst, h⟩
    · exact ⟨[], o, rest, rfl, nofun, hfirst⟩
    · have hrest : (actionsOf rules rest).outcome = .error failure := by
        cases hid : action.resourceId? with
        | none =>
          rw [hid] at h
          rcases bind_error_iff.1 h with h | ⟨_, -, h⟩
          · cases h
          · exact h
        | some id =>
          rw [hid] at h
          rcases bind_error_iff.1 h with h | ⟨_, -, h⟩
          · exact h
          · cases h
      obtain ⟨before, o', after, rfl, hbefore, ho'⟩ := ih hrest
      refine ⟨o :: before, o', after, rfl, fun b hb => ?_, ho'⟩
      rcases List.mem_cons.1 hb with rfl | hb
      · exact ⟨action, hfirst⟩
      · exact hbefore b hb

/-- A list of operations is built when each of them is. -/
theorem succeeds_actionsOf_iff {operations : List (String × HttpMethod × Entries)} :
    (actionsOf rules operations).Succeeds ↔
      ∀ o ∈ operations, (Action.ofOperation rules o.2.1 o.1 o.2.2).Succeeds := by
  induction operations with
  | nil => exact iff_of_true (succeeds_pure []) nofun
  | cons o rest ih =>
    rw [List.forall_mem_cons, ← ih, actionsOf]
    refine succeeds_bind_iff fun action _ => ?_
    cases action.resourceId? with
    | none => exact (succeeds_bind_iff fun _ _ => Iff.rfl).trans (and_iff_right ⟨(), rfl⟩)
    | some id =>
      exact succeeds_bind_iff_left fun _ => succeeds_pure _

/-- An operation that comes after some others stands at a site, and every other operation is one of
those or stands later. -/
theorem exists_site_of_operations_eq {before after : List (String × HttpMethod × Entries)}
    {o : String × HttpMethod × Entries} (h : operations paths = before ++ o :: after) :
    ∃ s, s.method = o.2.1 ∧ operationAt? paths s = some (o.1, o.2.2) ∧
      ∀ t p, operationAt? paths t = some p →
        (p.1, t.method, p.2) ∈ before ∨ t = s ∨ s.Before t := by
  rw [operations_eq] at h
  obtain ⟨sites, rest, hsites, rfl, hrest⟩ := List.map_eq_append_iff.1 h
  obtain ⟨⟨s, o⟩, later, rfl, rfl, -⟩ := List.map_eq_cons_iff.1 hrest
  have hmem {t : OperationSite} {p : String × Entries} :
      (t, p) ∈ sites ++ (s, o) :: later ↔ operationAt? paths t = some p := by
    rw [← hsites]
    exact mem_sitedOperations_iff
  have hlater : ∀ t ∈ later.map (·.1), s.Before t := by
    have hpairwise := pairwise_sitedOperations paths
    rw [hsites, List.map_append, List.map_cons] at hpairwise
    exact (List.pairwise_cons.1 (List.pairwise_append.1 hpairwise).2.1).1
  refine ⟨s, rfl, hmem.1 (List.mem_append_right _ List.mem_cons_self), fun t p hp => ?_⟩
  rcases List.mem_append.1 (hmem.2 hp) with hbefore | hrest
  · exact .inl (List.mem_map_of_mem hbefore)
  · rcases List.mem_cons.1 hrest with heq | hrest
    · exact .inr (.inl (congrArg Prod.fst heq))
    · exact .inr (.inr (hlater t (List.mem_map_of_mem hrest)))

/-! ## Lacking operations -/

/-- The operation at a site lacks a part of its contract, and all operations that lack one come
after it or at it. -/
structure IsFirstLacking (paths : Entries) (gap : ContractGap) (s : OperationSite)
    (o : String × Entries) : Prop where
  declared : operationAt? paths s = some o
  lacks : Action.Lacks o.2 gap
  first : ∀ t o', operationAt? paths t = some o' → ¬ Action.MeetsContract o'.2 →
    t = s ∨ s.Before t

section Operations

variable (hstrict : rules.schemas.strict = false)
  (hwell : ∀ s o, operationAt? paths s = some o →
    Action.WellTyped rules.schemas.maxDepth o.2)
include hstrict hwell

theorem succeeds_ofOperation_iff {s : OperationSite} {o : String × Entries}
    (ho : operationAt? paths s = some o) :
    (Action.ofOperation rules s.method o.1 o.2).Succeeds ↔ Action.MeetsContract o.2 := by
  constructor
  · intro hsucceeds
    by_contra hmeets
    obtain ⟨gap, hlacks⟩ := Action.exists_lacks_iff.2 hmeets
    exact not_succeeds_of_error
      (Action.outcome_ofOperation_of_lacks hstrict (hwell s o ho) hlacks) hsucceeds
  · exact Action.succeeds_ofOperation hstrict (hwell s o ho)

/-- The operations of well-typed paths are refused only for the first of them that lacks a part of
its contract. -/
theorem exists_isFirstLacking_of_error
    (h : (actionsOf rules (operations paths)).outcome = .error failure) :
    ∃ gap s o, IsFirstLacking paths gap s o ∧
      failure = .contract gap o.1 (Action.operationId? o.2) := by
  obtain ⟨before, ⟨url, _, operation⟩, after, hsplit, hbefore, hrefused⟩ := actionsOf_error h
  obtain ⟨s, rfl, hs, hrest⟩ := exists_site_of_operations_eq hsplit
  have hlacking : ¬ Action.MeetsContract operation :=
    mt (succeeds_ofOperation_iff hstrict hwell hs).2 (not_succeeds_of_error hrefused)
  obtain ⟨gap, hlacks⟩ := Action.exists_lacks_iff.2 hlacking
  refine ⟨gap, s, _, ⟨hs, hlacks, fun t o ho hmeets => ?_⟩, ?_⟩
  · -- What stands before the refused operation was built, so it lacks nothing.
    refine (hrest t o ho).resolve_left fun hbuilt => hmeets ?_
    exact (succeeds_ofOperation_iff hstrict hwell ho).1 (hbefore _ hbuilt)
  · exact Except.error.inj (hrefused.symm.trans
      (Action.outcome_ofOperation_of_lacks hstrict (hwell s _ hs) hlacks))

theorem actionsOf_error_iff :
    (∃ failure, (actionsOf rules (operations paths)).outcome = .error failure) ↔
      ∃ s o, operationAt? paths s = some o ∧ ¬ Action.MeetsContract o.2 := by
  constructor
  · rintro ⟨failure, h⟩
    obtain ⟨gap, s, o, hfirst, -⟩ := exists_isFirstLacking_of_error hstrict hwell h
    exact ⟨s, o, hfirst.declared, Action.exists_lacks_iff.1 ⟨gap, hfirst.lacks⟩⟩
  · rintro ⟨s, o, ho, hmeets⟩
    cases houtcome : (actionsOf rules (operations paths)).outcome with
    | error failure => exact ⟨failure, rfl⟩
    | ok pairs =>
      refine absurd ((succeeds_ofOperation_iff hstrict hwell ho).1 ?_) hmeets
      refine succeeds_actionsOf_iff.1 ⟨pairs, houtcome⟩ (o.1, s.method, o.2) ?_
      rw [operations_eq]
      exact List.mem_map.2 ⟨(s, o), mem_sitedOperations_iff.2 ho, rfl⟩

end Operations

/-! ## Documents -/

/-- The paths of a document; none where it has no object of paths. -/
def pathsOf (document : Entries) : Entries := ((document.get "paths").entries?).getD []

/-- A document of a supported format whose references resolve, whose info block and component
schemas decode, and whose operations have values of the types that they are read as. -/
structure IsWellTyped (config : GenerationConfig) (document resolved : Entries) : Prop where
  format : ∃ version, Document.formatVersion document = .ok version
  resolves : (Reference.resolve (.object document)).outcome = .ok (.object resolved)
  info : (Version.resolve (resolved.get "info") config.strictExtensions).Succeeds
  schemas : (buildSchemas (rulesOf config).schemas resolved).Succeeds
  operations : ∀ s o, operationAt? (pathsOf resolved) s = some o →
    Action.WellTyped config.maxSchemaDepth o.2

/-- Nothing of a well-typed document is refused but its operations. -/
theorem build_error_iff (h : IsWellTyped config document resolved) :
    (build config document).outcome = .error failure ↔
      (buildActions (rulesOf config) resolved).outcome = .error failure := by
  obtain ⟨⟨format, hformat⟩, hresolves, ⟨version, hversion⟩, ⟨schemas, hschemas⟩, -⟩ := h
  have hresolved : (ofResolved config resolved).outcome = .error failure ↔
      (buildActions (rulesOf config) resolved).outcome = .error failure := by
    refine (bind_error_of_ok hversion).trans ((bind_error_of_ok hschemas).trans ?_)
    refine bind_error_iff.trans (or_iff_left ?_)
    rintro ⟨_, -, h⟩
    cases h
  have hmapped : ((Document.formatVersion document).mapError Failure.document) = .ok format := by
    rw [hformat]
    rfl
  refine (bind_error_of_ok (x := Logged.ofExcept _) hmapped).trans ?_
  exact (bind_error_of_ok hresolves).trans
    ((bind_error_of_ok (x := Logged.ofExcept (Value.object resolved).requireEntries) rfl).trans
      hresolved)

/-- Paths that are no object are refused as such and declare no operation. -/
theorem buildActions_contract_iff :
    (buildActions rules document).outcome = .error (.contract gap url id) ↔
      (actionsOf rules (operations (pathsOf document))).outcome =
        .error (.contract gap url id) := by
  cases hpaths : (document.get "paths").optionalEntries with
  | ok items =>
    obtain rfl : items = pathsOf document := Value.optionalEntries_ok hpaths
    refine (bind_error_of_ok (x := Logged.ofExcept _) hpaths).trans ?_
    refine bind_error_iff.trans (or_iff_left ?_)
    rintro ⟨_, -, h⟩
    cases h
  | error e =>
    obtain ⟨rfl, hnone⟩ := Value.optionalEntries_error hpaths
    have hempty : pathsOf document = [] := by rw [pathsOf, hnone, Option.getD_none]
    have hmalformed : (buildActions rules document).outcome = .error (.malformed .notMapping) :=
      bind_error_iff.2 (.inl hpaths)
    rw [hmalformed, hempty]
    exact iff_of_false nofun nofun

/-- **Contract errors are raised exactly when an operation deserves one**: when some operation under
`GET` or `POST` has no extension or does not name its method. The error names the first such
operation, with what it lacks. -/
theorem build_contract_iff (hstrict : config.strictExtensions = false)
    (h : IsWellTyped config document resolved) :
    ((∃ gap url id, (build config document).outcome = .error (.contract gap url id)) ↔
      ∃ s o, operationAt? (pathsOf resolved) s = some o ∧ ¬ Action.MeetsContract o.2) ∧
    ∀ gap url id, (build config document).outcome = .error (.contract gap url id) →
      ∃ s o, IsFirstLacking (pathsOf resolved) gap s o ∧ url = o.1 ∧
        id = Action.operationId? o.2 := by
  have hactions {gap url id} : (build config document).outcome = .error (.contract gap url id) ↔
      (actionsOf (rulesOf config) (operations (pathsOf resolved))).outcome =
        .error (.contract gap url id) := (build_error_iff h).trans buildActions_contract_iff
  have hrefused : (∃ failure, (actionsOf (rulesOf config)
      (operations (pathsOf resolved))).outcome = .error failure) ↔
        ∃ s o, operationAt? (pathsOf resolved) s = some o ∧ ¬ Action.MeetsContract o.2 :=
    actionsOf_error_iff hstrict h.operations
  simp only [hactions]
  refine ⟨Iff.trans ⟨?_, ?_⟩ hrefused, fun gap url id herror => ?_⟩
  · rintro ⟨gap, url, id, herror⟩
    exact ⟨_, herror⟩
  · -- No refusal but that of a contract is left.
    rintro ⟨failure, herror⟩
    obtain ⟨gap, s, o, -, rfl⟩ := exists_isFirstLacking_of_error hstrict h.operations herror
    exact ⟨_, _, _, herror⟩
  · obtain ⟨gap', s, o, hfirst, heq⟩ :=
      exists_isFirstLacking_of_error hstrict h.operations herror
    cases heq
    exact ⟨s, o, hfirst, rfl, rfl⟩

/-- An operation that lists trips. -/
def listTrips : Entries := [(.text Action.methodKey, .text "list")]

/-- A hidden operation that does not name its method. -/
def makeTrip : Entries :=
  [(.text "operationId", .text "makeTrip"), (.text "x-cb-hidden-from-client-sdk", .bool true)]

/-- Trips may be listed and made, and an operation that carries nothing deletes them. -/
def unnamedDocument : Entries :=
  [(.text "openapi", .text "3.0.0"),
    (.text "paths", .object [(.text "/trips", .object [(.text "post", .object makeTrip),
      (.text "delete", .object []), (.text "get", .object listTrips)])])]

theorem wellTyped_of_mem_unnamedDocument {s : OperationSite} {o : String × Entries}
    (h : operationAt? (pathsOf unnamedDocument) s = some o) : Action.WellTyped 32 o.2 := by
  have hsites : sitedOperations (pathsOf unnamedDocument) =
      [(⟨0, .get⟩, "/trips", listTrips), (⟨0, .post⟩, "/trips", makeTrip)] := rfl
  have hmem := mem_sitedOperations_iff (t := (s, o)).2 h
  rw [hsites, List.mem_pair] at hmem
  rcases hmem with hget | hpost
  · cases hget
    exact ⟨nofun, rfl, ⟨[], rfl, nofun⟩, nofun, nofun⟩
  · cases hpost
    exact ⟨fun _ => ⟨"makeTrip", rfl⟩, rfl, ⟨[], rfl, nofun⟩, nofun, nofun⟩

theorem isWellTyped_unnamedDocument : IsWellTyped {} unnamedDocument unnamedDocument where
  format := ⟨"3.0.0", by decide⟩
  resolves := Reference.resolve_of_references rfl
  info := ⟨{}, rfl⟩
  schemas := ⟨[], rfl⟩
  operations _ _ := wellTyped_of_mem_unnamedDocument

/-- The operation without a name is refused, hidden as it is. -/
theorem build_contract_iff_unnamed : ∃ gap s o,
    (build {} unnamedDocument).outcome = .error (.contract gap o.1 (Action.operationId? o.2)) ∧
      IsFirstLacking (pathsOf unnamedDocument) gap s o := by
  obtain ⟨hiff, hfirst⟩ := build_contract_iff rfl isWellTyped_unnamedDocument
  obtain ⟨gap, url, id, h⟩ := hiff.2 ⟨⟨0, .post⟩, ("/trips", makeTrip), rfl, fun hmeets => by
    obtain ⟨name, hname, -⟩ := hmeets.2
    cases hname⟩
  obtain ⟨s, o, ho, rfl, rfl⟩ := hfirst gap url id h
  exact ⟨gap, s, o, h, ho⟩

end Spec

end SdkModel
