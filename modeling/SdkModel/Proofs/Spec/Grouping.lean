import SdkModel.Proofs.Action.Build
import SdkModel.Proofs.Spec.Owners
import SdkModel.Proofs.Spec.TwoResources

/-!
# Operations grouped under resources

A document declares each operation at one site, a path and a method. Building keeps the actions in
the order of their sites and groups them by the resource id that the operation carries
(`Spec.exists_builtActions`). A resource takes the group of its id, but for what is hidden, so that
every operation whose id has an owner that is not dropped is an action of that resource once and of
no other one (`Spec.exists_groupsOperations`).
-/

namespace SdkModel

open Logged (bind_ok_iff)

/-- Where a document declares an operation: the position of its path, and the method. -/
structure OperationSite where
  path : Nat
  method : HttpMethod
deriving DecidableEq

/-- The order of the paths, `GET` before `POST` at one path. -/
def OperationSite.Before (s t : OperationSite) : Prop :=
  s.path < t.path ∨ s.path = t.path ∧ s.method = .get ∧ t.method = .post

theorem OperationSite.Before.ne {s t : OperationSite} (h : s.Before t) : s ≠ t := by
  rintro rfl
  rcases h with h | ⟨-, hget, hpost⟩
  · exact absurd h (Nat.lt_irrefl _)
  · exact absurd (hget.symm.trans hpost) (by decide)

/-! ## Groups -/

namespace Assoc

variable {α : Type} {groups : List (String × List α)} {name n : String} {a : α}

theorem lookup_addTo : (addTo groups name a).lookup n =
    if n = name then some ((groups.lookup n).getD [] ++ [a]) else groups.lookup n := by
  induction groups with
  | nil => exact lookup_cons_ite name n [a] []
  | cons g groups ih =>
    obtain ⟨m, as⟩ := g
    rw [addTo]
    by_cases hm : m = name
    · subst hm
      rw [if_pos rfl, lookup_cons_ite, lookup_cons_ite]
      by_cases hn : n = m
      · rw [if_pos hn, if_pos hn, if_pos hn, Option.getD_some]
      · rw [if_neg hn, if_neg hn, if_neg hn]
    · rw [if_neg hm, lookup_cons_ite, lookup_cons_ite, ih]
      by_cases hn : n = m
      · rw [if_pos hn, if_pos hn, if_neg (hn ▸ hm)]
      · rw [if_neg hn, if_neg hn]

end Assoc

namespace Spec

variable {spec : Spec} {config : GenerationConfig} {document items : Entries} {rules : BuildRules}
variable {r : Resource} {id url : String} {p : String × Schema} {s : OperationSite}
variable {operation : Entries} {a : Action}

/-- The group of an id is what the pairs put under it, in their order. -/
theorem lookup_groupActions (pairs : List (String × Action)) (id : String) :
    ((groupActions pairs).lookup id).getD [] = (pairs.filter (·.1 = id)).map (·.2) := by
  have hfold (pairs : List (String × Action)) (groups : List (String × List Action)) :
      ((pairs.foldl (fun groups p => Assoc.addTo groups p.1 p.2) groups).lookup id).getD [] =
        (groups.lookup id).getD [] ++ (pairs.filter (·.1 = id)).map (·.2) := by
    induction pairs generalizing groups with
    | nil => exact (List.append_nil _).symm
    | cons q pairs ih =>
      rw [List.foldl_cons, ih, Assoc.lookup_addTo, List.filter_cons]
      by_cases hid : id = q.1
      · rw [if_pos hid, if_pos (decide_eq_true hid.symm), Option.getD_some, List.map_cons,
          List.append_assoc, List.singleton_append]
      · rw [if_neg hid, if_neg (by simpa using fun h => hid h.symm)]
  exact hfold pairs []

/-- The operations are built one by one, and each action with an id is paired with it. -/
theorem actions_of_actionsOf {operations : List (String × HttpMethod × Entries)}
    {pairs : List (String × Action)} (h : (actionsOf rules operations).outcome = .ok pairs) :
    ∃ actions, List.Forall₂ (fun o a => (Action.ofOperation rules o.2.1 o.1 o.2.2).outcome = .ok a)
        operations actions ∧
      pairs = actions.filterMap fun a => a.resourceId?.map fun id => (id, a) := by
  induction operations generalizing pairs with
  | nil => exact ⟨[], .nil, (Except.ok.inj h).symm⟩
  | cons o rest ih =>
    obtain ⟨url, method, operation⟩ := o
    obtain ⟨a, ha, h⟩ := bind_ok_iff.1 h
    cases hid : a.resourceId? with
    | none =>
      rw [hid] at h
      obtain ⟨_, -, h⟩ := bind_ok_iff.1 h
      obtain ⟨actions, hactions, rfl⟩ := ih h
      exact ⟨a :: actions, .cons ha hactions, by rw [List.filterMap_cons, hid]; rfl⟩
    | some id =>
      rw [hid] at h
      obtain ⟨others, hothers, h⟩ := bind_ok_iff.1 h
      obtain ⟨actions, hactions, rfl⟩ := ih hothers
      refine ⟨a :: actions, .cons ha hactions, ?_⟩
      rw [← Except.ok.inj h, List.filterMap_cons, hid]
      rfl

theorem lookup_groupActions_filterMap (actions : List Action) (id : String) :
    ((groupActions (actions.filterMap fun a => a.resourceId?.map fun i => (i, a))).lookup id).getD
      [] = actions.filter (·.resourceId? = some id) := by
  rw [lookup_groupActions, List.filter_filterMap, List.map_filterMap, ← List.filterMap_eq_filter]
  refine congrArg (actions.filterMap ·) (funext fun a => ?_)
  rw [Option.guard]
  cases a.resourceId? with
  | none => simp
  | some i => by_cases h : i = id <;> simp [h]

/-! ## Sites -/

/-- The operation that is declared at a site, with the url of its path. -/
def operationAt? (paths : Entries) (s : OperationSite) : Option (String × Entries) := do
  let path ← paths[s.path]?
  let item ← path.2.entries?
  let operation ← (item.get s.method.key).entries?
  return (path.1.display, operation)

/-- The operations of all paths with their sites. -/
def sitedOperations (paths : Entries) : List (OperationSite × String × Entries) :=
  paths.zipIdx.flatMap fun p =>
    ((p.1.2.entries?.map operationsOf).getD []).map fun o => (⟨p.2, o.1⟩, p.1.1.display, o.2)

theorem operations_eq (paths : Entries) :
    operations paths = (sitedOperations paths).map fun t => (t.2.1, t.1.method, t.2.2) := by
  have hpaths : operations paths = operations (paths.zipIdx.map Prod.fst) := by
    rw [List.zipIdx_map_fst]
  rw [hpaths, operations, List.flatMap_map, sitedOperations, List.map_flatMap]
  simp only [List.map_map]
  rfl

theorem mem_operationsOf_iff {item : Entries} {o : HttpMethod × Entries} :
    o ∈ operationsOf item ↔ (item.get o.1.key).entries? = some o.2 := by
  simp only [operationsOf, List.mem_filterMap, Option.map_eq_some_iff]
  constructor
  · rintro ⟨m, -, es, hes, rfl⟩
    exact hes
  · intro h
    exact ⟨o.1, by cases o.1 <;> decide, o.2, h, rfl⟩

/-- The list of sites holds every operation of the document. -/
theorem mem_sitedOperations_iff {t : OperationSite × String × Entries} :
    t ∈ sitedOperations items ↔ operationAt? items t.1 = some t.2 := by
  obtain ⟨⟨k, m⟩, url, operation⟩ := t
  simp only [sitedOperations, operationAt?, List.mem_flatMap, List.mem_map,
    List.mem_zipIdx_iff_getElem?, Prod.exists, Option.bind_eq_bind, Option.bind_eq_some_iff,
    Option.pure_def, Option.some.injEq, Prod.mk.injEq, OperationSite.mk.injEq]
  constructor
  · rintro ⟨key, v, j, hpath, m', es, ho, ⟨rfl, rfl⟩, rfl, rfl⟩
    cases hitem : v.entries? with
    | none =>
      rw [hitem] at ho
      cases ho
    | some item =>
      rw [hitem] at ho
      exact ⟨key, v, hpath, item, hitem, es, mem_operationsOf_iff.1 ho, rfl, rfl⟩
  · rintro ⟨key, v, hpath, item, hitem, es, hes, rfl, rfl⟩
    refine ⟨key, v, k, hpath, m, es, ?_, ⟨rfl, rfl⟩, rfl, rfl⟩
    rw [hitem]
    exact mem_operationsOf_iff.2 hes

theorem pairwise_operationsOf (item : Entries) :
    (operationsOf item).Pairwise fun o o' => o.1 = .get ∧ o'.1 = .post := by
  rw [operationsOf, List.pairwise_filterMap, List.pairwise_pair]
  intro o ho o' ho'
  obtain ⟨_, -, rfl⟩ := Option.map_eq_some_iff.1 ho
  obtain ⟨_, -, rfl⟩ := Option.map_eq_some_iff.1 ho'
  exact ⟨rfl, rfl⟩

theorem pairwise_sitedOperations (paths : Entries) :
    ((sitedOperations paths).map (·.1)).Pairwise OperationSite.Before := by
  rw [List.pairwise_map, sitedOperations, List.pairwise_flatMap]
  constructor
  · rintro ⟨⟨key, v⟩, k⟩ -
    rw [List.pairwise_map]
    cases v.entries? with
    | none => exact List.Pairwise.nil
    | some item => exact (pairwise_operationsOf item).imp fun h => .inr ⟨rfl, h⟩
  · have hpositions : (paths.zipIdx.map Prod.snd).Pairwise (· < ·) := by
      rw [List.zipIdx_map_snd]
      exact List.pairwise_lt_range' 1
    refine (List.pairwise_map.1 hpositions).imp fun hlt t ht t' ht' => ?_
    obtain ⟨o, -, rfl⟩ := List.mem_map.1 ht
    obtain ⟨o', -, rfl⟩ := List.mem_map.1 ht'
    exact .inl hlt

/-! ## Built actions -/

/-- The paths of the document. -/
def paths (spec : Spec) : Entries := ((spec.document.get "paths").entries?).getD []

/-- The action is what the operation at a site is built into. -/
def IsBuiltAt (spec : Spec) (s : OperationSite) (a : Action) : Prop :=
  ∃ url operation, operationAt? spec.paths s = some (url, operation) ∧
    (Action.ofOperation (rulesOf spec.config) s.method url operation).outcome = .ok a

/-- The actions of a document, each with the site of its operation. -/
structure BuiltActions (spec : Spec) (built : List (OperationSite × Action)) : Prop where
  isBuiltAt : ∀ z ∈ built, spec.IsBuiltAt z.1 z.2
  ordered : (built.map (·.1)).Pairwise OperationSite.Before
  complete : ∀ s o, operationAt? spec.paths s = some o → s ∈ built.map (·.1)
  grouped : ∀ id, spec.actionsUnder id =
    (built.filter fun z => z.2.resourceId? = some id).map (·.2)

theorem buildActions_of_build (h : (build config document).outcome = .ok spec) :
    (buildActions (rulesOf spec.config) spec.document).outcome = .ok spec.actions := by
  obtain ⟨_, -, h⟩ := bind_ok_iff.1 h
  obtain ⟨_, -, h⟩ := bind_ok_iff.1 h
  obtain ⟨_, -, h⟩ := bind_ok_iff.1 h
  obtain ⟨_, -, h⟩ := bind_ok_iff.1 h
  obtain ⟨_, -, h⟩ := bind_ok_iff.1 h
  obtain ⟨_, hactions, h⟩ := bind_ok_iff.1 h
  cases h
  exact hactions

/-- Every operation of a built document has become an action, in the group of its id. -/
theorem exists_builtActions (h : (build config document).outcome = .ok spec) :
    ∃ built, spec.BuiltActions built := by
  obtain ⟨items, hitems, hactions⟩ := bind_ok_iff.1 (buildActions_of_build h)
  obtain ⟨pairs, hpairs, hactions⟩ := bind_ok_iff.1 hactions
  obtain ⟨actions, hbuilt, rfl⟩ := actions_of_actionsOf hpairs
  have hpaths : items = spec.paths := Value.optionalEntries_ok hitems
  have hgroups := (Except.ok.inj hactions).symm
  rw [hpaths, operations_eq, List.forall₂_map_left_iff] at hbuilt
  have hlength := hbuilt.length_eq
  have hsites : ((sitedOperations spec.paths).map (·.1)).length = actions.length := by
    rw [List.length_map, hlength]
  refine ⟨((sitedOperations spec.paths).map (·.1)).zip actions, fun z hz => ?_, ?_, ?_, ?_⟩
  · rw [List.zip_map_left] at hz
    obtain ⟨⟨t, a⟩, hta, rfl⟩ := List.mem_map.1 hz
    exact ⟨t.2.1, t.2.2, mem_sitedOperations_iff.1 (List.of_mem_zip hta).1,
      (List.forall₂_iff_zip.1 hbuilt).2 hta⟩
  · rw [List.map_fst_zip (Nat.le_of_eq hsites)]
    exact pairwise_sitedOperations _
  · intro s o ho
    rw [List.map_fst_zip (Nat.le_of_eq hsites)]
    exact List.mem_map_of_mem (mem_sitedOperations_iff (t := (s, o)).2 ho)
  · intro id
    rw [actionsUnder, hgroups, lookup_groupActions_filterMap]
    conv_lhs => rw [← List.map_snd_zip (Nat.le_of_eq hsites.symm), List.filter_map]
    rfl

/-! ## Actions of resources -/

theorem value_field_iff {es : Entries} {name text : String} :
    (Reading.field es name none (Coercion.opt Coercion.text)).value = some text ↔
      es.get name = .text text := by
  rw [Reading.field, Reading.fieldUnder, Entries.get]
  cases es.get? (.text name) with
  | none => constructor <;> intro h <;> cases h
  | some v =>
    cases v with
    | text t => exact ⟨fun h => congrArg Value.text (Option.some.inj h),
        fun h => congrArg some (Value.text.inj h)⟩
    | _ => constructor <;> intro h <;> cases h

/-- The id of an action is the one that its operation states. -/
theorem resourceId?_of_isBuiltAt (h : spec.IsBuiltAt s a)
    (ho : operationAt? spec.paths s = some (url, operation)) :
    a.resourceId? = some id ↔ operation.get "x-cb-resource-id" = .text id := by
  obtain ⟨url', operation', ho', ha⟩ := h
  cases ho.symm.trans ho'
  rw [Action.ofOperation_eq] at ha
  obtain ⟨_, -, ha⟩ := bind_ok_iff.1 ha
  obtain ⟨extensions, hextensions, ha⟩ := bind_ok_iff.1 ha
  obtain ⟨_, -, ha⟩ := bind_ok_iff.1 ha
  obtain ⟨_, -, ha⟩ := bind_ok_iff.1 ha
  obtain ⟨_, -, ha⟩ := bind_ok_iff.1 ha
  obtain ⟨_, -, ha⟩ := bind_ok_iff.1 ha
  obtain ⟨_, -, ha⟩ := bind_ok_iff.1 ha
  cases ha
  rw [Action.resourceId?, ← Schema.value_of_decode hextensions]
  exact value_field_iff

/-- The action is hidden when its operation is flagged so and the spec is not one of QA mode. -/
theorem isHidden_of_isBuiltAt (h : spec.IsBuiltAt s a) :
    a.isHidden = (a.extensions.hiddenFromSdk && !spec.qa) := by
  obtain ⟨_, _, -, ha⟩ := h
  rw [Action.isHidden, (Action.qa_of_ofOperation ha).1]
  rfl

/-- Among the built actions, those that a resource takes. -/
def takenBy (r : Resource) (built : List (OperationSite × Action)) :
    List (OperationSite × Action) :=
  built.filter fun z => z.2.resourceId? = r.id && !z.2.isHidden

section Taken

variable {built : List (OperationSite × Action)} (hbuilt : spec.BuiltActions built)

include hbuilt

theorem BuiltActions.actions_eq (hr : r ∈ spec.allResources) :
    r.actions = (takenBy r built).map (·.2) := by
  obtain ⟨id, p, hp, -, rfl⟩ := mem_allResources_iff.1 hr
  have hid : (spec.resourceAt p).id = some id := id_resourceAt hp
  have hactions : (spec.resourceAt p).actions = (spec.actionsUnder id).filter (!·.isHidden) := by
    rw [resourceAt, resourceOf, resourceId_of_owner? hp]
    rfl
  rw [hactions, hbuilt.grouped, takenBy, hid, List.filter_map, List.filter_filter]
  simp only [Function.comp_def, Bool.and_comm]

theorem BuiltActions.nodup_sites : (built.map (·.1)).Nodup :=
  hbuilt.ordered.imp fun h => h.ne

/-- No other action is built at the site of a built action. -/
theorem BuiltActions.mem_sites_takenBy {z : OperationSite × Action} (hz : z ∈ built) :
    z.1 ∈ (takenBy r built).map (·.1) ↔ z.2.resourceId? = r.id ∧ z.2.isHidden = false := by
  rw [List.mem_map]
  constructor
  · rintro ⟨y, hy, hsite⟩
    obtain ⟨hy, htaken⟩ := List.mem_filter.1 hy
    cases List.inj_on_of_nodup_map hbuilt.nodup_sites hy hz hsite
    simpa using htaken
  · intro htaken
    exact ⟨z, List.mem_filter.2 ⟨hz, by simpa using htaken⟩, rfl⟩

theorem BuiltActions.count_takenBy {z : OperationSite × Action} (hz : z ∈ built)
    (hid : z.2.resourceId? = r.id) :
    ((takenBy r built).map (·.1)).count z.1 = if z.2.isHidden then 0 else 1 := by
  have hnodup : ((takenBy r built).map (·.1)).Nodup :=
    hbuilt.nodup_sites.sublist (List.filter_sublist.map _)
  have hmem := hbuilt.mem_sites_takenBy (r := r) hz
  cases hhidden : z.2.isHidden with
  | true =>
    refine List.count_eq_zero.2 fun h => ?_
    cases hhidden.symm.trans (hmem.1 h).2
  | false => exact List.count_eq_one_of_mem hnodup (hmem.2 ⟨hid, hhidden⟩)

end Taken

/-- The actions of the resources of a spec with the sites that their operations stand at. -/
structure GroupsOperations (spec : Spec) (origin : Resource → List OperationSite) : Prop where
  /-- Every action is built from an operation that states the id of its resource. -/
  built : ∀ r ∈ spec.allResources,
    List.Forall₂ (fun s a => spec.IsBuiltAt s a ∧ a.resourceId? = r.id) (origin r) r.actions
  ordered : ∀ r ∈ spec.allResources, (origin r).Pairwise OperationSite.Before
  /-- Every operation whose id has an owner that is not dropped is in the resource of that owner
  only, once, and not at all when it is hidden. -/
  placed : ∀ s url operation id p, operationAt? spec.paths s = some (url, operation) →
    operation.get "x-cb-resource-id" = .text id → spec.owner? id = some p →
    p.2.isThirdParty spec.qa = false →
    ∃ a, spec.IsBuiltAt s a ∧ ∃ r ∈ spec.allResources,
      r.name = p.1 ∧ r.schema = p.2 ∧ r.id = some id ∧
      (origin r).count s = (if a.extensions.hiddenFromSdk && !spec.qa then 0 else 1) ∧
      ∀ r' ∈ spec.allResources, s ∈ origin r' → r' = r
  ids : (spec.allResources.map (·.id)).Nodup

/-- **The operations of a built document are grouped under its resources without loss and without
repetition.** -/
theorem exists_groupsOperations (h : (build config document).outcome = .ok spec) :
    ∃ origin, spec.GroupsOperations origin := by
  obtain ⟨built, hbuilt⟩ := exists_builtActions h
  refine ⟨fun r => (takenBy r built).map (·.1), fun r hr => ?_, fun r hr => ?_, ?_,
    nodup_ids_allResources spec⟩
  · rw [hbuilt.actions_eq hr, List.forall₂_map_left_iff, List.forall₂_map_right_iff,
      List.forall₂_same]
    intro z hz
    obtain ⟨hz, htaken⟩ := List.mem_filter.1 hz
    exact ⟨hbuilt.isBuiltAt z hz, of_decide_eq_true (Bool.and_eq_true_iff.1 htaken).1⟩
  · exact hbuilt.ordered.sublist (List.filter_sublist.map _)
  · intro s url operation id p ho hid howner hthird
    obtain ⟨⟨s, a⟩, hz, rfl⟩ := List.mem_map.1 (hbuilt.complete s _ ho)
    have ha := hbuilt.isBuiltAt _ hz
    have haid : a.resourceId? = some id := (resourceId?_of_isBuiltAt ha ho).2 hid
    have hr : spec.resourceAt p ∈ spec.allResources :=
      mem_allResources_iff.2 ⟨id, p, howner, hthird, rfl⟩
    have hrid := id_resourceAt howner
    refine ⟨a, ha, _, hr, rfl, rfl, hrid, ?_, fun r' hr' hs => ?_⟩
    · rw [← isHidden_of_isBuiltAt ha]
      exact hbuilt.count_takenBy hz (haid.trans hrid.symm)
    · have hr'id := ((hbuilt.mem_sites_takenBy hz).1 hs).1
      exact eq_of_id_eq hr' hr (hr'id.symm.trans (haid.trans hrid.symm))

/-- Outside QA mode the resource of trips has the action that lists them and not the one that
creates them, which is hidden. -/
theorem exists_groupsOperations_trips :
    (build {} (tripDocument false placesEntries)).outcome =
        .ok (tripSpec false false placesEntries places) ∧
      ∃ origin, (tripSpec false false placesEntries places).GroupsOperations origin ∧
        ∃ r ∈ (tripSpec false false placesEntries places).allResources,
          r.id = some "trip" ∧ (origin r).count ⟨0, .get⟩ = 1 ∧
          (origin r).count ⟨0, .post⟩ = 0 := by
  have hbuild := build_placesDocument false
  have hlist := (Logged.quiet_iff.1 (quiet_listEntries false)).2
  have hcreate := (Logged.quiet_iff.1 (quiet_createEntries false)).2
  obtain ⟨origin, horigin⟩ := exists_groupsOperations hbuild
  refine ⟨hbuild, origin, horigin, ?_⟩
  obtain ⟨list, ⟨_, _, hat, hbuilt⟩, r, hr, -, -, hid, hcount, -⟩ :=
    horigin.placed ⟨0, .get⟩ "/trips" listEntries "trip" ("Trip", tripSchema places)
      rfl rfl rfl rfl
  obtain ⟨create, ⟨_, _, hat', hbuilt'⟩, r', hr', -, -, hid', hcount', -⟩ :=
    horigin.placed ⟨0, .post⟩ "/trips" createEntries "trip" ("Trip", tripSchema places)
      rfl rfl rfl rfl
  cases hat
  cases hat'
  cases hbuilt.symm.trans hlist
  cases hbuilt'.symm.trans hcreate
  cases eq_of_id_eq hr' hr (hid'.trans hid.symm)
  exact ⟨r, hr, hid, hcount, hcount'⟩

end Spec

end SdkModel
