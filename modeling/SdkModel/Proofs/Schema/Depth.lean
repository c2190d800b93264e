import SdkModel.Proofs.Schema.Traversal

/-!
# The depth limit of schemas

The depth limit is exact and shows nowhere else. Of a schema whose nodes are all readable it is the
only thing that can refuse it: the schema is built when no path below its root is longer than the
limit, and it is the same schema under every such limit (`Schema.depth_limit_exact`).
-/

namespace SdkModel

open Logged (Succeeds bind_ok_iff failure?_eq_some_iff failure?_eq_none_iff)

/-! ## Answers that agree -/

namespace Logged

variable {ε α β : Type} {x y : Logged ε α} {f g : α → Logged ε β}

/-- Two computations answer the same wherever both answer. -/
def Agree (x y : Logged ε α) : Prop := ∀ a b, x.outcome = .ok a → y.outcome = .ok b → a = b

theorem agree_pure (a : α) : Agree (pure a : Logged ε α) (pure a) := by
  intro _ _ ha hb
  exact Except.ok.inj (ha.symm.trans hb)

/-- Computations that agree step by step agree. -/
theorem Agree.bind (h : Agree x y) (hfg : ∀ a, Agree (f a) (g a)) :
    Agree (x >>= f) (y >>= g) := by
  intro c d hc hd
  obtain ⟨a, ha, hc⟩ := bind_ok_iff.1 hc
  obtain ⟨b, hb, hd⟩ := bind_ok_iff.1 hd
  obtain rfl := h a b ha hb
  exact hfg a c d hc hd

theorem Agree.map (h : Agree x y) (k : α → β) : Agree (k <$> x) (k <$> y) :=
  h.bind fun a => agree_pure (k a)

end Logged

open Logged (Agree agree_pure)

namespace Schema

variable {rules rules' : SchemaRules} {depth depth' : Nat} {place place' : String}
variable {es : Entries} {v : Value}

/-! ## One schema for all limits -/

/-- The limit has no part in how a node is assembled. -/
theorem agree_assemble (properties : Option (List (String × Schema)))
    (additional : Option (Additional Schema)) (items : Option Schema) :
    Agree (assemble rules place es properties additional items)
      (assemble rules' place' es properties additional items) := by
  intro s t hs ht
  rw [eq_nodeOf_of_assemble hs, eq_nodeOf_of_assemble ht]

theorem agree_childProperties (ih : ∀ ps, v = .object ps →
      Agree (ofProperties rules depth place ps) (ofProperties rules' depth' place' ps)) :
    Agree (childProperties rules depth place v) (childProperties rules' depth' place' v) := by
  cases v with
  | object ps => exact (ih ps rfl).map _
  | _ => exact agree_pure _

theorem agree_childAdditional (ih : ∀ sub, v = .object sub →
      Agree (ofEntries rules (depth + 1) (place ++ "/additionalProperties") sub)
        (ofEntries rules' (depth' + 1) (place' ++ "/additionalProperties") sub)) :
    Agree (childAdditional rules depth place v) (childAdditional rules' depth' place' v) := by
  cases v with
  | object sub => exact (ih sub rfl).map _
  | _ => exact agree_pure _

theorem agree_childItems (ih : ∀ sub, v = .object sub →
      Agree (ofEntries rules (depth + 1) (place ++ "/items") sub)
        (ofEntries rules' (depth' + 1) (place' ++ "/items") sub)) :
    Agree (childItems rules depth place v) (childItems rules' depth' place' v) := by
  cases v with
  | object sub => exact (ih sub rfl).map _
  | _ => exact agree_pure _

/-- A schema depends on its node alone, not on the rules and the place that it is built under. -/
theorem agree_ofEntries : Agree (ofEntries rules depth place es)
    (ofEntries rules' depth' place' es) := by
  refine ofEntries.induct
    (fun depth place es => ∀ depth' place',
      Agree (ofEntries rules depth place es) (ofEntries rules' depth' place' es))
    (fun depth place ps => ∀ depth' place',
      Agree (ofProperties rules depth place ps) (ofProperties rules' depth' place' ps))
    ?_ ?_ ?_ ?_ depth place es depth' place'
  · intro depth place es hproperties hadditional hitems depth' place'
    rw [ofEntries_eq, ofEntries_eq]
    have hdepth : Agree (checkDepth rules depth place) (checkDepth rules' depth' place') :=
      fun _ _ _ _ => rfl
    exact hdepth.bind fun _ =>
      (agree_childProperties fun ps hps => hproperties ps hps _ _).bind fun _ =>
      (agree_childAdditional fun sub hsub => hadditional sub hsub _ _).bind fun _ =>
      (agree_childItems fun sub hsub => hitems sub hsub _ _).bind fun _ => agree_assemble _ _ _
  · intro depth place depth' place'
    rw [ofProperties, ofProperties]
    exact agree_pure []
  · intro depth place k es rest hnode hrest depth' place'
    rw [ofProperties, ofProperties]
    exact (hnode _ _).bind fun node => (hrest _ _).map _
  · rintro depth place ⟨k, v⟩ rest hhead hrest depth' place'
    have hskip : ∀ es, v ≠ .object es := fun es hv => hhead k es (congrArg (Prod.mk k) hv)
    rw [ofProperties_cons_skip hskip, ofProperties_cons_skip hskip]
    exact hrest _ _

/-! ## Depth -/

/-- No path below a node is longer than a number. -/
def Within (n : Int) (es : Entries) : Prop :=
  ∀ path node, NodeAt es path node → (path.length : Int) ≤ n

/-- Each step down a path takes something off the entries. -/
theorem length_add_sizeOf_le {path : List ChildStep} {node : Entries} (h : NodeAt es path node) :
    path.length + sizeOf node ≤ sizeOf es := by
  induction h with
  | root es => exact Nat.le_of_eq (Nat.zero_add _)
  | child hchild _ ih =>
    have hlt := sizeOf_childNode_lt hchild
    rw [List.length_cons]
    omega

/-- No node is deeper than the entries are large. -/
theorem within_sizeOf (es : Entries) : Within (sizeOf es) es := by
  intro path node hnode
  have hle := length_add_sizeOf_le hnode
  omega

/-- What holds of all nodes holds of the root and of all nodes below its children. -/
theorem forall_nodeAt_iff {P : List ChildStep → Entries → Prop} :
    (∀ path node, NodeAt es path node → P path node) ↔ P [] es ∧
      ∀ c ∈ childNodes es, ∀ path node, NodeAt c.2 path node → P (c.1 :: path) node := by
  constructor
  · intro h
    exact ⟨h [] es (.root es), fun c hc path node hnode => h _ _ (.child hc hnode)⟩
  · rintro ⟨hroot, hbelow⟩ path node hnode
    cases hnode with
    | root => exact hroot
    | child hc hnode => exact hbelow _ hc _ _ hnode

/-! ## Readable nodes -/

/-- A node whose own extensions and own fields are in order, whatever its children are. -/
structure Readable (strict : Bool) (place : String) (node : Entries) : Prop where
  extensions : (decode SchemaExtensions node place strict).Succeeds
  fields : (readFields node).faults = []

/-- All that can be wrong with a readable node is that it is too deep. -/
theorem Check.failure?_of_readable {c : Check} {f : Failure}
    (h : Readable rules.strict (placeAt place c.path) c.node)
    (hfails : c.failure? rules place = some f) :
    rules.maxDepth < c.path.length ∧ f = .depth rules.maxDepth (placeAt place c.path) := by
  obtain ⟨aspect, path, node⟩ := c
  cases aspect with
  | depth =>
    obtain ⟨hdeep, hf⟩ := Option.ite_none_right_eq_some.1 hfails
    exact ⟨hdeep, (Option.some.inj hf).symm⟩
  | extensions =>
    have hnone := failure?_eq_none_iff.2 h.extensions
    rw [failure?_decode] at hnone
    cases hnone.symm.trans hfails
  | fields =>
    exact absurd h.fields (Failure.eq_of_ofFaults? hfails).2

variable {n : Int} {strict : Bool}

/-- Where all nodes are readable, building succeeds just within the limit. -/
theorem succeeds_iff_within
    (h : ∀ path node, NodeAt es path node → Readable strict (placeAt place path) node) :
    (ofEntries ⟨n, strict⟩ 0 place es).Succeeds ↔ Within n es := by
  rw [← failure?_eq_none_iff, failure?_ofEntries_root, firstFailure?,
    List.findSome?_eq_none_iff]
  constructor
  · intro hpasses path node hnode
    have hdepth := hpasses _ (mem_checks_of_nodeAt hnode [] .depth)
    by_contra hdeep
    cases (if_pos (Int.not_le.1 hdeep)).symm.trans hdepth
  · intro hwithin c hc
    obtain ⟨path, hnode, hpath⟩ := mem_checks_iff.1 hc
    obtain rfl : c.path = path := hpath
    cases hfails : c.failure? ⟨n, strict⟩ place with
    | none => rfl
    | some f =>
      obtain ⟨hdeep, -⟩ := Check.failure?_of_readable (h _ _ hnode) hfails
      exact absurd (hwithin _ _ hnode) (Int.not_le.2 hdeep)

/-- Where all nodes are readable, the only failure is that of the depth. -/
theorem depth_of_error {f : Failure}
    (h : ∀ path node, NodeAt es path node → Readable strict (placeAt place path) node)
    (herror : (ofEntries ⟨n, strict⟩ 0 place es).outcome = .error f) : ∃ p, f = .depth n p := by
  rw [← failure?_eq_some_iff, failure?_ofEntries_root] at herror
  obtain ⟨c, hc, hfails⟩ := List.exists_of_findSome?_eq_some herror
  obtain ⟨path, hnode, hpath⟩ := mem_checks_iff.1 hc
  obtain rfl : c.path = path := hpath
  exact ⟨_, (Check.failure?_of_readable (h _ _ hnode) hfails).2⟩

/-- **The depth limit is exact and otherwise invisible.** A schema whose nodes are readable is
built into one and the same schema under every limit that no path below its root exceeds, and is
refused for its depth under every other limit. -/
theorem depth_limit_exact (strict : Bool) (place : String) (es : Entries)
    (h : ∀ path node, NodeAt es path node → Readable strict (placeAt place path) node) :
    ∃ s, ∀ n : Int,
      (Within n es ↔ (ofEntries ⟨n, strict⟩ 0 place es).outcome = .ok s) ∧
      (¬ Within n es ↔ ∃ p, (ofEntries ⟨n, strict⟩ 0 place es).outcome = .error (.depth n p)) := by
  obtain ⟨s, hs⟩ := (succeeds_iff_within h).2 (within_sizeOf es)
  refine ⟨s, fun n => ⟨?_, ?_⟩⟩
  · rw [← succeeds_iff_within h]
    constructor
    · rintro ⟨t, ht⟩
      obtain rfl := agree_ofEntries s t hs ht
      exact ht
    · exact fun hok => ⟨s, hok⟩
  · rw [← succeeds_iff_within h]
    constructor
    · intro hfails
      cases houtcome : (ofEntries ⟨n, strict⟩ 0 place es).outcome with
      | ok t => exact absurd ⟨t, houtcome⟩ hfails
      | error f =>
        obtain ⟨p, rfl⟩ := depth_of_error h houtcome
        exact ⟨p, rfl⟩
    · rintro ⟨p, herror⟩
      exact Logged.not_succeeds_of_error herror

/-- An object with a list of tags, two levels below its root. -/
def tagNode : Entries := [(.text "type", .text "string")]

def tagListNode : Entries := [(.text "type", .text "array"), (.text "items", .object tagNode)]

def taggedNode : Entries :=
  [(.text "properties", .object [(.text "tags", .object tagListNode), (.text "note", .null)])]

theorem forall_taggedNode_iff {P : List ChildStep → Entries → Prop} :
    (∀ path node, NodeAt taggedNode path node → P path node) ↔
      P [] taggedNode ∧ P [.property "tags"] tagListNode ∧ P [.property "tags", .items] tagNode := by
  have hroot : childNodes taggedNode = [(.property "tags", tagListNode)] := rfl
  have hlist : childNodes tagListNode = [(.items, tagNode)] := rfl
  have hleaf : childNodes tagNode = [] := rfl
  rw [forall_nodeAt_iff, hroot, List.forall_mem_singleton, forall_nodeAt_iff, hlist,
    List.forall_mem_singleton, forall_nodeAt_iff, hleaf]
  simp only [List.not_mem_nil, false_implies, implies_true, and_true]

theorem depth_limit_taggedNode :
    (∀ path node, NodeAt taggedNode path node → Readable false (placeAt "#" path) node) ∧
    ∃ s, (ofEntries ⟨2, false⟩ 0 "#" taggedNode).outcome = .ok s ∧
      ∃ p, (ofEntries ⟨1, false⟩ 0 "#" taggedNode).outcome = .error (.depth 1 p) := by
  have hreadable : ∀ path node, NodeAt taggedNode path node →
      Readable false (placeAt "#" path) node :=
    forall_taggedNode_iff.2 ⟨⟨succeeds_decode_iff.2 rfl, rfl⟩, ⟨succeeds_decode_iff.2 rfl, rfl⟩,
      ⟨succeeds_decode_iff.2 rfl, rfl⟩⟩
  have hwithin (n : Int) : Within n taggedNode ↔ 0 ≤ n ∧ 1 ≤ n ∧ 2 ≤ n := forall_taggedNode_iff
  obtain ⟨s, hs⟩ := depth_limit_exact false "#" taggedNode hreadable
  exact ⟨hreadable, s, (hs 2).1.1 ((hwithin 2).2 (by decide)),
    (hs 1).2.1 fun h => absurd ((hwithin 1).1 h) (by decide)⟩

end Schema

end SdkModel
