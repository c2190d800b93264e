import SdkModel.Proofs.Reference.Provenance
import SdkModel.Proofs.Schema.RedactedNode

/-!
# The mark of a broken cycle

A schema counts as left by a broken cycle when it has a reference and neither a type nor items nor
properties. The resolver decides otherwise: it leaves a node as it is when its reference is being
inlined already. The two agree (`Reference.MarksCycles`) exactly when what a reference is inlined to
states one of the three, what no reference was inlined in states one as well, and what a cycle
leaves states none (`Reference.marksCycles_iff`).
-/

namespace SdkModel

open Logged (Quiet quiet_iff)

namespace Schema

variable {rules : SchemaRules} {depth : Nat} {place r : String} {es fs : Entries} {s : Schema}
variable {v : Value}

/-! ## Nodes without a shape -/

/-- The node states no type, no items and no properties. -/
def Shapeless (es : Entries) : Prop :=
  typeOf (es.get "type") = none ∧ (es.get "items").entries? = none ∧
    (es.get "properties").entries? = none

/-- The schema is built from the node, wherever that stands. -/
def BuiltFrom (es : Entries) (s : Schema) : Prop :=
  ∃ rules depth place, (ofEntries rules depth place es).outcome = .ok s

theorem isNone_of_childItems {items : Option Schema}
    (h : (childItems rules depth place v).outcome = .ok items) :
    items.isNone = v.entries?.isNone := by
  cases v with
  | object sub =>
    obtain ⟨node, -, rfl⟩ := Logged.map_ok_iff.1 h
    rfl
  | _ =>
    cases h
    rfl

theorem isNone_of_childProperties {properties : Option (List (String × Schema))}
    (h : (childProperties rules depth place v).outcome = .ok properties) :
    properties.isNone = v.entries?.isNone := by
  cases v with
  | object ps =>
    obtain ⟨nodes, -, rfl⟩ := Logged.map_ok_iff.1 h
    rfl
  | _ =>
    cases h
    rfl

/-- What the mark and the shape of a schema read off its node. -/
theorem fields_of_builtFrom (h : BuiltFrom es s) :
    s.type = typeOf (es.get "type") ∧ s.items.isNone = (es.get "items").entries?.isNone ∧
      s.properties.isNone = (es.get "properties").entries?.isNone ∧
      s.ref = (Reading.fieldUnder es referenceKey "ref" none (.opt .text)).value := by
  obtain ⟨rules, depth, place, h⟩ := h
  obtain ⟨properties, additional, items, hproperties, -, hitems, rfl⟩ := parts_of_ofEntries h
  exact ⟨rfl, isNone_of_childItems hitems, isNone_of_childProperties hproperties, rfl⟩

/-- A schema with a reference is marked when its node states no shape. -/
theorem isUnresolvedRef_iff (h : BuiltFrom es s) (hr : es.reference? = some r) :
    s.isUnresolvedRef = true ↔ Shapeless es := by
  obtain ⟨htype, hitems, hproperties, href⟩ := fields_of_builtFrom h
  have hsome : s.ref.isSome = true := by
    rw [href, Reading.fieldUnder, Reference.reference?_eq_some_iff.1 hr]
    rfl
  rw [isUnresolvedRef, hsome, htype, hitems, hproperties]
  simp only [Bool.true_and, Bool.and_eq_true, Option.isNone_iff_eq_none, and_assoc, Shapeless]

/-- A schema of entries without type, properties and items has no shape. -/
theorem shape_of_shapeless (h : BuiltFrom es s) (hnone : Shapeless es) : s.shape = .untyped := by
  obtain ⟨htype, hitems, -, -⟩ := fields_of_builtFrom h
  have hitems : s.items = none := by
    rw [← Option.isNone_iff_eq_none, hitems, hnone.2.1]
    rfl
  rw [shape, htype, hnone.1, hitems]
  rfl

theorem shapeless_congr
    (h : ∀ name, name ≠ referenceKey → es.get name = fs.get name) :
    Shapeless es ↔ Shapeless fs := by
  rw [Shapeless, Shapeless, h "type" (by decide), h "items" (by decide),
    h "properties" (by decide)]

theorem shapeless_nil : Shapeless [] := ⟨rfl, rfl, rfl⟩

/-- The node has no other key than that of its reference. -/
def OnlyReference (es : Entries) : Prop :=
  ∀ e ∈ es, e.1.same (.text referenceKey) = true

theorem shapeless_of_onlyReference (h : OnlyReference es) : Shapeless es := by
  refine (shapeless_congr fun name hname => ?_).2 shapeless_nil
  have hnone : es.get? (.text name) = none := by
    rw [← Option.not_isSome_iff_eq_none, Entries.isSome_get?_iff]
    rintro ⟨e, he, hsame⟩
    rw [Key.same_congr (h e he), Key.same_text, decide_eq_true_eq] at hsame
    exact hname hsame.symm
  rw [Entries.get, hnone]
  rfl

end Schema

namespace Reference

open Schema (BuiltFrom Shapeless OnlyReference)

variable {document result target : Value} {place : List Part} {branch : List String}
variable {es fs base answered others : Entries} {r : String} {s : Schema}

/-! ## The mark and the resolver -/

/-- A schema of a node whose reference names an object of the document. -/
structure Refers (document : Value) (es : Entries) (s : Schema) : Prop where
  target : ∃ r base, es.reference? = some r ∧ Pointer.follow document r = .ok (.object base)
  built : BuiltFrom es s

/-- The resolver left the node as it is because its reference was being inlined. -/
def LeftByCycle (document : Value) (place : List Part) (es : Entries) : Prop :=
  ∃ branch r, Made document [] document place branch (.answered (.object es)) ∧
    es.reference? = some r ∧ r ∈ branch

/-- In the resolved document the mark tells the nodes that a cycle left, and a node that has only
its reference is untyped. -/
structure MarksCycles (document result : Value) : Prop where
  marks : ∀ place es s, result.nodeAt? place = some (.object es) → Refers document es s →
    (s.isUnresolvedRef = true ↔ LeftByCycle document place es)
  untyped : ∀ place es s, result.nodeAt? place = some (.object es) → BuiltFrom es s →
    OnlyReference es → s.shape = .untyped

/-- The entries that stand for a node whose reference resolves to an object. -/
def merged (r : String) (base others : Entries) : Entries :=
  (base.overlay others).put (.text referenceKey) (.text r)

/-- The resolver inlines the reference of a node: it resolves to `base`, and the entries of the node
to `answered`. -/
def InlinedAt (document : Value) (place : List Part) (r : String) (base answered : Entries) :
    Prop :=
  ∃ branch es target, Made document [] document place branch (.answered (.object es)) ∧
    Entries.reference? es = some r ∧ r ∉ branch ∧ Pointer.follow document r = .ok target ∧
    Answers document (r :: branch) target (.object base) ∧
    Entries.Aligned (Answers document branch) es answered

/-- What is made at the place is no answer on a node with a reference. -/
def NotReferred (document : Value) (place : List Part) : Prop :=
  ∃ branch origin, Made document [] document place branch origin ∧
    ∀ es r, origin = .answered (.object es) → Entries.reference? es ≠ some r

/-- What a cycle leaves stands in the result as it is. -/
theorem nodeAt?_of_leftByCycle (hanswer : Answers document [] document result)
    (h : LeftByCycle document place es) : result.nodeAt? place = some (.object es) := by
  obtain ⟨branch, r, hmade, hr, hc⟩ := h
  obtain ⟨w, hw, hshows⟩ := shows_of_made hmade .self hanswer
  rwa [(answers_cycle_iff (holds_of_made hmade .self) hr hc).1 hshows]

/-- What is inlined stands there with its siblings laid over the target. -/
theorem nodeAt?_of_inlinedAt (hanswer : Answers document [] document result)
    (h : InlinedAt document place r base answered) :
    result.nodeAt? place = some (.object (merged r base (siblings answered))) := by
  obtain ⟨branch, es, target, hmade, hr, hc, ht, hbase, hentries⟩ := h
  obtain ⟨w, hw, hshows⟩ := shows_of_made hmade .self hanswer
  have hmerge : Answers document branch (.object es)
      (merge r (.object base) (siblings answered)) :=
    (answers_reference_iff (holds_of_made hmade .self) hr hc).2
      ⟨target, _, answered, ht, hbase, hentries, rfl⟩
  rw [hw, hshows.unique hmerge]
  rfl

/-- No place is both left by a cycle and inlined. -/
theorem not_leftByCycle_of_inlinedAt (h : InlinedAt document place r base answered) :
    ¬ LeftByCycle document place fs := by
  rintro ⟨branch', r', hmade', hr', hc'⟩
  obtain ⟨branch, es, target, hmade, hr, hc, -⟩ := h
  obtain ⟨rfl, horigin⟩ := made_unique hmade hmade'
  cases horigin
  cases hr.symm.trans hr'
  exact hc hc'

theorem not_leftByCycle_of_notReferred (h : NotReferred document place) :
    ¬ LeftByCycle document place fs := by
  rintro ⟨branch', r', hmade', hr', -⟩
  obtain ⟨branch, origin, hmade, hnot⟩ := h
  obtain ⟨rfl, rfl⟩ := made_unique hmade hmade'
  exact hnot fs r' rfl hr'

/-- Every object of the result is left by a cycle, is inlined or has no reference of its own. -/
theorem left_or_inlined (hanswer : Answers document [] document result)
    (hfs : result.nodeAt? place = some (.object fs)) :
    LeftByCycle document place fs ∨
      (∃ r base answered, InlinedAt document place r base answered ∧
        fs = merged r base (siblings answered)) ∨
      NotReferred document place := by
  obtain ⟨branch, origin, hmade⟩ := made_of_nodeAt? .self hanswer hfs
  by_cases href : ∃ es r, origin = .answered (.object es) ∧ Entries.reference? es = some r
  · -- The node is of the document, so the stack of its branch decides what became of it.
    obtain ⟨es, r, rfl, hr⟩ := href
    obtain ⟨w, hw, hshows⟩ := shows_of_made hmade .self hanswer
    cases hw.symm.trans hfs
    have hnode := holds_of_made hmade .self
    by_cases hc : r ∈ branch
    · cases (answers_cycle_iff hnode hr hc).1 hshows
      exact .inl ⟨branch, r, hmade, hr, hc⟩
    · obtain ⟨target, w, answered, ht, hanswers, hentries, hmerge⟩ :=
        (answers_reference_iff hnode hr hc).1 hshows
      obtain ⟨base, rfl⟩ := object_of_merge hmerge
      exact .inr (.inl ⟨r, base, answered,
        ⟨branch, es, target, hmade, hr, hc, ht, hanswers, hentries⟩,
        (Value.object.inj hmerge).symm⟩)
  · exact .inr (.inr ⟨branch, origin, hmade, fun es r horigin hr => href ⟨es, r, horigin, hr⟩⟩)

theorem shapeless_merged_iff : Shapeless (merged r base others) ↔
    Shapeless (base.overlay others) := by
  refine Schema.shapeless_congr fun name hname => ?_
  rw [Entries.get, merged, Entries.get?_put, Key.same_text, decide_eq_false hname.symm,
    if_neg Bool.false_ne_true]
  rfl

/-- A schema with a reference is marked when it has no shape. -/
theorem isUnresolvedRef_of_refers (h : Refers document es s) :
    s.isUnresolvedRef = true ↔ Shapeless es := by
  obtain ⟨r, -, hr, -⟩ := h.target
  exact Schema.isUnresolvedRef_iff h.built hr

/-- **When the mark tells the broken cycles.** It does exactly when the schemas that a cycle leaves
state no shape next to their reference, when each reference that is inlined comes to an object that
states one, by itself or by the entries next to the reference, and when the schemas with a
reference that the resolver did not see as one state a shape as well. -/
theorem marksCycles_iff (hres : (resolve document).outcome = .ok result) :
    MarksCycles document result ↔
      (∀ place es s, LeftByCycle document place es → Refers document es s → Shapeless es) ∧
      (∀ place r base answered s, InlinedAt document place r base answered →
        Refers document (merged r base (siblings answered)) s →
          ¬ Shapeless (base.overlay (siblings answered))) ∧
      ∀ place es s, NotReferred document place → result.nodeAt? place = some (.object es) →
        Refers document es s → ¬ Shapeless es := by
  have hanswer : Answers document [] document result := answers_resolve.2 hres
  constructor
  · intro h
    refine ⟨fun place es s hleft hrefers => ?_, fun place r base answered s hinlined hrefers => ?_,
      fun place es s hnot hes hrefers hnone => ?_⟩
    · have hmark := h.marks place es s (nodeAt?_of_leftByCycle hanswer hleft) hrefers
      exact (isUnresolvedRef_of_refers hrefers).1 (hmark.2 hleft)
    · rw [← shapeless_merged_iff (r := r)]
      intro hnone
      have hmark := h.marks place _ s (nodeAt?_of_inlinedAt hanswer hinlined) hrefers
      exact not_leftByCycle_of_inlinedAt hinlined
        (hmark.1 ((isUnresolvedRef_of_refers hrefers).2 hnone))
    · have hmark := h.marks place es s hes hrefers
      exact not_leftByCycle_of_notReferred hnot
        (hmark.1 ((isUnresolvedRef_of_refers hrefers).2 hnone))
  · rintro ⟨hleft, hinlined, hnot⟩
    refine ⟨fun place fs s hfs hrefers => ?_, fun place es s _ hbuilt honly =>
      Schema.shape_of_shapeless hbuilt (Schema.shapeless_of_onlyReference honly)⟩
    rw [isUnresolvedRef_of_refers hrefers]
    rcases left_or_inlined hanswer hfs with hcycle | ⟨r, base, answered, hat, rfl⟩ | hno
    · exact iff_of_true (hleft place fs s hcycle hrefers) hcycle
    · rw [shapeless_merged_iff]
      exact iff_of_false (hinlined place r base answered s hat hrefers)
        (not_leftByCycle_of_inlinedAt hat)
    · exact iff_of_false (hnot place fs s hno hfs hrefers) (not_leftByCycle_of_notReferred hno)

/-- A faultless node without children is a schema. -/
theorem refers_of_leaf (hr : es.reference? = some r)
    (ht : Pointer.follow document r = .ok (.object base)) (hp : es.get "properties" = .null)
    (h : Schema.faultless? es none = some s) : Refers document es s := by
  have hquiet : Quiet (Schema.ofEntries {} 0 "#" es) s := Schema.quiet_leaf (by decide) hp h
  exact ⟨⟨r, base, hr, ht⟩, {}, 0, "#", (quiet_iff.1 hquiet).2⟩

/-- A reference to the schema that it stands in, with a type next to it. -/
def typedNode : Entries := [(.text "$ref", .text "#/a"), (.text "type", .text "object")]

def typedCycle : Value := .object [(.text "a", .object [(.text "of", .object typedNode)])]

def resolvedTypedCycle : Value :=
  .object [(.text "a", .object [(.text "of", .object [(.text "of", .object typedNode),
    (.text "type", .text "object"), (.text "$ref", .text "#/a")])])]

theorem resolve_typedCycle : (resolve typedCycle).outcome = .ok resolvedTypedCycle := by
  have hdocument : Value.Holds typedCycle typedCycle := .self
  have ha := (holds_entry (k := .text "a") (.head _)).trans hdocument
  have hof := (holds_entry (k := .text "of") (.head _)).trans ha
  have href := (holds_entry (k := .text "$ref") (.head _)).trans hof
  have htype := (holds_entry (k := .text "type") (.tail _ (.head _))).trans hof
  have hcycle : Answers typedCycle ["#/a"] (.object typedNode) (.object typedNode) :=
    (answers_cycle_iff hof rfl (.head _)).2 rfl
  have htarget := (answers_plain_iff ha rfl).2 ⟨_, Entries.aligned_cons hcycle .nil, rfl⟩
  have hentries : Entries.Aligned (Answers typedCycle []) typedNode typedNode :=
    Entries.aligned_cons (answers_text href) (Entries.aligned_cons (answers_text htype) .nil)
  have hnode := (answers_reference_iff hof rfl List.not_mem_nil).2
    ⟨_, _, _, rfl, htarget, hentries, rfl⟩
  have hfirst := (answers_plain_iff ha rfl).2 ⟨_, Entries.aligned_cons hnode .nil, rfl⟩
  exact answers_resolve.1
    ((answers_plain_iff hdocument rfl).2 ⟨_, Entries.aligned_cons hfirst .nil, rfl⟩)

theorem leftByCycle_typedNode :
    LeftByCycle typedCycle [.entry (.text "a"), .entry (.text "of"), .entry (.text "of")]
      typedNode := by
  have hkept : Kept typedNode (.entry (.text "of")) := by
    rintro k hk
    cases hk
    exact ⟨by cbv, by decide +kernel⟩
  refine ⟨["#/a"], "#/a", .entry (by cbv) (by cbv) (.entry (by cbv) (by cbv) ?_), by cbv,
    List.mem_cons_self⟩
  exact .target (by cbv) List.not_mem_nil (by cbv) hkept (.entry (by cbv) (by cbv) .here)

/-- A node that a cycle leaves is not marked when a type stands next to its reference. -/
theorem marksCycles_iff_typedCycle :
    (resolve typedCycle).outcome = .ok resolvedTypedCycle ∧
      ¬ MarksCycles typedCycle resolvedTypedCycle := by
  refine ⟨resolve_typedCycle, fun h => ?_⟩
  have hrefers : Refers typedCycle typedNode { type := some "object", ref := some "#/a" } :=
    refers_of_leaf (by cbv) (by cbv) rfl rfl
  have hnone := ((marksCycles_iff resolve_typedCycle).1 h).1 _ _ _ leftByCycle_typedNode hrefers
  cases hnone.1

/-- A reference to a schema that has values only. -/
def valuesOnly : Value :=
  .object [(.text "a", .object [(.text "$ref", .text "#/b")]),
    (.text "b", .object [(.text "enum", .list [.text "red"])])]

def resolvedValuesOnly : Value :=
  .object [(.text "a", .object [(.text "enum", .list [.text "red"]), (.text "$ref", .text "#/b")]),
    (.text "b", .object [(.text "enum", .list [.text "red"])])]

/-- A schema that is inlined is marked when it has values only. -/
theorem not_forall_marksCycles : ¬ ∀ document result,
    (resolve document).outcome = .ok result → MarksCycles document result := by
  intro h
  have hres : (resolve valuesOnly).outcome = .ok resolvedValuesOnly := by cbv
  let es : Entries := [(.text "enum", .list [.text "red"]), (.text "$ref", .text "#/b")]
  let s : Schema := { enum := some [.text "red"], ref := some "#/b" }
  have hrefers : Refers valuesOnly es s := refers_of_leaf (by cbv) (by cbv) rfl rfl
  have hmade : Made valuesOnly [] valuesOnly [.entry (.text "a")] []
      (.answered (.object [(.text "$ref", .text "#/b")])) := .entry (by cbv) (by cbv) .here
  obtain ⟨branch, r, hleft, -, hc⟩ :=
    ((h _ _ hres).marks [.entry (.text "a")] es s (by cbv) hrefers).1 rfl
  obtain ⟨rfl, -⟩ := made_unique hmade hleft
  cases hc

end Reference

end SdkModel
