import Mathlib
import SdkModel.Proofs.Logged
import SdkModel.Spec.Basic

/-!
# Schemas and specs built quietly

A node whose vendor keys are all known and whose fields have no faults is built without a record
in the log, once its properties are. A document is built so when it resolves to itself and its
version, its schemas and its actions are.

Many modules run such a document with `cbv`. It unfolds the functions of the library by equations
that stand in all parts of it, so the library is imported whole here.
-/

namespace SdkModel

open Logged (Quiet Writes quiet_iff quiet_pure_iff quiet_bind_iff)

variable {es ps : Entries} {place : String} {strict : Bool}

/-! ## Extensions -/

theorem quiet_checkKeys {known keys : List String} (h : ∀ key ∈ keys, key ∈ known) :
    Quiet (checkKeys known place strict keys) () := by
  induction keys with
  | nil => rfl
  | cons key keys ih =>
    have hread : Quiet (checkKey known place strict key) () := by
      rw [checkKey, keyVerdict, if_pos (h key List.mem_cons_self)]
      rfl
    exact quiet_bind_iff.2 ⟨(), hread, ih fun k hk => h k (List.mem_cons_of_mem _ hk)⟩

theorem quiet_decode {ρ : Type} [ExtensionRecord ρ] {record : ρ}
    (hkeys : ∀ key ∈ (vendorEntries es).map (·.1), key ∈ recordKeys ρ)
    (hread : (ExtensionRecord.read es).result = .ok record) :
    Quiet (decode ρ es place strict) record := by
  refine quiet_bind_iff.2 ⟨(), quiet_checkKeys hkeys, ?_⟩
  simp only [hread]
  rfl

namespace Schema

variable {rules : SchemaRules} {depth : Nat} {s : Schema} {properties : List (String × Schema)}

/-! ## Children -/

/-- The nodes of the properties of a node; none where there is no property map. -/
def childProperties (rules : SchemaRules) (depth : Nat) (place : String) :
    Value → Build (Option (List (String × Schema)))
  | .object ps => (some ∘ Assoc.ofPairs) <$> ofProperties rules depth place ps
  | _ => pure none

def childAdditional (rules : SchemaRules) (depth : Nat) (place : String) :
    Value → Build (Option (Additional Schema))
  | .object sub =>
    (some ∘ Additional.shaped) <$>
      ofEntries rules (depth + 1) (place ++ "/additionalProperties") sub
  | .bool b => pure (some (Additional.allowed b))
  | _ => pure none

def childItems (rules : SchemaRules) (depth : Nat) (place : String) : Value → Build (Option Schema)
  | .object sub => some <$> ofEntries rules (depth + 1) (place ++ "/items") sub
  | _ => pure none

/-- A node is assembled from what its three kinds of children are built into. -/
theorem ofEntries_eq : ofEntries rules depth place es = (do
    checkDepth rules depth place
    let properties ← childProperties rules depth place (es.get "properties")
    let additional ← childAdditional rules depth place (es.get "additionalProperties")
    let items ← childItems rules depth place (es.get "items")
    assemble rules place es properties additional items) := by
  rw [ofEntries]
  refine congrArg (checkDepth rules depth place >>= ·) (funext fun _ => ?_)
  refine congrArg₂ (· >>= ·) ?_ (funext fun _ => congrArg₂ (· >>= ·) ?_ (funext fun _ =>
    congrArg₂ (· >>= ·) ?_ rfl))
  · unfold childProperties
    split <;> simp_all
  · unfold childAdditional
    split <;> simp_all
  · unfold childItems
    split <;> simp_all

/-! ## Nodes -/

/-- The node that entries without additional properties and items are built into, when the vendor
keys are known and neither the extensions nor the fields have faults. -/
def faultless? (es : Entries) (properties : Option (List (String × Schema))) : Option Schema :=
  match es.get "additionalProperties", es.get "items", (SchemaExtensions.read es).result,
    (readFields es).result with
  | .null, .null, .ok extensions, .ok fields =>
    if (vendorEntries es).all fun e => (recordKeys SchemaExtensions).contains e.1 then
      some { fields with
        type := typeOf (es.get "type")
        enum := match es.get "enum" with
          | .list vs => some vs
          | _ => none
        properties, extensions, additional := none, items := none }
    else none
  | _, _, _, _ => none

/-- Faultless entries are assembled quietly, and hold neither additional properties nor items. -/
theorem quiet_assemble_of_faultless? {properties : Option (List (String × Schema))}
    (h : faultless? es properties = some s) :
    (es.get "additionalProperties" = .null ∧ es.get "items" = .null) ∧
      Quiet (assemble rules place es properties none none) s := by
  unfold faultless? at h
  split at h
  case h_1 extensions fields hadditional hitems hread hfields =>
    obtain ⟨hall, hs⟩ := Option.ite_none_right_eq_some.1 h
    cases hs
    have hkeys : ∀ key ∈ (vendorEntries es).map (·.1), key ∈ recordKeys SchemaExtensions :=
      List.forall_mem_map.2 fun e he => List.contains_iff_mem.1 (List.all_eq_true.1 hall e he)
    refine ⟨⟨hadditional, hitems⟩, quiet_bind_iff.2 ⟨extensions, quiet_decode hkeys hread, ?_⟩⟩
    rw [hfields]
    rfl
  case h_2 => cases h

theorem quiet_checkDepth (h : (depth : Int) ≤ rules.maxDepth) :
    Quiet (checkDepth rules depth place) () := by
  rw [checkDepth, if_neg (Int.not_lt.2 h)]
  rfl

/-- Faultless entries without children. -/
theorem quiet_leaf (hdepth : (depth : Int) ≤ rules.maxDepth) (hp : es.get "properties" = .null)
    (h : faultless? es none = some s) : Quiet (ofEntries rules depth place es) s := by
  obtain ⟨⟨ha, hi⟩, hs⟩ := quiet_assemble_of_faultless? h
  rw [ofEntries_eq, hp, ha, hi]
  exact quiet_bind_iff.2 ⟨(), quiet_checkDepth hdepth, quiet_bind_iff.2 ⟨none, rfl,
    quiet_bind_iff.2 ⟨none, rfl, quiet_bind_iff.2 ⟨none, rfl, hs⟩⟩⟩⟩

/-- Faultless entries with properties that are built quietly. -/
theorem quiet_object (hdepth : (depth : Int) ≤ rules.maxDepth)
    (hp : es.get "properties" = .object ps)
    (hps : Quiet (ofProperties rules depth place ps) properties)
    (h : faultless? es (some (Assoc.ofPairs properties)) = some s) :
    Quiet (ofEntries rules depth place es) s := by
  obtain ⟨⟨ha, hi⟩, hs⟩ := quiet_assemble_of_faultless? h
  have hchild : Quiet (childProperties rules depth place (.object ps))
      (some (Assoc.ofPairs properties)) := Logged.quiet_map_iff.2 ⟨_, hps, rfl⟩
  rw [ofEntries_eq, hp, ha, hi]
  exact quiet_bind_iff.2 ⟨(), quiet_checkDepth hdepth, quiet_bind_iff.2 ⟨_, hchild,
    quiet_bind_iff.2 ⟨none, rfl, quiet_bind_iff.2 ⟨none, rfl, hs⟩⟩⟩⟩

theorem quiet_ofProperties_nil : Quiet (ofProperties rules depth place []) [] := by
  rw [ofProperties]
  rfl

theorem quiet_ofProperties_cons {k : Key}
    (h : Quiet (ofEntries rules (depth + 1) (place ++ "/properties/" ++ k.display) es) s)
    (hrest : Quiet (ofProperties rules depth place ps) properties) :
    Quiet (ofProperties rules depth place ((k, .object es) :: ps)) ((k.display, s) :: properties) :=
  by
  rw [ofProperties]
  exact quiet_bind_iff.2 ⟨s, h, quiet_bind_iff.2 ⟨properties, hrest, rfl⟩⟩

end Schema

theorem Document.formatVersion_of_get {document : Entries} {version : String}
    (hold : document.has "swagger" = false) (hstated : document.has "openapi" = true)
    (hget : document.get "openapi" = .text version)
    (hversion : Text.hasStart "3." version = true) :
    Document.formatVersion document = .ok version := by
  rw [formatVersion, hold, hstated, hget]
  exact if_pos hversion

section

variable {config : GenerationConfig} {document : Entries} {format : String} {version : Version}
  {schemas : List (String × Schema)} {actions : List (String × List Action)}

/-- A document without references is built from its parts and writes what they write. -/
theorem Spec.writes_build {log log' log'' : Log}
    (hformat : Document.formatVersion document = .ok format)
    (hresolve : Quiet (Reference.resolve (.object document)) (.object document))
    (hversion : Writes (Version.resolve (document.get "info") config.strictExtensions) log version)
    (hschemas : Writes (buildSchemas (rulesOf config).schemas document) log' schemas)
    (hactions : Writes (buildActions (rulesOf config) document) log'' actions) :
    Writes (build config document) (log ++ (log' ++ log''))
      { document, config, version, schemas, actions } := by
  have hresolved : Writes (ofResolved config document) (log ++ (log' ++ (log'' ++ [])))
      { document, config, version, schemas, actions } :=
    hversion.bind (hschemas.bind (hactions.bind rfl))
  rw [List.append_nil] at hresolved
  unfold build
  rw [hformat]
  exact Quiet.bind rfl (hresolve.bind (Quiet.bind rfl hresolved))

theorem Spec.quiet_build (hformat : Document.formatVersion document = .ok format)
    (hresolve : Quiet (Reference.resolve (.object document)) (.object document))
    (hversion : Quiet (Version.resolve (document.get "info") config.strictExtensions) version)
    (hschemas : Quiet (buildSchemas (rulesOf config).schemas document) schemas)
    (hactions : Quiet (buildActions (rulesOf config) document) actions) :
    Quiet (build config document) { document, config, version, schemas, actions } := by
  have hspec := writes_build hformat hresolve hversion hschemas hactions
  exact hspec

end

/-- A document whose only component schema is a node that is built quietly. -/
theorem Spec.quiet_buildSchemas {rules : SchemaRules} {document : Entries} {name : String}
    {s : Schema} (hcomponents : document.get "components" =
      .object [(.text "schemas", .object [(.text name, .object es)])])
    (h : Quiet (Schema.ofEntries rules 0 ("#/components/schemas/" ++ name) es) s) :
    Quiet (buildSchemas rules document) [(name, s)] := by
  have hnodes : Quiet (schemasOf rules [(.text name, .object es)]) [(name, s)] :=
    quiet_bind_iff.2 ⟨s, h, rfl⟩
  unfold buildSchemas
  rw [hcomponents]
  exact quiet_bind_iff.2 ⟨_, rfl, quiet_bind_iff.2 ⟨_, rfl, quiet_bind_iff.2 ⟨_, hnodes, rfl⟩⟩⟩

end SdkModel
