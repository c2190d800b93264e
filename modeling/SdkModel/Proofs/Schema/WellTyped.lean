import SdkModel.Proofs.Schema.RedactedNode

/-!
# Well-typed schema nodes

A schema node is well typed within a limit when its fields and its extensions have values of the
types that they are read as, when it is not nested deeper than the limit, and when its children are
well typed one level below it. Lenient decoding builds exactly the well-typed nodes
(`Schema.succeeds_ofEntries_iff`).
-/

namespace SdkModel

/-! ## Computations that succeed -/

namespace Logged

variable {ε α β : Type} {x : Logged ε α} {f : α → Logged ε β}

/-- The computation ends with an answer. -/
def Succeeds (x : Logged ε α) : Prop := ∃ a, x.outcome = .ok a

theorem succeeds_pure (a : α) : (pure a : Logged ε α).Succeeds := ⟨a, rfl⟩

theorem not_succeeds_of_error {e : ε} (h : x.outcome = .error e) : ¬ x.Succeeds := by
  rintro ⟨a, ha⟩
  rw [h] at ha
  cases ha

/-- A sequence succeeds when both parts do, if the first answer does not matter to the second. -/
theorem succeeds_bind_iff {p : Prop} (h : ∀ a, x.outcome = .ok a → ((f a).Succeeds ↔ p)) :
    (x >>= f).Succeeds ↔ x.Succeeds ∧ p := by
  constructor
  · rintro ⟨b, hb⟩
    obtain ⟨a, ha, hb⟩ := bind_ok_iff.1 hb
    exact ⟨⟨a, ha⟩, (h a ha).1 ⟨b, hb⟩⟩
  · rintro ⟨⟨a, ha⟩, hp⟩
    obtain ⟨b, hb⟩ := (h a ha).2 hp
    exact ⟨b, bind_ok_iff.2 ⟨a, ha, hb⟩⟩

/-- What always succeeds after an answer does not matter. -/
theorem succeeds_bind_iff_left (h : ∀ a, (f a).Succeeds) : (x >>= f).Succeeds ↔ x.Succeeds :=
  (succeeds_bind_iff fun a _ => iff_true_intro (h a)).trans (iff_of_eq (and_true _))

theorem Succeeds.bind (hx : x.Succeeds) (h : ∀ a, x.outcome = .ok a → (f a).Succeeds) :
    (x >>= f).Succeeds :=
  (succeeds_bind_iff fun a ha => iff_true_intro (h a ha)).2 ⟨hx, trivial⟩

theorem succeeds_map_iff {g : α → β} : (g <$> x).Succeeds ↔ x.Succeeds := by
  constructor
  · rintro ⟨_, hb⟩
    obtain ⟨a, ha, -⟩ := map_ok_iff.1 hb
    exact ⟨a, ha⟩
  · rintro ⟨a, ha⟩
    exact ⟨g a, map_ok_iff.2 ⟨a, ha, rfl⟩⟩

/-- What follows an answer decides the failure. -/
theorem bind_error_of_ok {a : α} {e : ε} (h : x.outcome = .ok a) :
    (x >>= f).outcome = .error e ↔ (f a).outcome = .error e := by
  rw [bind_error_iff, h]
  simp

end Logged

open Logged (Succeeds succeeds_pure not_succeeds_of_error succeeds_bind_iff succeeds_bind_iff_left
  succeeds_map_iff)

variable {es ps : Entries} {place : String}

/-! ## Optional objects -/

namespace Value

variable {v : Value}

/-- An object, or a value that states nothing and stands for an empty one. -/
def IsOptionalObject (v : Value) : Prop := v.isTelling = true → v.isObject = true

theorem optionalEntries_eq (h : v.IsOptionalObject) :
    v.optionalEntries = .ok ((v.entries?).getD []) := by
  unfold optionalEntries
  cases v with
  | object es =>
    split
    · rfl
    · cases es with
      | nil => rfl
      | cons e es => exact absurd rfl ‹¬ _›
  | _ => exact if_neg fun htelling => Bool.false_ne_true (h htelling)

/-- What is neither has no entries, and none are asked of it without an error. -/
theorem optionalEntries_error {e : Failure} (h : v.optionalEntries = .error e) :
    e = .malformed .notMapping ∧ v.entries? = none := by
  cases v with
  | object es =>
    rw [optionalEntries_eq fun _ => rfl] at h
    cases h
  | _ =>
    unfold optionalEntries at h
    split at h
    · exact ⟨(Except.error.inj h).symm, rfl⟩
    · cases h

/-- What follows is asked of the entries of the object; of none, where there is no object. -/
theorem succeeds_optionalEntries_bind {β : Type} {f : Entries → Logged Failure β}
    (h : v.IsOptionalObject) (hf : (f ((v.entries?).getD [])).Succeeds) :
    (Logged.ofExcept v.optionalEntries >>= f).Succeeds := by
  have hentries := optionalEntries_eq h
  refine Succeeds.bind ⟨_, hentries⟩ fun es hok => ?_
  obtain rfl : (v.entries?).getD [] = es := Except.ok.inj (hentries.symm.trans hok)
  exact hf

end Value

/-! ## Extensions -/

theorem Reading.result_eq {α : Type} (r : Reading α) :
    r.result = if r.faults = [] then .ok r.value else .error r.faults := by
  unfold Reading.result
  cases r.faults <;> rfl

theorem succeeds_checkKeys (known : List String) (place : String) (keys : List String) :
    (checkKeys known place false keys).Succeeds := by
  induction keys with
  | nil => exact succeeds_pure ()
  | cons key keys ih =>
    have hkey : (checkKey known place false key).Succeeds := by
      unfold checkKey
      split <;> exact ⟨(), rfl⟩
    exact hkey.bind fun _ _ => ih

/-- Lenient decoding minds the values of the keys that it reads and nothing else. -/
theorem succeeds_decode_iff {ρ : Type} [ExtensionRecord ρ] :
    (decode ρ es place false).Succeeds ↔ (ExtensionRecord.read es : Reading ρ).faults = [] := by
  refine (succeeds_bind_iff fun _ _ => ?_).trans (and_iff_right (succeeds_checkKeys _ place _))
  rw [Reading.result_eq]
  by_cases h : (ExtensionRecord.read es : Reading ρ).faults = []
  · rw [if_pos h]
    exact iff_of_true (succeeds_pure _) h
  · rw [if_neg h]
    exact iff_of_false (not_succeeds_of_error rfl) h

namespace Schema

variable {rules : SchemaRules} {limit : Int} {depth : Nat}

/-! ## Nodes -/

/-- A node at a depth below the root of its schema whose values are of the types that they are read
as, with the nodes below it. -/
inductive WellTyped (limit : Int) : Nat → Entries → Prop
  | node {depth : Nat} {es : Entries} (within : (depth : Int) ≤ limit)
      (fields : (readFields es).faults = [])
      (extensions : (SchemaExtensions.read es).faults = [])
      (properties : ∀ ps, es.get "properties" = .object ps →
        ∀ k sub, (k, Value.object sub) ∈ ps → WellTyped limit (depth + 1) sub)
      (additional : ∀ sub, es.get "additionalProperties" = .object sub →
        WellTyped limit (depth + 1) sub)
      (items : ∀ sub, es.get "items" = .object sub → WellTyped limit (depth + 1) sub) :
      WellTyped limit depth es

theorem succeeds_checkDepth_iff :
    (checkDepth rules depth place).Succeeds ↔ (depth : Int) ≤ rules.maxDepth := by
  rw [checkDepth]
  split
  · exact iff_of_false (not_succeeds_of_error rfl) (by omega)
  · exact iff_of_true (succeeds_pure ()) (by omega)

theorem succeeds_assemble_iff {properties : Option (List (String × Schema))}
    {additional : Option (Additional Schema)} {items : Option Schema} (h : rules.strict = false) :
    (assemble rules place es properties additional items).Succeeds ↔
      (SchemaExtensions.read es).faults = [] ∧ (readFields es).faults = [] := by
  unfold assemble
  rw [h]
  refine (succeeds_bind_iff fun extensions _ => ?_).trans (and_congr_left' succeeds_decode_iff)
  rw [Reading.result_eq]
  by_cases hfields : (readFields es).faults = []
  · rw [if_pos hfields]
    exact iff_of_true (succeeds_pure _) hfields
  · rw [if_neg hfields]
    exact iff_of_false (not_succeeds_of_error rfl) hfields

/-- A node is well typed as its five parts are. -/
theorem wellTyped_iff : WellTyped limit depth es ↔ (depth : Int) ≤ limit ∧
    (∀ ps, es.get "properties" = .object ps →
      ∀ k sub, (k, Value.object sub) ∈ ps → WellTyped limit (depth + 1) sub) ∧
    (∀ sub, es.get "additionalProperties" = .object sub → WellTyped limit (depth + 1) sub) ∧
    (∀ sub, es.get "items" = .object sub → WellTyped limit (depth + 1) sub) ∧
    (SchemaExtensions.read es).faults = [] ∧ (readFields es).faults = [] := by
  constructor
  · rintro ⟨within, fields, extensions, properties, additional, items⟩
    exact ⟨within, properties, additional, items, extensions, fields⟩
  · rintro ⟨within, properties, additional, items, extensions, fields⟩
    exact ⟨within, fields, extensions, properties, additional, items⟩

/-- Lenient decoding builds exactly the well-typed nodes. -/
theorem succeeds_ofEntries_iff (h : rules.strict = false) :
    (ofEntries rules depth place es).Succeeds ↔ WellTyped rules.maxDepth depth es := by
  -- The induction is that of the builder, over nodes and property maps at once.
  refine ofEntries.induct
    (fun depth place es => (ofEntries rules depth place es).Succeeds ↔
      WellTyped rules.maxDepth depth es)
    (fun depth place ps => (ofProperties rules depth place ps).Succeeds ↔
      ∀ k sub, (k, Value.object sub) ∈ ps → WellTyped rules.maxDepth (depth + 1) sub)
    ?_ ?_ ?_ ?_ depth place es
  · intro depth place es hproperties hadditional hitems
    rw [ofEntries_eq, wellTyped_iff]
    refine (succeeds_bind_iff fun _ _ => ?_).trans (and_congr_left' succeeds_checkDepth_iff)
    refine (succeeds_bind_iff fun _ _ => ?_).trans (and_congr_left' ?_)
    · refine (succeeds_bind_iff fun _ _ => ?_).trans (and_congr_left' ?_)
      · refine (succeeds_bind_iff fun _ _ => succeeds_assemble_iff h).trans (and_congr_left' ?_)
        cases hi : es.get "items" with
        | object sub => simpa [childItems, succeeds_map_iff] using hitems sub hi
        | _ => simpa [childItems] using succeeds_pure _
      · cases ha : es.get "additionalProperties" with
        | object sub => simpa [childAdditional, succeeds_map_iff] using hadditional sub ha
        | _ => simpa [childAdditional] using succeeds_pure _
    · cases hp : es.get "properties" with
      | object ps => simpa [childProperties, succeeds_map_iff] using hproperties ps hp
      | _ => simpa [childProperties] using succeeds_pure _
  · intro depth place
    rw [ofProperties]
    exact iff_of_true (succeeds_pure []) fun _ _ hmem => absurd hmem List.not_mem_nil
  · intro depth place k es rest hnode hrest
    have hcons : (ofProperties rules depth place ((k, .object es) :: rest)).Succeeds ↔
        WellTyped rules.maxDepth (depth + 1) es ∧
          ∀ k sub, (k, Value.object sub) ∈ rest → WellTyped rules.maxDepth (depth + 1) sub := by
      rw [ofProperties, ← hnode, ← hrest]
      exact succeeds_bind_iff fun _ _ => succeeds_bind_iff_left fun _ => succeeds_pure _
    rw [hcons]
    simp only [List.mem_cons, Prod.mk.injEq, Value.object.injEq]
    constructor
    · rintro ⟨hes, hrest⟩ k' sub (⟨rfl, rfl⟩ | hmem)
      · exact hes
      · exact hrest k' sub hmem
    · exact fun hall => ⟨hall k es (.inl ⟨rfl, rfl⟩), fun k' sub hmem => hall k' sub (.inr hmem)⟩
  · rintro depth place ⟨k, v⟩ rest hhead hrest
    rw [ofProperties_cons_skip (fun es hv => hhead k es (congrArg (Prod.mk k) hv)), hrest]
    refine forall₂_congr fun k' sub => ⟨fun hwell hmem => ?_, fun hwell hmem => ?_⟩
    · rcases List.mem_cons.1 hmem with heq | hmem
      · exact absurd heq.symm (hhead k' sub)
      · exact hwell hmem
    · exact hwell (List.mem_cons_of_mem _ hmem)

end Schema

end SdkModel
