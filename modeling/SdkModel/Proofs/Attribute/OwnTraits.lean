import SdkModel.Proofs.Attribute.Items

/-!
# What an array says itself

What an array says itself counts before what its items say: its flags, its deprecation, its sort
order and its names. Two flags are read off the items alone, so that an array reports all of its
own exactly when its items carry those two wherever it does (`Schema.reportsOwn_classify_iff`).
-/

namespace SdkModel.Schema

variable {a i : Schema} {name : String} {qa : Bool}

theorem hasFlag_of_own {flag : SchemaExtensions → Bool} (h : flag a.extensions = true) :
    a.hasFlag flag = true := by
  rw [hasFlag, h]
  rfl

theorem ownOrItemName?_of_own {read : SchemaExtensions → Option String} {n : String}
    (h : read a.extensions = some n) : a.ownOrItemName? read = some n := by
  rw [ownOrItemName?, h]
  rfl

theorem sortOrder_of_own (h : a.extensions.sortOrder ≠ -1) :
    a.sortOrder = a.extensions.sortOrder := by
  rw [sortOrder, if_neg h]

/-- The traits report what a schema says itself of six that arrays take over from their items. -/
structure KeepsOwn (a : Schema) (t : AttributeTraits) : Prop where
  isExternalEnum : a.extensions.isExternalEnum = true → t.isExternalEnum = true
  isSubResource : a.extensions.isSubResource = true → t.isSubResource = true
  isDeprecated : a.isDeprecatedHere = true → t.isDeprecated = true
  sortOrder : a.extensions.sortOrder ≠ -1 → t.sortOrder = a.extensions.sortOrder
  subResourceName : ∀ n, a.extensions.subResourceName = some n → t.subResourceName = some n
  metaModelName : ∀ n, a.extensions.metaModelName = some n → t.metaModelName = some n

/-- The traits report everything that a schema says itself of what arrays take over. -/
structure ReportsOwn (a : Schema) (t : AttributeTraits) : Prop extends KeepsOwn a t where
  isGlobalEnum : a.extensions.isGlobalEnum = true → t.isGlobalEnum = true
  isGenSeparate : a.extensions.isGenSeparate = true → t.isGenSeparate = true

/-- Six traits are those of the schema itself wherever it carries them. -/
theorem keepsOwn_classify : KeepsOwn a (a.classify name qa) where
  isExternalEnum h := hasFlag_of_own h
  isSubResource h := hasFlag_of_own h
  isDeprecated h := by
    change (a.isDeprecatedHere || a.arrayItems?.any (·.isDeprecatedHere)) = true
    rw [h]
    rfl
  sortOrder h := sortOrder_of_own h
  subResourceName _ h := ownOrItemName?_of_own h
  metaModelName _ h := ownOrItemName?_of_own h

/-- **What an array says itself is reported**, but for the flags of global enums and of separate
generation: the items have to carry those two as well. -/
theorem reportsOwn_classify_iff (harray : a.isArray = true) (hitems : a.items = some i)
    (name : String) (qa : Bool) :
    KeepsOwn a (a.classify name qa) ∧ (ReportsOwn a (a.classify name qa) ↔
      (a.extensions.isGlobalEnum = true → i.extensions.isGlobalEnum = true) ∧
      (a.extensions.isGenSeparate = true → i.extensions.isGenSeparate = true)) := by
  have hglobal : (a.classify name qa).isGlobalEnum = i.extensions.isGlobalEnum := by
    change a.itemsOrSelf.extensions.isGlobalEnum = _
    rw [itemsOrSelf_of_items harray hitems]
  have hseparate : (a.classify name qa).isGenSeparate = i.extensions.isGenSeparate := by
    change a.itemsOrSelf.extensions.isGenSeparate = _
    rw [itemsOrSelf_of_items harray hitems]
  refine ⟨keepsOwn_classify, ?_⟩
  rw [← hglobal, ← hseparate]
  constructor
  · intro h
    exact ⟨h.isGlobalEnum, h.isGenSeparate⟩
  · rintro ⟨hglobal, hseparate⟩
    exact ⟨keepsOwn_classify, hglobal, hseparate⟩

/-- Levels in a list, declared by the items. -/
def levelItems (extensions : SchemaExtensions) : Schema :=
  { type := some "string", enum := some [.text "low", .text "high"], extensions }

def levels (own items : SchemaExtensions) : Schema :=
  { type := some "array", items := some (levelItems items), extensions := own }

theorem reportsOwn_levels :
    let separate : SchemaExtensions := { isGenSeparate := true }
    let flagged : SchemaExtensions := { isGenSeparate := true, sortOrder := 3 }
    ReportsOwn (levels flagged separate) ((levels flagged separate).classify "levels" false) :=
  (reportsOwn_classify_iff rfl rfl "levels" false).2.2 ⟨by decide, by decide⟩

/-- The flag of separate generation is lost on an array whose items do not carry it. -/
theorem not_forall_reportsOwn :
    ¬ ∀ (a i : Schema) (name : String) (qa : Bool), a.isArray = true → a.items = some i →
      ReportsOwn a (a.classify name qa) := by
  intro h
  have hown := h (levels { isGenSeparate := true } {}) (levelItems {}) "levels" false rfl rfl
  exact absurd (hown.isGenSeparate rfl) (by decide)

end SdkModel.Schema
