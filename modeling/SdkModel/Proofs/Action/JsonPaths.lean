import Mathlib.Order.Bounds.Basic
import SdkModel.Action.JsonKeys
import SdkModel.Proofs.Listed

/-!
# Paths to JSON values

A value of a form body that is sent as JSON is found on a path of properties that are not hidden:
each leads to an object with properties, the last one to an object without a property map or to an
array whose items have no type. Arrays with typed items on the way count as their items. The JSON
keys of an action are the last names of these paths with the lengths of the paths, and they come up
as a depth-first walk meets them first (`listsPaths_jsonKeys`).
-/

namespace SdkModel

/-- A free object, or an array of values of no type. -/
def Schema.IsSentAsJson (s : Schema) : Prop :=
  (s.type = some "object" ∧ s.properties = none) ∨ ∃ i, s.arrayItems? = some i ∧ i.type = none

namespace JsonKey

variable {qa : Bool} {level : Nat} {key : String} {s t i : Schema}
  {fields : List (String × Schema)} {position : List Nat} {names : List String}

/-- What is left of a schema when some arrays with typed items are taken off. Nothing on the way is
hidden. -/
inductive ComesTo (qa : Bool) : Schema → Schema → Prop where
  | self {s : Schema} (hs : s.isHidden qa = false) : ComesTo qa s s
  | items {s i t : Schema} (hs : s.isHidden qa = false) (hi : s.arrayItems? = some i)
      (htyped : i.type ≠ none) (h : ComesTo qa i t) : ComesTo qa s t

mutual

/-- A path below a property: the positions of the properties that it goes on through, and their
names. -/
inductive FieldPath (qa : Bool) : Schema → List Nat → List String → Prop where
  | ends {s t : Schema} (ht : ComesTo qa s t) (hjson : t.IsSentAsJson) : FieldPath qa s [] []
  | enters {s t : Schema} {ps : List (String × Schema)} {position : List Nat} {names : List String}
      (ht : ComesTo qa s t) (hobject : t.type = some "object") (hps : t.properties = some ps)
      (h : PropertyPath qa ps position names) : FieldPath qa s position names

/-- A path from a property map to a value that is sent as JSON. -/
inductive PropertyPath (qa : Bool) : List (String × Schema) → List Nat → List String → Prop where
  | property {ps : List (String × Schema)} {n : Nat} {key : String} {s : Schema}
      {position : List Nat} {names : List String} (hn : ps[n]? = some (key, s))
      (h : FieldPath qa s position names) : PropertyPath qa ps (n :: position) (key :: names)

end

/-- The positions of the paths that end with the key and are as long as its level says. A
depth-first walk meets them in lexicographic order. -/
def positions (qa : Bool) (fields : List (String × Schema)) (k : JsonKey) : Set (List Nat) :=
  {position | ∃ names, PropertyPath qa fields position names ∧
    names.getLast? = some k.key ∧ names.length = k.level + 1}

/-- The keys are those that paths lead to, each once, in order of their first paths. -/
structure ListsPaths (qa : Bool) (fields : List (String × Schema)) (keys : List JsonKey) :
    Prop where
  mem (k : JsonKey) : k ∈ keys ↔ ∃ position names, PropertyPath qa fields position names ∧
    names.getLast? = some k.key ∧ names.length = k.level + 1
  nodup : keys.Nodup
  ordered : keys.Pairwise fun j k => ∃ p q,
    IsLeast (positions qa fields j) p ∧ IsLeast (positions qa fields k) q ∧ p < q

/-! ## Paths below a property -/

theorem comesTo_iff : ComesTo qa s t ↔ s.isHidden qa = false ∧
    (s = t ∨ ∃ i, s.arrayItems? = some i ∧ i.type ≠ none ∧ ComesTo qa i t) := by
  constructor
  · rintro (⟨hs⟩ | ⟨hs, hi, htyped, h⟩)
    · exact ⟨hs, .inl rfl⟩
    · exact ⟨hs, .inr ⟨_, hi, htyped, h⟩⟩
  · rintro ⟨hs, rfl | ⟨i, hi, htyped, h⟩⟩
    · exact .self hs
    · exact .items hs hi htyped h

/-- Nothing is taken off a schema that is no array with typed items. -/
theorem comesTo_iff_eq (hs : s.isHidden qa = false)
    (hitems : ∀ i, s.arrayItems? = some i → i.type = none) : ComesTo qa s t ↔ s = t := by
  rw [comesTo_iff, and_iff_right hs, or_iff_left]
  rintro ⟨i, hi, htyped, -⟩
  exact htyped (hitems i hi)

theorem arrayItems?_of_object (h : s.type = some "object") : s.arrayItems? = none := by
  rw [Schema.arrayItems?, Schema.isArray, Schema.shape, h]
  rfl

theorem fieldPath_iff : FieldPath qa s position names ↔ ∃ t, ComesTo qa s t ∧
    (t.IsSentAsJson ∧ position = [] ∧ names = [] ∨
      t.type = some "object" ∧ ∃ ps, t.properties = some ps ∧
        PropertyPath qa ps position names) := by
  constructor
  · rintro (⟨ht, hjson⟩ | ⟨ht, hobject, hps, h⟩)
    · exact ⟨_, ht, .inl ⟨hjson, rfl, rfl⟩⟩
    · exact ⟨_, ht, .inr ⟨hobject, _, hps, h⟩⟩
  · rintro ⟨t, ht, ⟨hjson, rfl, rfl⟩ | ⟨hobject, ps, hps, h⟩⟩
    · exact .ends ht hjson
    · exact .enters ht hobject hps h

theorem not_fieldPath_of_hidden (hs : s.isHidden qa = true) :
    ¬ FieldPath qa s position names := by
  rw [fieldPath_iff]
  rintro ⟨t, ht, -⟩
  rw [comesTo_iff, hs] at ht
  exact Bool.false_ne_true ht.1.symm

theorem fieldPath_object (hs : s.isHidden qa = false) (hobject : s.type = some "object")
    {ps : List (String × Schema)} (hps : s.properties = some ps) :
    FieldPath qa s position names ↔ PropertyPath qa ps position names := by
  have hitems := arrayItems?_of_object hobject
  have hself (t : Schema) : ComesTo qa s t ↔ s = t :=
    comesTo_iff_eq hs fun i hi => absurd (hitems.symm.trans hi) nofun
  have hjson : ¬ s.IsSentAsJson := by
    simp [Schema.IsSentAsJson, hps, hitems]
  simp only [fieldPath_iff, hself, exists_eq_left', hjson, hobject, hps, false_and, false_or,
    true_and, Option.some.injEq, exists_eq_left']

/-- What is sent as JSON itself holds no further paths. -/
theorem fieldPath_json (hs : s.isHidden qa = false) (hjson : s.IsSentAsJson) :
    FieldPath qa s position names ↔ position = [] ∧ names = [] := by
  have hself (t : Schema) : ComesTo qa s t ↔ s = t := by
    refine comesTo_iff_eq hs fun i hi => ?_
    rcases hjson with ⟨hobject, -⟩ | ⟨j, hj, htype⟩
    · exact absurd ((arrayItems?_of_object hobject).symm.trans hi) nofun
    · obtain rfl := Option.some.inj (hi.symm.trans hj)
      exact htype
  have hnone : ¬ (s.type = some "object" ∧ ∃ ps, s.properties = some ps ∧
      PropertyPath qa ps position names) := by
    rintro ⟨hobject, ps, hps, -⟩
    rcases hjson with ⟨-, hfree⟩ | ⟨j, hj, -⟩
    · exact absurd (hps.symm.trans hfree) nofun
    · exact absurd (hj.symm.trans (arrayItems?_of_object hobject)) nofun
  simp only [fieldPath_iff, hself, exists_eq_left', hjson, hnone, true_and, or_false]

/-- An array with typed items stands for its items. -/
theorem fieldPath_items (hs : s.isHidden qa = false) (hi : s.arrayItems? = some i)
    (htyped : i.type ≠ none) :
    FieldPath qa s position names ↔ FieldPath qa i position names := by
  have hobject : s.type ≠ some "object" := by
    intro hobject
    exact absurd (hi.symm.trans (arrayItems?_of_object hobject)) nofun
  have hjson : ¬ s.IsSentAsJson := by
    rintro (⟨h, -⟩ | ⟨j, hj, htype⟩)
    · exact hobject h
    · obtain rfl := Option.some.inj (hi.symm.trans hj)
      exact htyped htype
  rw [fieldPath_iff, fieldPath_iff]
  constructor
  · rintro ⟨t, ht, hends⟩
    rw [comesTo_iff, hi] at ht
    rcases ht.2 with rfl | ⟨j, hj, -, ht⟩
    · rcases hends with ⟨h, -⟩ | ⟨h, -⟩
      · exact absurd h hjson
      · exact absurd h hobject
    · obtain rfl := Option.some.inj hj
      exact ⟨t, ht, hends⟩
  · rintro ⟨t, ht, hends⟩
    exact ⟨t, .items hs hi htyped ht, hends⟩

theorem not_fieldPath_of_plain (hs : s.isHidden qa = false) (hobject : s.type ≠ some "object")
    (hitems : s.arrayItems? = none) : ¬ FieldPath qa s position names := by
  have hself (t : Schema) : ComesTo qa s t ↔ s = t :=
    comesTo_iff_eq hs fun i hi => absurd (hitems.symm.trans hi) nofun
  have hjson : ¬ s.IsSentAsJson := by
    simp [Schema.IsSentAsJson, hobject, hitems]
  simp only [fieldPath_iff, hself, exists_eq_left', hjson, hobject, false_and, or_self,
    not_false_eq_true]

/-! ## The walk -/

/-- A path below the property `key` at the level leads to the key. -/
def FieldHas (qa : Bool) (level : Nat) (key : String) (s : Schema) (position : List Nat)
    (k : JsonKey) : Prop :=
  ∃ names, FieldPath qa s position names ∧ (key :: names).getLast? = some k.key ∧
    k.level = level + names.length

/-- A path from a property map at the level leads to the key. The first property has the position
`m`. -/
def FieldsHave (qa : Bool) (level m : Nat) (fields : List (String × Schema)) (position : List Nat)
    (k : JsonKey) : Prop :=
  ∃ n q key s, fields[n]? = some (key, s) ∧ position = (m + n) :: q ∧
    FieldHas qa level key s q k

theorem propertyPath_iff : PropertyPath qa fields position names ↔ ∃ n key s position' names',
    fields[n]? = some (key, s) ∧ position = n :: position' ∧ names = key :: names' ∧
      FieldPath qa s position' names' := by
  constructor
  · rintro ⟨hn, h⟩
    exact ⟨_, _, _, _, _, hn, rfl, rfl, h⟩
  · rintro ⟨n, key, s, position', names', hn, rfl, rfl, h⟩
    exact .property hn h

theorem fieldHas_json {k : JsonKey} (hs : s.isHidden qa = false) (hjson : s.IsSentAsJson) :
    FieldHas qa level key s position k ↔ position = [] ∧ k = ⟨key, level⟩ := by
  obtain ⟨name, depth⟩ := k
  simp only [FieldHas, fieldPath_json hs hjson, JsonKey.mk.injEq]
  constructor
  · rintro ⟨names, ⟨hposition, rfl⟩, hkey, hlevel⟩
    exact ⟨hposition, (Option.some.inj hkey).symm, hlevel⟩
  · rintro ⟨hposition, rfl, rfl⟩
    exact ⟨[], ⟨hposition, rfl⟩, rfl, rfl⟩

/-- The properties of an object are a level below the object. -/
theorem fieldHas_object {k : JsonKey} (hs : s.isHidden qa = false)
    (hobject : s.type = some "object") (hps : s.properties = some fields) :
    FieldHas qa level key s position k ↔ FieldsHave qa (level + 1) 0 fields position k := by
  simp only [FieldHas, FieldsHave, fieldPath_object hs hobject hps, propertyPath_iff, Nat.zero_add]
  constructor
  · rintro ⟨_, ⟨n, name, t, q, names, hn, hposition, rfl, hpath⟩, hkey, hlevel⟩
    rw [List.getLast?_cons_cons] at hkey
    rw [List.length_cons] at hlevel
    exact ⟨n, q, name, t, hn, hposition, names, hpath, hkey, by omega⟩
  · rintro ⟨n, q, name, t, hn, hposition, names, hpath, hkey, hlevel⟩
    refine ⟨name :: names, ⟨n, name, t, q, names, hn, hposition, rfl, hpath⟩, ?_, ?_⟩
    · rwa [List.getLast?_cons_cons]
    · rw [List.length_cons]
      omega

/-- The first property stands at the position `m`, the others behind it. -/
theorem fieldsHave_cons {m : Nat} {k : JsonKey} :
    FieldsHave qa level m ((key, s) :: fields) position k ↔
      (∃ q, position = m :: q ∧ FieldHas qa level key s q k) ∨
        FieldsHave qa level (m + 1) fields position k := by
  constructor
  · rintro ⟨n, q, name, t, hn, rfl, h⟩
    cases n with
    | zero =>
      obtain ⟨rfl, rfl⟩ := Prod.mk.inj (Option.some.inj hn)
      exact .inl ⟨q, rfl, h⟩
    | succ n => exact .inr ⟨n, q, name, t, hn, by rw [Nat.add_right_comm]; rfl, h⟩
  · rintro (⟨q, rfl, h⟩ | ⟨n, q, name, t, hn, rfl, h⟩)
    · exact ⟨0, q, key, s, rfl, rfl, h⟩
    · exact ⟨n + 1, q, name, t, hn, by rw [Nat.add_right_comm]; rfl, h⟩

mutual

theorem listedAt_ofField (qa : Bool) (level : Nat) (key : String) (s : Schema) :
    ListedAt (FieldHas qa level key s) (ofField qa level key s) := by
  rw [ofField]
  split
  · next hs =>
    apply listedAt_nil
    rintro p k ⟨names, h, -⟩
    exact not_fieldPath_of_hidden hs h
  next hs =>
  rw [Bool.not_eq_true] at hs
  split
  · next hobject =>
    split
    · next hfree => exact listedAt_singleton fun p k => fieldHas_json hs (.inl ⟨hobject, hfree⟩)
    · next ps hps =>
      exact (listedAt_ofFields qa (level + 1) 0 ps).congr fun p k =>
        (fieldHas_object hs hobject hps).symm
  · next hobject =>
    split
    · next hitems =>
      apply listedAt_nil
      rintro p k ⟨names, h, -⟩
      exact not_fieldPath_of_plain hs hobject hitems h
    · next i hi =>
      split
      · next htype =>
        have hjson : s.IsSentAsJson := .inr ⟨i, hi, Option.isNone_iff_eq_none.1 htype⟩
        exact listedAt_singleton fun p k => fieldHas_json hs hjson
      · next htype =>
        rw [Option.isNone_iff_eq_none] at htype
        refine (listedAt_ofField qa level key i).congr fun p k => ?_
        simp only [FieldHas, fieldPath_items hs hi htype]
termination_by sizeOf s
decreasing_by
  · exact Schema.sizeOf_arrayItems_lt ‹_›
  · cases s
    simp_all only [Schema.mk.sizeOf_spec, Option.some.sizeOf_spec]
    omega

theorem listedAt_ofFields (qa : Bool) (level m : Nat) (fields : List (String × Schema)) :
    ListedAt (FieldsHave qa level m fields) (ofFields qa level fields) := by
  cases fields with
  | nil =>
    rw [ofFields]
    apply listedAt_nil
    rintro p k ⟨n, q, key, s, hn, -⟩
    cases hn
  | cons f rest =>
    obtain ⟨key, s⟩ := f
    rw [ofFields]
    have hlater (p : List Nat) (k : JsonKey) (h : FieldsHave qa level (m + 1) rest p k) :
        ∃ n q, p = n :: q ∧ m < n := by
      obtain ⟨n, q, -, -, -, rfl, -⟩ := h
      exact ⟨m + 1 + n, q, rfl, by omega⟩
    have hfirst := listedAt_ofField qa level key s
    have hrest := listedAt_ofFields qa level (m + 1) rest
    exact (hfirst.below_append hrest hlater).congr fun p k => fieldsHave_cons.symm
termination_by sizeOf fields
decreasing_by
  all_goals
    simp only [List.cons.sizeOf_spec, Prod.mk.sizeOf_spec]
    omega

end

/-- A path from the fields leads to the key at the positions of the key. -/
theorem fieldsHave_iff {k : JsonKey} :
    FieldsHave qa 0 0 fields position k ↔ position ∈ positions qa fields k := by
  simp only [FieldsHave, FieldHas, positions, propertyPath_iff, Nat.zero_add, Set.mem_ofPred_eq]
  constructor
  · rintro ⟨n, q, name, t, hn, hposition, names, hpath, hkey, hlevel⟩
    exact ⟨_, ⟨n, name, t, q, names, hn, hposition, rfl, hpath⟩, hkey, by
      rw [List.length_cons, hlevel]⟩
  · rintro ⟨_, ⟨n, name, t, q, names, hn, hposition, rfl, hpath⟩, hkey, hlevel⟩
    rw [List.length_cons, Nat.add_right_cancel_iff] at hlevel
    exact ⟨n, q, name, t, hn, hposition, names, hpath, hkey, hlevel.symm⟩

/-- What is listed by positions lists the paths once repetitions are dropped. -/
theorem listsPaths_eraseDups {keys : List JsonKey} (h : ListedAt (FieldsHave qa 0 0 fields) keys) :
    ListsPaths qa fields keys.eraseDups := by
  rw [eraseDups_eq_firstOf]
  have hfirst : ListsFirst (FieldsHave qa 0 0 fields) id (firstOf id [] keys) := h.listsFirst
  obtain ⟨hdistinct, hcomplete, -, hordered⟩ := hfirst
  rw [List.map_id] at hdistinct hcomplete
  have hleast {p : List Nat} {k : JsonKey} (hp : FirstAt (FieldsHave qa 0 0 fields) id p k) :
      IsLeast (positions qa fields k) p := by
    refine ⟨fieldsHave_iff.1 hp.1, fun q hq => ?_⟩
    obtain ⟨rfl, -⟩ | hlt := hp.2 q k (fieldsHave_iff.2 hq) rfl
    · exact le_rfl
    · exact hlt.le
  refine ⟨fun k => (hcomplete k).trans ?_, hdistinct, hordered.imp ?_⟩
  · constructor
    · rintro ⟨p, j, hp, rfl⟩
      exact ⟨p, fieldsHave_iff.1 hp⟩
    · rintro ⟨p, hp⟩
      exact ⟨p, k, fieldsHave_iff.2 hp, rfl⟩
  · rintro j k ⟨p, q, hp, hq, hlt⟩
    exact ⟨p, q, hleast hp, hleast hq, hlt⟩

end JsonKey

namespace Action

/-- The JSON keys of an action that posts an object are its paths to JSON values. -/
theorem listsPaths_jsonKeys {a : Action} {s : Schema} (hmethod : a.method = .post)
    (hbody : a.body = some s) (hobject : s.type = some "object") :
    JsonKey.ListsPaths a.qa s.propertyList a.jsonKeys := by
  have hlisted := JsonKey.listedAt_ofFields a.qa 0 0 s.propertyList
  have hlists := JsonKey.listsPaths_eraseDups hlisted
  -- A body without properties counts as none, and then there is no path either.
  by_cases hempty : s.propertyList = []
  · have hnone : a.objectBody? = none := by
      simp [objectBody?, hbody, hempty]
    rw [hempty, JsonKey.ofFields] at hlists
    rw [jsonKeys, hnone, hempty]
    exact hlists
  · have hsome : a.objectBody? = some s := by
      simp [objectBody?, hmethod, hbody, hempty, hobject]
    rw [jsonKeys, hsome]
    exact hlists

/-- Metadata in an object and in the items of an array, payloads of any type, and notes that are
hidden. -/
def giftFields : List (String × Schema) :=
  let metaData : String × Schema := ("meta_data", { type := some "object" })
  let party : Schema := { type := some "object", properties := some [metaData] }
  [("sender", party), ("receivers", { type := some "array", items := some party }),
    ("payloads", { type := some "array", items := some {} }),
    ("notes", { type := some "object", extensions := { hiddenFromSdk := true } })]

def sendGift : Action where
  id := .null
  method := .post
  url := "/gifts"
  name := "send"
  description := .text ""
  deprecated := false
  qa := false
  extensions := {}
  body := some { type := some "object", properties := some giftFields }
  success := none
  parameters := []

/-- Two paths lead to the metadata, which is listed once. -/
theorem listsPaths_sendGift :
    JsonKey.ListsPaths false giftFields [⟨"meta_data", 1⟩, ⟨"payloads", 0⟩] := by
  have hkeys : sendGift.jsonKeys = [⟨"meta_data", 1⟩, ⟨"payloads", 0⟩] := by
    change (JsonKey.ofFields false 0 giftFields).eraseDups = _
    simp [giftFields, JsonKey.ofFields, JsonKey.ofField, Schema.isHidden, Schema.arrayItems?,
      Schema.isArray, Schema.shape, List.eraseDups_cons]
  have hlists := listsPaths_jsonKeys (a := sendGift) rfl rfl rfl
  rw [hkeys] at hlists
  exact hlists

end Action

end SdkModel
