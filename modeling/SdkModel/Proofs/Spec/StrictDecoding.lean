import SdkModel.Proofs.Reference.Unguarded
import SdkModel.Proofs.Spec.TwoResources

/-!
# Strict decoding

Strict decoding refuses what other decoding warns of, and does nothing else: a strict build succeeds
with an answer exactly when the other one does, without a warning on an extension
(`Logged.Tightens`). The relation passes through sequences, so it is shown of the checks on keys and
of the version tags, which look at the flag, and carried along the build.
-/

namespace SdkModel

/-! ## Warnings on extensions -/

/-- A warning that strict decoding turns into an error: on an unknown key, or on version tags that
are not recognised. -/
def LogRecord.IsExtensionWarning (r : LogRecord) : Prop :=
  r.level = .warning ∧ (Text.hasStart "Unknown extension key" r.message = true ∨
    Text.hasStart "Unrecognised version tags" r.message = true)

/-- No extension is warned of. -/
def Log.IsClean (log : Log) : Prop := ∀ r ∈ log, ¬ r.IsExtensionWarning

theorem isClean_nil : Log.IsClean [] := fun _ h => absurd h List.not_mem_nil

/-- A log is clean when its parts are. -/
theorem isClean_append_iff {log log' : Log} :
    Log.IsClean (log ++ log') ↔ log.IsClean ∧ log'.IsClean := List.forall_mem_append

/-- A message for debugging is no warning. -/
theorem isClean_debug (message : String) : Log.IsClean [⟨.debug, message⟩] := by
  intro r hr
  cases List.mem_singleton.1 hr
  exact fun h => nomatch h.1

theorem hasStart_iff {start s : String} :
    Text.hasStart start s = true ↔ start.toList <+: s.toList := List.isPrefixOf_iff_prefix

/-- A text that begins with another character does not begin with the given one. -/
theorem not_hasStart_append {start s t : String} {c d : Char} (hstart : start.toList.head? = some c)
    (hs : s.toList.head? = some d) (h : c ≠ d) : ¬ Text.hasStart start (s ++ t) = true := by
  rw [hasStart_iff, String.toList_append]
  rintro ⟨rest, hrest⟩
  have hheads := congrArg List.head? hrest
  rw [List.head?_append, List.head?_append, hstart, hs] at hheads
  exact h (Option.some.inj hheads)

namespace Logged

variable {ε α β : Type} {x y : Logged ε α} {f g : α → Logged ε β}

/-- The first computation gives an answer exactly when the second one gives it without a warning
on an extension. -/
def Tightens (x y : Logged ε α) : Prop :=
  ∀ a, x.outcome = .ok a ↔ y.outcome = .ok a ∧ y.log.IsClean

/-- A sequence warns of what its parts warn of. -/
theorem isClean_bind_iff {a : α} (h : y.outcome = .ok a) :
    (y >>= g).log.IsClean ↔ y.log.IsClean ∧ (g a).log.IsClean := by
  change (y.andThen g).log.IsClean ↔ _
  unfold andThen
  rw [h, isClean_append_iff]

/-- The relation passes through sequences, so that a computation need only be compared step by
step. -/
theorem Tightens.bind (hxy : Tightens x y) (hfg : ∀ a, Tightens (f a) (g a)) :
    Tightens (x >>= f) (y >>= g) := by
  intro b
  rw [bind_ok_iff, bind_ok_iff]
  constructor
  · rintro ⟨a, ha, hb⟩
    obtain ⟨hya, hy⟩ := (hxy a).1 ha
    obtain ⟨hgb, hg⟩ := (hfg a b).1 hb
    exact ⟨⟨a, hya, hgb⟩, (isClean_bind_iff hya).2 ⟨hy, hg⟩⟩
  · rintro ⟨⟨a, hya, hgb⟩, hclean⟩
    obtain ⟨hy, hg⟩ := (isClean_bind_iff hya).1 hclean
    exact ⟨a, (hxy a).2 ⟨hya, hy⟩, (hfg a b).2 ⟨hgb, hg⟩⟩

/-- What never warns of an extension tightens itself. -/
theorem Tightens.of_isClean (h : x.log.IsClean) : Tightens x x :=
  fun _ => (and_iff_left h).symm

theorem Tightens.pure (a : α) : Tightens (pure a : Logged ε α) (pure a) := .of_isClean isClean_nil

theorem Tightens.ofExcept (z : Except ε α) : Tightens (ofExcept z) (ofExcept z) :=
  .of_isClean isClean_nil

theorem Tightens.map (hxy : Tightens x y) (h : α → β) : Tightens (h <$> x) (h <$> y) :=
  hxy.bind fun a => .pure (h a)

/-- An error tightens everything that warns of an extension or fails itself. -/
theorem Tightens.of_error {e : ε} (hx : x.outcome = .error e)
    (hy : ∀ a, y.outcome = .ok a → ¬ y.log.IsClean) : Tightens x y := by
  intro a
  rw [hx]
  exact ⟨nofun, fun h => absurd h.2 (hy a h.1)⟩

end Logged

open Logged (Tightens Quiet Writes quiet_iff quiet_bind_iff)

/-! ## Keys and records -/

/-- The warning on an unknown key is one that strict decoding turns into an error. -/
theorem isExtensionWarning_unknownKey (key place : String) :
    LogRecord.IsExtensionWarning
      ⟨.warning, "Unknown extension key '" ++ key ++ "' at " ++ place ++ " (ignored)"⟩ := by
  have hstart : "Unknown extension key".toList <+: "Unknown extension key '".toList := by decide
  refine ⟨rfl, .inl (hasStart_iff.2 (hstart.trans ?_))⟩
  simp only [String.toList_append, List.append_assoc]
  exact List.prefix_append _ _

/-- An unknown key is the one verdict on which the flag matters. -/
theorem tightens_checkKey (known : List String) (place key : String) :
    Tightens (checkKey known place true key) (checkKey known place false key) := by
  unfold checkKey
  cases keyVerdict known key with
  | read => exact .pure ()
  | foreign => exact .pure ()
  | misplaced => exact .of_isClean (isClean_debug _)
  | unknown =>
    refine .of_error rfl fun a _ hclean => ?_
    exact hclean _ (List.mem_singleton_self _) (isExtensionWarning_unknownKey key place)

theorem tightens_checkKeys (known : List String) (place : String) (keys : List String) :
    Tightens (checkKeys known place true keys) (checkKeys known place false keys) := by
  induction keys with
  | nil => exact .pure ()
  | cons key keys ih => exact (tightens_checkKey known place key).bind fun _ => ih

/-- The values of a record are read the same way, once its keys have been checked. -/
theorem tightens_decode (ρ : Type) [ExtensionRecord ρ] (es : Entries) (place : String) :
    Tightens (decode ρ es place true) (decode ρ es place false) :=
  (tightens_checkKeys _ place _).bind fun _ => by
    cases (ExtensionRecord.read es : Reading ρ).result with
    | ok record => exact .pure record
    | error faults => exact .of_isClean isClean_nil

/-! ## Versions -/

/-- The warning on version tags that are not recognised is one that strict decoding turns into an
error. -/
theorem isExtensionWarning_unrecognised :
    LogRecord.IsExtensionWarning ⟨.warning, Version.unrecognised⟩ :=
  ⟨rfl, .inr (hasStart_iff.2 (by decide))⟩

/-- The version by tags that are read; unreadable ones stand for the default unless decoding is
strict. -/
def Version.ofReading (strict : Bool) (tags : Build InfoExtensions) : Build Version :=
  match tags.outcome with
  | .ok record => ⟨tags.log, .ok (ofTags record)⟩
  | .error e =>
    if strict || !isTagFailure e then ⟨tags.log, .error e⟩
    else ⟨tags.log ++ [⟨.warning, unrecognised⟩], .ok {}⟩

/-- Tags that cannot be read are refused, where otherwise a warning takes their place. -/
theorem tightens_ofReading {x y : Build InfoExtensions} (h : Tightens x y) :
    Tightens (Version.ofReading true x) (Version.ofReading false y) := by
  cases hx : x.outcome with
  | ok record =>
    obtain ⟨hy, hclean⟩ := (h record).1 hx
    intro v
    simp only [Version.ofReading, hx, hy]
    exact (and_iff_left hclean).symm
  | error e =>
    have herror : (Version.ofReading true x).outcome = .error e := by
      rw [Version.ofReading, hx]
      rfl
    refine .of_error herror fun v hv hclean => ?_
    cases hy : y.outcome with
    | ok record =>
      rw [Version.ofReading, hy] at hclean
      have hok := (h record).2 ⟨hy, hclean⟩
      rw [hx] at hok
      cases hok
    | error e' =>
      rw [Version.ofReading, hy] at hv hclean
      by_cases htag : Version.isTagFailure e' = true
      · simp only [htag, Bool.not_true, Bool.or_self, Bool.false_eq_true, if_false] at hclean
        refine hclean _ (List.mem_append_right _ (List.mem_singleton_self _)) ?_
        exact isExtensionWarning_unrecognised
      · simp [htag] at hv

theorem tightens_resolveVersion (info : Value) :
    Tightens (Version.resolve info true) (Version.resolve info false) := by
  unfold Version.resolve
  split
  · exact .pure _
  · refine (Tightens.ofExcept info.requireEntries).bind fun es => ?_
    exact tightens_ofReading (tightens_decode InfoExtensions es "#/info")

/-! ## Schemas -/

/-- The rules with strict decoding switched on or off. -/
def SchemaRules.decoding (rules : SchemaRules) (strict : Bool) : SchemaRules :=
  { rules with strict }

namespace Schema

variable (rules : SchemaRules)

/-- A node decodes its extensions and reads its fields, which the flag has no part in. -/
theorem tightens_assemble (place : String) (es : Entries)
    (properties : Option (List (String × Schema))) (additional : Option (Additional Schema))
    (items : Option Schema) :
    Tightens (assemble (rules.decoding true) place es properties additional items)
      (assemble (rules.decoding false) place es properties additional items) :=
  (tightens_decode SchemaExtensions es place).bind fun extensions => by
    cases (readFields es).result with
    | ok fields => exact .pure _
    | error faults => exact .of_isClean isClean_nil

theorem tightens_checkDepth (depth : Nat) (place : String) :
    Tightens (checkDepth (rules.decoding true) depth place)
      (checkDepth (rules.decoding false) depth place) := by
  have h : checkDepth (rules.decoding true) depth place =
      checkDepth (rules.decoding false) depth place := rfl
  rw [h]
  refine .of_isClean ?_
  unfold checkDepth
  split <;> exact isClean_nil

/-- The relation holds of every node of a schema, by induction on its entries. -/
theorem tightens_ofEntries (depth : Nat) (place : String) (es : Entries) :
    Tightens (ofEntries (rules.decoding true) depth place es)
      (ofEntries (rules.decoding false) depth place es) := by
  refine ofEntries.induct
    (fun depth place es => Tightens (ofEntries (rules.decoding true) depth place es)
      (ofEntries (rules.decoding false) depth place es))
    (fun depth place ps => Tightens (ofProperties (rules.decoding true) depth place ps)
      (ofProperties (rules.decoding false) depth place ps)) ?_ ?_ ?_ ?_ depth place es
  · intro depth place es hproperties hadditional hitems
    rw [ofEntries_eq, ofEntries_eq]
    refine (tightens_checkDepth rules depth place).bind fun _ => .bind ?_ fun properties =>
      .bind ?_ fun additional => .bind ?_ fun items => tightens_assemble rules _ _ _ _ _
    · cases h : es.get "properties" with
      | object ps => exact (hproperties ps h).map _
      | _ => exact .pure none
    · cases h : es.get "additionalProperties" with
      | object sub => exact (hadditional sub h).map _
      | bool b => exact .pure _
      | _ => exact .pure none
    · cases h : es.get "items" with
      | object sub => exact (hitems sub h).map _
      | _ => exact .pure none
  · intro depth place
    rw [ofProperties, ofProperties]
    exact .pure []
  · intro depth place k es rest hnode hrest
    rw [ofProperties, ofProperties]
    exact hnode.bind fun node => hrest.bind fun nodes => .pure _
  · intro depth place head rest hhead hrest
    rw [ofProperties, ofProperties]
    · exact hrest
    · exact hhead
    · exact hhead

theorem tightens_ofValue? (place : String) (v : Value) :
    Tightens (ofValue? (rules.decoding true) place v)
      (ofValue? (rules.decoding false) place v) := by
  cases v with
  | object es => exact (tightens_ofEntries rules 0 place es).map some
  | _ => exact .pure none

end Schema

/-! ## Actions -/

/-- The rules with strict decoding of schemas switched on or off. -/
def BuildRules.decoding (rules : BuildRules) (strict : Bool) : BuildRules :=
  { rules with schemas := rules.schemas.decoding strict }

namespace Action

variable (rules : BuildRules)

theorem tightens_schemaAt (here : String) (v : Value) :
    Tightens (schemaAt (rules.decoding true) here v) (schemaAt (rules.decoding false) here v) :=
  Schema.tightens_ofValue? rules.schemas here v

theorem tightens_bodySchema (here : String) (body : Value) :
    Tightens (bodySchema (rules.decoding true) here body)
      (bodySchema (rules.decoding false) here body) := by
  unfold bodySchema
  split
  · refine (Tightens.ofExcept _).bind fun content => ?_
    split
    · exact tightens_schemaAt rules _ _
    · exact .pure none
  · exact .pure none

theorem tightens_successSchema (here : String) (responses : Value) :
    Tightens (successSchema (rules.decoding true) here responses)
      (successSchema (rules.decoding false) here responses) := by
  unfold successSchema
  split
  · split
    · refine (Tightens.ofExcept _).bind fun content => ?_
      split
      · exact tightens_schemaAt rules _ _
      · exact .pure none
    · exact .pure none
  · exact .pure none

theorem tightens_parameter (here : String) (es : Entries) :
    Tightens (parameter (rules.decoding true) here es)
      (parameter (rules.decoding false) here es) :=
  (tightens_schemaAt rules _ _).bind fun _ =>
    (tightens_decode SchemaExtensions es here).bind fun _ => .pure _

/-- Parameters are built one after the other, by induction on what is declared. -/
theorem tightens_parametersFrom (here : String) (index : Nat) (declared : List Entries) :
    Tightens (parametersFrom (rules.decoding true) here index declared)
      (parametersFrom (rules.decoding false) here index declared) := by
  induction declared generalizing index with
  | nil => exact .pure []
  | cons es rest ih =>
    exact (tightens_parameter rules _ es).bind fun _ => (ih (index + 1)).bind fun _ => .pure _

theorem isClean_contractError {α : Type} (gap : ContractGap) (url : String) (id : Value) :
    (contractError gap url id : Build α).log.IsClean := by
  intro r hr
  obtain hr | ⟨_, -, hr⟩ := Logged.mem_log_bind.1 hr
  · cases hr
  · cases hr

theorem tightens_ofParts (method : HttpMethod) (url : String) (operation : Entries)
    (extensions : OperationExtensions) (name : String) :
    Tightens (ofParts (rules.decoding true) method url operation extensions name)
      (ofParts (rules.decoding false) method url operation extensions name) :=
  (Tightens.ofExcept _).bind fun _ => (tightens_bodySchema rules _ _).bind fun _ =>
    (tightens_successSchema rules _ _).bind fun _ =>
      (tightens_parametersFrom rules _ _ _).bind fun _ => .pure _

/-- An operation is refused for a gap in its contract under both ways of decoding alike. -/
theorem tightens_ofOperation (method : HttpMethod) (url : String) (operation : Entries) :
    Tightens (ofOperation (rules.decoding true) method url operation)
      (ofOperation (rules.decoding false) method url operation) := by
  rw [ofOperation_eq, ofOperation_eq]
  refine .bind (.of_isClean ?_) fun _ => (tightens_decode OperationExtensions _ _).bind
    fun extensions => .bind (.of_isClean ?_) fun name => tightens_ofParts rules _ _ _ _ _
  · unfold requireExtensions
    split
    · exact isClean_contractError _ _ _
    · exact isClean_nil
  · unfold requireName
    split
    · exact isClean_nil
    · exact isClean_contractError _ _ _

end Action

/-! ## Specs -/

/-- The settings with strict decoding switched on or off. -/
def GenerationConfig.decoding (config : GenerationConfig) (strict : Bool) : GenerationConfig :=
  { config with strictExtensions := strict }

namespace Spec

theorem tightens_schemasOf (rules : SchemaRules) (components : Entries) :
    Tightens (schemasOf (rules.decoding true) components)
      (schemasOf (rules.decoding false) components) := by
  induction components with
  | nil => exact .pure []
  | cons e rest ih =>
    obtain ⟨k, v⟩ := e
    cases v with
    | object es =>
      exact (Schema.tightens_ofEntries rules _ _ es).bind fun _ => ih.bind fun _ => .pure _
    | _ => exact ih

theorem tightens_buildSchemas (rules : SchemaRules) (document : Entries) :
    Tightens (buildSchemas (rules.decoding true) document)
      (buildSchemas (rules.decoding false) document) :=
  (Tightens.ofExcept _).bind fun _ => (Tightens.ofExcept _).bind fun _ =>
    (tightens_schemasOf rules _).bind fun _ => .pure _

/-- Operations without a resource are passed over under both ways of decoding alike. -/
theorem tightens_actionsOf (rules : BuildRules)
    (operations : List (String × HttpMethod × Entries)) :
    Tightens (actionsOf (rules.decoding true) operations)
      (actionsOf (rules.decoding false) operations) := by
  induction operations with
  | nil => exact .pure []
  | cons o rest ih =>
    obtain ⟨url, method, operation⟩ := o
    refine (Action.tightens_ofOperation rules method url operation).bind fun action => ?_
    cases action.resourceId? with
    | none => exact (Tightens.of_isClean (isClean_debug _)).bind fun _ => ih
    | some id => exact ih.bind fun _ => .pure _

theorem tightens_buildActions (rules : BuildRules) (document : Entries) :
    Tightens (buildActions (rules.decoding true) document)
      (buildActions (rules.decoding false) document) :=
  (Tightens.ofExcept _).bind fun _ => (tightens_actionsOf rules _).bind fun _ => .pure _

/-- A spec apart from its settings. -/
def withoutConfig (s : Spec) : Spec := { s with config := {} }

/-- A document whose references are resolved is built from its version, its schemas and its
actions. -/
theorem tightens_ofResolved (config : GenerationConfig) (document : Entries) :
    Tightens (withoutConfig <$> ofResolved (config.decoding true) document)
      (withoutConfig <$> ofResolved (config.decoding false) document) := by
  unfold ofResolved
  simp only [Logged.map_of_bind]
  exact (tightens_resolveVersion _).bind fun _ =>
    (tightens_buildSchemas (rulesOf config).schemas _).bind fun _ =>
      (tightens_buildActions (rulesOf config) _).bind fun _ => .pure _

/-- A warning on a cycle is none on an extension. -/
theorem isClean_resolve (document : Value) : (Reference.resolve document).log.IsClean := by
  intro r hr
  obtain ⟨reference, rfl⟩ := Reference.cycle_of_mem_log hr
  have hmessage : Reference.cycleWarning reference =
      "Reference cycle through " ++ (reference ++ " left unresolved") := String.append_assoc ..
  rintro ⟨-, h | h⟩
  · rw [hmessage] at h
    exact not_hasStart_append (c := 'U') (d := 'R') (by decide) (by decide) (by decide) h
  · rw [hmessage] at h
    exact not_hasStart_append (c := 'U') (d := 'R') (by decide) (by decide) (by decide) h

/-- Resolving references warns of cycles only, so that it does not look at the flag either. -/
theorem tightens_build (config : GenerationConfig) (document : Entries) :
    Tightens (withoutConfig <$> build (config.decoding true) document)
      (withoutConfig <$> build (config.decoding false) document) := by
  unfold build
  simp only [Logged.map_of_bind]
  exact (Tightens.ofExcept _).bind fun _ => (Tightens.of_isClean (isClean_resolve _)).bind
    fun resolved => (Tightens.ofExcept resolved.requireEntries).bind
      fun entries => tightens_ofResolved config entries

/-- **Strict decoding is the other decoding without warnings on extensions.** A document builds
under strict decoding exactly when it builds otherwise and the log warns neither of an unknown key
nor of version tags, and then both specs have the same version, schemas and actions. -/
theorem build_strict_iff (config : GenerationConfig) (document : Entries) :
    ((∃ s, (build (config.decoding true) document).outcome = .ok s) ↔
      (∃ t, (build (config.decoding false) document).outcome = .ok t) ∧
        (build (config.decoding false) document).log.IsClean) ∧
    ∀ s t, (build (config.decoding true) document).outcome = .ok s →
      (build (config.decoding false) document).outcome = .ok t →
      s.version = t.version ∧ s.schemas = t.schemas ∧ s.actions = t.actions := by
  have h := tightens_build config document
  have hlog : (withoutConfig <$> build (config.decoding false) document).log.IsClean ↔
      (build (config.decoding false) document).log.IsClean :=
    forall_congr' fun _ => imp_congr_left Logged.mem_log_map
  refine ⟨⟨?_, ?_⟩, ?_⟩
  · rintro ⟨s, hs⟩
    obtain ⟨hlenient, hclean⟩ := (h _).1 (Logged.map_ok_iff.2 ⟨s, hs, rfl⟩)
    obtain ⟨t, ht, -⟩ := Logged.map_ok_iff.1 hlenient
    exact ⟨⟨t, ht⟩, hlog.1 hclean⟩
  · rintro ⟨⟨t, ht⟩, hclean⟩
    have hstrict := (h _).2 ⟨Logged.map_ok_iff.2 ⟨t, ht, rfl⟩, hlog.2 hclean⟩
    obtain ⟨s, hs, -⟩ := Logged.map_ok_iff.1 hstrict
    exact ⟨s, hs⟩
  · intro s t hs ht
    obtain ⟨hlenient, -⟩ := (h _).1 (Logged.map_ok_iff.2 ⟨s, hs, rfl⟩)
    obtain ⟨t', ht', hsame⟩ := Logged.map_ok_iff.1 hlenient
    cases ht.symm.trans ht'
    have hversion := congrArg Spec.version hsame
    have hschemas := congrArg Spec.schemas hsame
    have hactions := congrArg Spec.actions hsame
    exact ⟨hversion.symm, hschemas.symm, hactions.symm⟩

/-! ## A key that is not known -/

/-- Trips with one more key than their id. -/
def colouredEntries (key : String) : Entries :=
  [(.text "x-cb-resource-id", .text "trip"), (.text key, .text "red")]

def colouredSchema : Schema where
  extensions := { resourceId := some "trip", declared := ["resource_id"] }

def colouredDocument (key : String) : Entries :=
  documentOf [(.text "/trips", .object [(.text "get", .object listEntries)])]
    [(.text "Trip", .object (colouredEntries key))]

def colouredSpec (key : String) : Spec where
  document := colouredDocument key
  config := GenerationConfig.decoding {} false
  version := {}
  schemas := [("Trip", colouredSchema)]
  actions := [("trip", [listTrips false])]

/-- The only part of the document that may write something is the node of trips. -/
theorem writes_colouredDocument {key : String} {log : Log}
    (hfree : (Value.object (colouredDocument key)).references = [])
    (h : Writes (Schema.ofEntries {} 0 "#/components/schemas/Trip" (colouredEntries key)) log
      colouredSchema) :
    Writes (build (GenerationConfig.decoding {} false) (colouredDocument key)) log
      (colouredSpec key) := by
  have hnodes : Writes (schemasOf {} [(.text "Trip", .object (colouredEntries key))]) (log ++ [])
      [("Trip", colouredSchema)] := h.bind rfl
  have hactions : Quiet (buildActions {} (colouredDocument key)) [("trip", [listTrips false])] :=
    quiet_bind_iff.2 ⟨_, rfl, quiet_bind_iff.2 ⟨[("trip", listTrips false)],
      quiet_bind_iff.2 ⟨_, quiet_listEntries false, quiet_bind_iff.2 ⟨[], rfl, rfl⟩⟩, rfl⟩⟩
  have hspec := writes_documentOf hfree hnodes hactions
  rw [List.append_nil, List.append_nil] at hspec
  exact hspec

/-- The warning on a colour, which no record holds. -/
def unknownColour : LogRecord :=
  ⟨.warning, "Unknown extension key '" ++ "x-cb-colour" ++ "' at " ++
    "#/components/schemas/Trip" ++ " (ignored)"⟩

/-- The colour is warned of and left out of the node. -/
theorem writes_colouredEntries :
    Writes (Schema.ofEntries {} 0 "#/components/schemas/Trip" (colouredEntries "x-cb-colour"))
      [unknownColour] colouredSchema := by
  have hkeys : Writes (checkKeys (recordKeys SchemaExtensions) "#/components/schemas/Trip" false
      ["x-cb-resource-id", "x-cb-colour"]) [unknownColour] () := rfl
  have hdecoded : Writes (decode SchemaExtensions (colouredEntries "x-cb-colour")
      "#/components/schemas/Trip" false) [unknownColour] colouredSchema.extensions := hkeys.bind rfl
  rw [Schema.ofEntries_eq]
  exact (Schema.quiet_checkDepth (by decide)).bind (Quiet.bind rfl (Quiet.bind rfl
    (Quiet.bind rfl (hdecoded.bind rfl))))

/-- A colour under an ordinary key leaves nothing to refuse. Under a key that looks like an extension
it is passed over with a warning, and refused by strict decoding. -/
theorem build_strict_iff_coloured :
    (∃ s, (build (GenerationConfig.decoding {} true) (colouredDocument "colour")).outcome = .ok s ∧
        s.schemas = [("Trip", colouredSchema)] ∧ s.actions = [("trip", [listTrips false])]) ∧
      (∃ t, (build (GenerationConfig.decoding {} false) (colouredDocument "x-cb-colour")).outcome =
        .ok t) ∧
      ¬ ∃ s, (build (GenerationConfig.decoding {} true) (colouredDocument "x-cb-colour")).outcome =
        .ok s := by
  constructor
  · have hbuild : Quiet (build (GenerationConfig.decoding {} false) (colouredDocument "colour"))
        (colouredSpec "colour") :=
      writes_colouredDocument (by rfl) (Schema.quiet_leaf (by decide) rfl rfl)
    obtain ⟨hlog, hlenient⟩ := quiet_iff.1 hbuild
    obtain ⟨hiff, hsame⟩ := build_strict_iff {} (colouredDocument "colour")
    obtain ⟨s, hs⟩ := hiff.2 ⟨⟨_, hlenient⟩, hlog ▸ isClean_nil⟩
    obtain ⟨-, hschemas, hactions⟩ := hsame s _ hs hlenient
    exact ⟨s, hs, hschemas, hactions⟩
  · have hbuild := writes_colouredDocument (by rfl) writes_colouredEntries
    have hlenient := congrArg Logged.outcome hbuild
    have hlog := congrArg Logged.log hbuild
    refine ⟨⟨_, hlenient⟩, fun hs => ?_⟩
    have hclean := ((build_strict_iff {} (colouredDocument "x-cb-colour")).1.1 hs).2
    rw [hlog] at hclean
    exact hclean _ (List.mem_singleton_self _) (isExtensionWarning_unknownKey _ _)

end Spec

end SdkModel
