import SdkModel.Proofs.CommandLine.Stages
import SdkModel.Proofs.Reference.Inline
import SdkModel.Proofs.Schema.WellTyped
import SdkModel.Proofs.Spec.Build
import SdkModel.Spec.Webhook

/-!
# The views of a built spec

Building checks what the component schemas and the operations of a document say; the webhooks are
read later, when a view shows them. So the views of a built spec all give an answer exactly when the
request bodies of its webhooks can be read (`Spec.views_answer_iff`), which building does not see
to: a document with a webhook whose request body is a text is built, and then three of its views
end in an error. A document that is not built is refused before anything is printed.
-/

namespace SdkModel

/-! ## Checked reads -/

/-- A read that ends with an answer. -/
def Checked.Answers {α : Type} (x : Checked α) : Prop := ∃ a, x = .ok a

namespace Checked

variable {α β : Type} {x : Checked α} {f : α → Checked β}

theorem answers_ok (a : α) : Checked.Answers (.ok a) := ⟨a, rfl⟩

theorem not_answers_error (e : Failure) : ¬ Checked.Answers (.error e : Checked α) := by
  rintro ⟨a, ha⟩
  cases ha

/-- A sequence answers when both parts do, if the first answer does not matter to the second. -/
theorem answers_bind_iff {p : Prop} (h : ∀ a, x = .ok a → (Checked.Answers (f a) ↔ p)) :
    Checked.Answers (x >>= f) ↔ Checked.Answers x ∧ p := by
  cases hx : x with
  | ok a => exact (h a hx).trans (iff_and_self.2 fun _ => ⟨a, rfl⟩)
  | error e => exact iff_of_false (not_answers_error e) fun h => not_answers_error e h.1

/-- What always answers after an answer does not matter. -/
theorem answers_bind_iff_left (h : ∀ a, Checked.Answers (f a)) :
    Checked.Answers (x >>= f) ↔ Checked.Answers x :=
  (answers_bind_iff fun a _ => iff_true_intro (h a)).trans (iff_of_eq (and_true _))

end Checked

open Checked (answers_ok answers_bind_iff answers_bind_iff_left)
open Logged (Quiet quiet_iff bind_error_iff bind_error_of_ok)

theorem Value.answers_optionalEntries_iff {v : Value} :
    Checked.Answers v.optionalEntries ↔ v.IsOptionalObject := by
  refine ⟨fun ⟨es, h⟩ htelling => ?_, fun h => ⟨_, optionalEntries_eq h⟩⟩
  rw [optionalEntries, if_pos htelling] at h
  cases v with
  | object _ => rfl
  | _ => cases h

/-! ## Webhooks -/

namespace Webhook

variable {deprecatedToo : Bool} {item : Value} {items : Entries} {post : Option Entries}

/-- The operation of a webhook, if it has one. -/
def post? (item : Value) : Option Entries := item.entries?.bind fun es => (es.get "post").entries?

/-- A deprecated part is passed over unless it is asked for. -/
def skips (deprecatedToo : Bool) (es : Entries) : Bool :=
  !deprecatedToo && (es.get "deprecated").isTelling

/-- The request body of an operation and the content of the body are objects, as far as they are
given. -/
structure IsReadableBody (post : Entries) : Prop where
  body : (post.get "requestBody").IsOptionalObject
  content : ∀ body : Entries, post.get "requestBody" = .object body →
    (body.get "content").IsOptionalObject

/-- A webhook whose request body can be read, or is not asked for. -/
def IsReadable (deprecatedToo : Bool) (item : Value) : Prop :=
  ∀ post, post? item = some post → skips deprecatedToo post = false → IsReadableBody post

/-- What is read of the content under a body. -/
theorem isOptionalObject_content_iff {body : Value} :
    (Entries.get ((body.entries?).getD []) "content").IsOptionalObject ↔
      ∀ es : Entries, body = .object es → (es.get "content").IsOptionalObject := by
  cases body with
  | object es =>
    refine ⟨fun h fs hfs => ?_, fun h => h es rfl⟩
    obtain rfl := Value.object.inj hfs
    exact h
  | _ => exact iff_of_true nofun nofun

theorem answers_payload?_iff {post : Entries} :
    Checked.Answers (payload? (some post)) ↔ IsReadableBody post := by
  have hcontent (es : Entries) (h : (post.get "requestBody").optionalEntries = .ok es) :
      Checked.Answers (do
        let content ← (es.get "content").optionalEntries
        return (content.get Action.jsonType).entries?.bind fun media =>
          (media.get "schema").entries?) ↔
      ∀ body : Entries, post.get "requestBody" = .object body →
        (body.get "content").IsOptionalObject := by
    obtain rfl := Value.optionalEntries_ok h
    refine (answers_bind_iff_left fun _ => answers_ok _).trans ?_
    rw [Value.answers_optionalEntries_iff, isOptionalObject_content_iff]
  refine (answers_bind_iff hcontent).trans ?_
  rw [Value.answers_optionalEntries_iff]
  exact ⟨fun h => ⟨h.1, h.2⟩, fun h => ⟨h.body, h.content⟩⟩

theorem answers_payload?_none : Checked.Answers (payload? none) := ⟨none, rfl⟩

/-- A webhook whose payload is known; none when the payload is passed over. -/
def ofPayload (deprecatedToo : Bool) (type : String) : Option Entries → Option Webhook
  | none => some ⟨type, none⟩
  | some payload =>
    if skips deprecatedToo payload then none else some ⟨type, schemaName? payload⟩

theorem ofEntry_eq (type : String) : ofEntry deprecatedToo type item =
    if (post? item).any (skips deprecatedToo) then .ok none
    else payload? (post? item) >>= fun payload => .ok (ofPayload deprecatedToo type payload) := by
  unfold ofEntry
  refine if_congr Iff.rfl rfl (congrArg (payload? (post? item) >>= ·) (funext fun payload => ?_))
  cases payload with
  | none => rfl
  | some payload => exact (apply_ite (Except.ok (ε := Failure)) _ _ _).symm

theorem answers_ofEntry_iff {type : String} :
    Checked.Answers (ofEntry deprecatedToo type item) ↔ IsReadable deprecatedToo item := by
  have hread {post : Option Entries} : Checked.Answers (payload? post >>= fun payload =>
      .ok (ofPayload deprecatedToo type payload)) ↔ Checked.Answers (payload? post) :=
    answers_bind_iff_left fun _ => answers_ok _
  rw [ofEntry_eq, IsReadable]
  cases post? item with
  | none => exact iff_of_true (hread.2 answers_payload?_none) nofun
  | some post =>
    rw [Option.any_some]
    cases hskips : skips deprecatedToo post with
    | true =>
      refine iff_of_true (answers_ok none) fun post' hpost hkept => ?_
      obtain rfl := Option.some.inj hpost
      exact absurd (hkept.symm.trans hskips) Bool.false_ne_true
    | false =>
      rw [if_neg Bool.false_ne_true, hread, answers_payload?_iff]
      constructor
      · intro h post' hpost _
        obtain rfl := Option.some.inj hpost
        exact h
      · exact fun h => h post rfl hskips

theorem answers_ofEntries_iff : Checked.Answers (ofEntries deprecatedToo items) ↔
    ∀ e ∈ items, IsReadable deprecatedToo e.2 := by
  induction items with
  | nil => exact iff_of_true (answers_ok []) nofun
  | cons e rest ih =>
    rw [List.forall_mem_cons, ← ih, ofEntries]
    refine (answers_bind_iff fun _ _ => ?_).trans (and_congr_left' answers_ofEntry_iff)
    exact answers_bind_iff_left fun _ => answers_ok _

end Webhook

namespace Spec

open CommandLine (Command Surroundings Source)

variable {spec : Spec} {config : GenerationConfig} {document : Entries}

/-- What may be asked of a built spec. -/
inductive View where
  | resources
  | catalogResources
  | globalEnums
  | errorResources
  | eventResources
  | webhooks (deprecatedToo : Bool)
  | whole
  | shape
deriving DecidableEq, Repr

/-- The answer of a view. -/
def answer (spec : Spec) : View → Checked Value
  | .resources => .ok (.list (spec.resources.map Resource.toValue))
  | .catalogResources => .ok (.list (spec.catalogResources.map Resource.toValue))
  | .globalEnums => .ok (.list (spec.globalEnums.map Enum.toValue))
  | .errorResources => .ok (.list (spec.errorResources.map ErrorResource.toValue))
  | .eventResources => .ok (.list (spec.eventResources.map Resource.toValue))
  | .webhooks deprecatedToo => do
    let webhooks ← spec.webhooks deprecatedToo
    return .list (webhooks.map Webhook.toValue)
  | .whole => spec.toValue
  | .shape => .ok (Typed.backend.shape spec.config spec)

/-- The webhooks of a document can be read, those that are not passed over. -/
structure HasReadableWebhooks (document : Entries) (deprecatedToo : Bool) : Prop where
  map : (document.get "webhooks").IsOptionalObject
  items : ∀ es, document.get "webhooks" = .object es →
    ∀ e ∈ es, Webhook.IsReadable deprecatedToo e.2

theorem answers_webhooks_iff {deprecatedToo : Bool} :
    Checked.Answers (spec.webhooks deprecatedToo) ↔
      HasReadableWebhooks spec.document deprecatedToo := by
  have hitems (es : Entries) (h : (spec.document.get "webhooks").optionalEntries = .ok es) :
      Checked.Answers (Webhook.ofEntries deprecatedToo es) ↔
        ∀ es, spec.document.get "webhooks" = .object es →
          ∀ e ∈ es, Webhook.IsReadable deprecatedToo e.2 := by
    obtain rfl := Value.optionalEntries_ok h
    rw [Webhook.answers_ofEntries_iff]
    cases spec.document.get "webhooks" with
    | object items =>
      refine ⟨fun hall es hes => ?_, fun hall => hall items rfl⟩
      obtain rfl := Value.object.inj hes
      exact hall
    | _ => exact iff_of_true nofun nofun
  refine (answers_bind_iff hitems).trans ?_
  rw [Value.answers_optionalEntries_iff]
  exact ⟨fun h => ⟨h.1, h.2⟩, fun h => ⟨h.map, h.items⟩⟩

/-- Fewer webhooks are read when deprecated ones are passed over. -/
theorem HasReadableWebhooks.of_true {deprecatedToo : Bool} (h : HasReadableWebhooks document true) :
    HasReadableWebhooks document deprecatedToo where
  map := h.map
  items es hes e he post hpost _ := h.items es hes e he post hpost rfl

theorem answers_whole_iff :
    Checked.Answers spec.toValue ↔ HasReadableWebhooks spec.document false :=
  (answers_bind_iff_left fun _ => answers_ok _).trans answers_webhooks_iff

/-- The views of a spec answer as far as they read no webhook that cannot be read. -/
theorem answers_answer_iff (spec : Spec) : (∀ view, Checked.Answers (spec.answer view)) ↔
    HasReadableWebhooks spec.document true := by
  have hlist (deprecatedToo : Bool) : Checked.Answers (spec.answer (.webhooks deprecatedToo)) ↔
      HasReadableWebhooks spec.document deprecatedToo :=
    (answers_bind_iff_left fun _ => answers_ok _).trans answers_webhooks_iff
  refine ⟨fun h => (hlist true).1 (h _), fun h view => ?_⟩
  cases view with
  | webhooks deprecatedToo => exact (hlist deprecatedToo).2 h.of_true
  | whole => exact answers_whole_iff.2 h.of_true
  | _ => exact answers_ok _

/-! ## Failures -/

/-- A command that ends in an error prints nothing. -/
theorem stdout_outcome_of_error {s : Surroundings} {opening : Option Diagnostic}
    {x : CommandLine.Step (List String)} {e : CommandLine.CommandError}
    (h : x.outcome = .error e) : (Command.outcome s opening x).stdout = "" := by
  rw [Command.outcome, h]
  exact (CommandLine.reports_stopped s e).stdout

/-- A command whose document is not built prints nothing. -/
theorem stdout_run_of_build_error {c : Command} {s : Surroundings} {o : Output} {source : Source}
    {failure : Failure} (hsource : c.source? = some source)
    (hconfig : Config.generation s.host c.flags = .ok config)
    (hload : Document.load s.host.files s.stdin source.document = .ok document)
    (h : (build config document).outcome = .error failure) : (c.run s o).stdout = "" := by
  have hchecked : (CommandLine.loadSpec s source.document config).outcome =
      .error (.failure failure) := by
    refine (bind_error_of_ok (a := document) ?_).2 ?_
    · simp [CommandLine.checked, hload, Except.mapError]
    · simp [CommandLine.checked, h, Except.mapError]
  unfold Command.run
  simp only [hsource, hconfig]
  exact stdout_outcome_of_error (bind_error_iff.2 (.inl hchecked))

/-- **All views of a built spec answer exactly when its webhooks can be read.** -/
theorem views_answer_iff (config : GenerationConfig) (document : Entries) :
    (∀ spec, (build config document).outcome = .ok spec →
      ((∀ view, Checked.Answers (spec.answer view)) ↔ HasReadableWebhooks spec.document true)) ∧
    ∀ failure, (build config document).outcome = .error failure →
      ∀ (c : Command) (s : Surroundings) (o : Output) (source : Source),
        c.source? = some source → Config.generation s.host c.flags = .ok config →
        Document.load s.host.files s.stdin source.document = .ok document →
        (c.run s o).stdout = "" :=
  ⟨fun spec _ => answers_answer_iff spec,
    fun _ h _ _ _ _ hsource hconfig hload => stdout_run_of_build_error hsource hconfig hload h⟩

/-- A document with one webhook and nothing else. -/
def hookDocument (body : Value) : Entries :=
  [(.text "openapi", .text "3.1.0"),
    (.text "webhooks", .object [(.text "trip_created",
      .object [(.text "post", .object [(.text "requestBody", body)])])])]

def hookSpec (body : Value) : Spec where
  document := hookDocument body
  config := {}
  version := {}
  schemas := []
  actions := []

/-- Building looks at no body of a webhook but for the references in it. -/
theorem build_hookDocument {body : Value}
    (hfree : (Value.object (hookDocument body)).references = []) :
    (build {} (hookDocument body)).outcome = .ok (hookSpec body) := by
  have hformat : Document.formatVersion (hookDocument body) = .ok "3.1.0" :=
    Document.formatVersion_of_get rfl rfl rfl (by decide)
  have hspec : Quiet (build {} (hookDocument body)) (hookSpec body) :=
    quiet_build hformat (Reference.quiet_inlineValue_of_references hfree) rfl rfl rfl
  exact (quiet_iff.1 hspec).2

theorem hasReadableWebhooks_null : HasReadableWebhooks (hookDocument .null) true := by
  refine ⟨fun _ => rfl, fun es hes e he post hpost _ => ?_⟩
  cases hes
  obtain rfl := List.mem_singleton.1 he
  cases hpost
  exact ⟨nofun, nofun⟩

/-- A webhook without a request body can be read, so every view answers. -/
theorem views_answer_iff_bodiless : HasReadableWebhooks (hookSpec .null).document true ∧
    ∀ view, Checked.Answers ((hookSpec .null).answer view) :=
  ⟨hasReadableWebhooks_null,
    ((views_answer_iff {} (hookDocument .null)).1 _ (build_hookDocument rfl)).2
      hasReadableWebhooks_null⟩

/-- A request body that is a text is no reason not to build the document, but its webhooks cannot
be shown. -/
theorem not_forall_views_answer :
    ¬ ∀ (config : GenerationConfig) (document : Entries) (spec : Spec),
      (build config document).outcome = .ok spec → ∀ view, Checked.Answers (spec.answer view) := by
  intro hall
  have hbuilt : (build {} (hookDocument (.text "trip"))).outcome = _ := build_hookDocument rfl
  exact Checked.not_answers_error _ (hall {} _ _ hbuilt (.webhooks false))

end Spec

end SdkModel
