import SdkModel.Spec.Basic

/-!
# Webhooks

The webhooks of a document with the schema that each one delivers. Deprecated ones are left out
unless they are asked for; a webhook is deprecated when its operation or its payload is.
-/

namespace SdkModel

structure Webhook where
  type : String
  schemaName : Option String
deriving DecidableEq, Repr

namespace Webhook

def toValue (w : Webhook) : Value := .record [
  ("type", .text w.type), ("resource_schema_name", .optText w.schemaName)]

/-- The object of the payload schema that a webhook operation declares. -/
def payload? (post : Option Entries) : Checked (Option Entries) := do
  let body ← ((post.getD []).get "requestBody").optionalEntries
  let content ← (body.get "content").optionalEntries
  return (content.get Action.jsonType).entries?.bind fun media => (media.get "schema").entries?

/-- The schema that a payload refers to. -/
def schemaName? (payload : Entries) : Option String :=
  let ref := payload.get referenceKey
  if ref.isTelling then some (Text.afterLast '/' ref.display) else none

/-- The webhook of one entry; none when it is left out. -/
def ofEntry (deprecatedToo : Bool) (type : String) (item : Value) : Checked (Option Webhook) := do
  let post := item.entries?.bind fun es => (es.get "post").entries?
  let isDeprecated (es : Entries) : Bool := !deprecatedToo && (es.get "deprecated").isTelling
  if post.any isDeprecated then return none
  match ← payload? post with
  | none => return some ⟨type, none⟩
  | some payload =>
    if isDeprecated payload then return none
    return some ⟨type, schemaName? payload⟩

/-- The webhooks of the entries, in order. -/
def ofEntries (deprecatedToo : Bool) : Entries → Checked (List Webhook)
  | [] => return []
  | (k, item) :: rest => do
    let w ← ofEntry deprecatedToo k.display item
    return w.toList ++ (← ofEntries deprecatedToo rest)

end Webhook

namespace Spec

/-- The webhooks of a document, in order. -/
def webhooks (spec : Spec) (deprecatedToo : Bool) : Checked (List Webhook) := do
  let entries ← (spec.document.get "webhooks").optionalEntries
  Webhook.ofEntries deprecatedToo entries

/-- The whole model as a value. -/
def toValue (spec : Spec) : Checked Value := do
  let webhooks ← spec.webhooks false
  return .record [("version", spec.version.toValue),
    ("resources", .list (spec.resources.map Resource.toValue)),
    ("global_enums", .list (spec.globalEnums.map Enum.toValue)),
    ("errors", .list (spec.errorResources.map ErrorResource.toValue)),
    ("webhooks", .list (webhooks.map Webhook.toValue))]

end Spec

end SdkModel
