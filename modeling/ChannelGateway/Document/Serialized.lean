import ChannelGateway.Document.Reader
/-!
# The serialized form of documents

A document is written as a JSON object with a field for each of its parts; what is absent is written
as null.  Reading takes a missing field or a null as absent, and ignores unknown fields.
-/

namespace ChannelGateway

namespace Serialized

def ofOption {α : Type} (write : α → Json) : Option α → Json
  | some a => write a
  | none => .null

def optional? {α : Type} (read : Json → Option α) (fields : Fields) (key : String) :
    Option (Option α) :=
  match fields.lookup key with
  | none => some none
  | some .null => some none
  | some value => (read value).map some

def required? {α : Type} (read : Json → Option α) (fields : Fields) (key : String) : Option α :=
  (fields.lookup key).bind read

def list? {α : Type} (read : Json → Option α) (value : Json) : Option (List α) :=
  value.items?.bind fun items => items.mapM read

end Serialized

open Serialized

def Parameter.toJson (p : Parameter) : Json :=
  .object [("name", .string p.name), ("description", Json.ofString? p.description),
    ("schema", p.schema), ("location", Json.ofString? p.location)]

def Parameter.ofJson? (value : Json) : Option Parameter := do
  let fields ← value.fields?
  let name ← required? Json.string? fields "name"
  let description ← optional? Json.string? fields "description"
  let schema ← fields.lookup "schema"
  let location ← optional? Json.string? fields "location"
  pure ⟨name, description, schema, location⟩

def Message.toJson (m : Message) : Json :=
  .object [("name", Json.ofString? m.name), ("content_type", Json.ofString? m.contentType),
    ("payload", m.payload), ("original_payload", m.originalPayload),
    ("headers", m.headers.getD .null)]

def Message.ofJson? (value : Json) : Option Message := do
  let fields ← value.fields?
  let name ← optional? Json.string? fields "name"
  let contentType ← optional? Json.string? fields "content_type"
  let payload ← fields.lookup "payload"
  let originalPayload ← fields.lookup "original_payload"
  let headers ← optional? some fields "headers"
  pure ⟨name, contentType, payload, originalPayload, headers⟩

def Operation.toJson (o : Operation) : Json :=
  .object [("operation_id", Json.ofString? o.operationId), ("summary", Json.ofString? o.summary),
    ("tags", .array (o.tags.map .string)), ("controller", Json.ofString? o.controller),
    ("message", o.message.toJson), ("extensions", .object o.extensions)]

def Operation.ofJson? (value : Json) : Option Operation := do
  let fields ← value.fields?
  let operationId ← optional? Json.string? fields "operation_id"
  let summary ← optional? Json.string? fields "summary"
  let tags ← required? (list? Json.string?) fields "tags"
  let controller ← optional? Json.string? fields "controller"
  let message ← required? Message.ofJson? fields "message"
  let extensions ← required? Json.fields? fields "extensions"
  pure ⟨operationId, summary, tags, controller, message, extensions.sorted⟩

def Channel.toJson (c : Channel) : Json :=
  .object [("name", .string c.name), ("description", Json.ofString? c.description),
    ("parameters", .array (c.parameters.map Parameter.toJson)),
    ("publish", ofOption Operation.toJson c.publish),
    ("subscribe", ofOption Operation.toJson c.subscribe)]

def Channel.ofJson? (value : Json) : Option Channel := do
  let fields ← value.fields?
  let name ← required? Json.string? fields "name"
  let description ← optional? Json.string? fields "description"
  let parameters ← required? (list? Parameter.ofJson?) fields "parameters"
  let publish ← optional? Operation.ofJson? fields "publish"
  let subscribe ← optional? Operation.ofJson? fields "subscribe"
  pure ⟨name, description, parameters, publish, subscribe⟩

namespace Document

def toJson (d : Document) : Json :=
  .object [("filename", Json.ofString? d.filename), ("version", .string d.version),
    ("title", .string d.title), ("api_version", .string d.apiVersion),
    ("default_content_type", Json.ofString? d.defaultContentType),
    ("channels", .array (d.channels.map Channel.toJson)), ("extensions", .object d.extensions)]

def ofSerialized? (value : Json) : Option Document := do
  let fields ← value.fields?
  let filename ← optional? Json.string? fields "filename"
  let version ← required? Json.string? fields "version"
  let title ← required? Json.string? fields "title"
  let apiVersion ← required? Json.string? fields "api_version"
  let defaultContentType ← optional? Json.string? fields "default_content_type"
  let channels ← required? (list? Channel.ofJson?) fields "channels"
  let extensions ← required? Json.fields? fields "extensions"
  pure ⟨filename, version, title, apiVersion, defaultContentType, channels, extensions.sorted⟩

end Document

end ChannelGateway
