import ChannelGateway.Document.SchemaIds
import ChannelGateway.Document.Model
import ChannelGateway.Text.Segments
/-!
# Routes of a document

Every publish operation becomes a route: a pattern derived from the channel's address, and a schema
for each part of the request.
-/

namespace ChannelGateway

structure RouteSpec where
  /-- The pattern, with `:name` captures. -/
  route : String
  channel : String
  operationId : Option String
  controller : Option String
  payloadSchema : Json
  headerSchema : Json
  parametersSchema : Json
deriving DecidableEq

namespace RouteSpec

/-- The pattern of an address: an opening brace becomes a colon, a closing one is dropped. -/
def routeOfAddress (address : List Char) : List Char :=
  (address.filter (· ≠ '\x7d')).map fun c => if c = '\x7b' then ':' else c

/-- The keywords of a parameter's schema that its route checks. -/
def parameterKeywords : List String := ["type", "format", "enum", "pattern"]

def propertySchema (p : Parameter) : Json :=
  .object (parameterKeywords.filterMap fun keyword =>
    (p.schema.get? keyword).map fun value => (keyword, value))

/-- The schema of a channel's parameters: an object with exactly the declared ones. -/
def parametersSchemaOf (parameters : List Parameter) : Json :=
  .object
    [("type", .string "object"),
      ("additionalProperties", .bool false),
      ("properties", .object (Fields.ofList (parameters.map fun p => (p.name, propertySchema p)))),
      ("required", .array (parameters.map fun p => .string p.name))]

/-- The schema of a message's headers without identifiers; any object if none is declared. -/
def headerSchemaOf (message : Message) : Json :=
  match message.headers with
  | some headers => SchemaIds.strip headers
  | none => .object [("type", .string "object")]

def ofOperation (channel : Channel) (operation : Operation) : RouteSpec :=
  { route := String.ofList (routeOfAddress channel.name.toList)
    channel := channel.name
    operationId := operation.operationId
    controller := operation.controller
    payloadSchema := operation.message.originalPayload
    headerSchema := headerSchemaOf operation.message
    parametersSchema := parametersSchemaOf channel.parameters }

/-- The routes of a document in channel order.  With a tag, only operations that carry it count. -/
def ofDocument (document : Document) (tag : Option String) : List RouteSpec :=
  document.channels.filterMap fun channel =>
    (channel.publish.filter fun operation => tag.all operation.hasTag).map (ofOperation channel)

end RouteSpec

end ChannelGateway
