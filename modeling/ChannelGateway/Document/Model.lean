import ChannelGateway.Json.Value
/-!
# AsyncAPI documents

What the gateway keeps of a document: its channels with their parameters, operations and messages.
-/

namespace ChannelGateway

structure Parameter where
  name : String
  description : Option String
  /-- The schema of its values, the empty one if none is declared. -/
  schema : Json
  /-- The runtime expression that tells where the value comes from. -/
  location : Option String
deriving DecidableEq

structure Message where
  name : Option String
  contentType : Option String
  /-- The payload schema with identifiers. -/
  payload : Json
  /-- The payload schema as declared, references resolved. -/
  originalPayload : Json
  /-- The header schema with identifiers, if there is one. -/
  headers : Option Json
deriving DecidableEq

structure Operation where
  operationId : Option String
  summary : Option String
  /-- Tag names in declaration order. -/
  tags : List String
  /-- The controller module that implements the operation. -/
  controller : Option String
  message : Message
  /-- The gateway's own extensions, sorted by key. -/
  extensions : Fields
deriving DecidableEq

structure Channel where
  /-- The address, with `{name}` placeholders. -/
  name : String
  description : Option String
  /-- Parameters in declaration order. -/
  parameters : List Parameter
  /-- The operation with which clients send messages to the channel. -/
  publish : Option Operation
  subscribe : Option Operation
deriving DecidableEq

structure Document where
  /-- The name of the file it was read from. -/
  filename : Option String
  /-- The version of the specification that it follows. -/
  version : String
  title : String
  /-- The version of the described interface. -/
  apiVersion : String
  defaultContentType : Option String
  /-- Channels in declaration order. -/
  channels : List Channel
  /-- The gateway's own extensions, sorted by key. -/
  extensions : Fields
deriving DecidableEq

def Parameter.declaredType? (p : Parameter) : Option String :=
  (p.schema.get? "type").bind Json.string?

def Operation.hasTag (o : Operation) (tag : String) : Bool := o.tags.contains tag

def Channel.parameter? (c : Channel) (name : String) : Option Parameter :=
  c.parameters.find? (·.name = name)

def Document.channelNames (d : Document) : List String := d.channels.map (·.name)

def Document.channel? (d : Document) (name : String) : Option Channel :=
  d.channels.find? (·.name = name)

end ChannelGateway
