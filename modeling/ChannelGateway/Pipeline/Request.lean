import ChannelGateway.Json.Value
/-!
# Requests

A request as the stages of a pipeline see it.
-/

namespace ChannelGateway

/-- A request on its way through pipelines. -/
structure Request where
  method : String
  path : String
  /-- The captures of the path, and what is left of it under the key `0`. -/
  params : Fields
  /-- The header values under their lower-case names. -/
  headers : Fields
  body : Json
  /-- The context, in which stages leave results for later ones. -/
  context : Fields
deriving DecidableEq

namespace Request

def publish (request : Request) (key : String) (value : Json) : Request :=
  { request with context := Fields.insert key value request.context }

def summary (request : Request) : Json :=
  .object
    [("method", .string request.method), ("path", .string request.path),
      ("params", .object request.params), ("headers", .object request.headers),
      ("body", request.body)]

end Request

end ChannelGateway
