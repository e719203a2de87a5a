import ChannelGateway.Gateway.Http
import ChannelGateway.Host.App
import ChannelGateway.Json.Reader
import ChannelGateway.Text.Utf8
/-!
# The gateway

The gateway turns HTTP requests into requests of an application.  Paths under a reserved name are
answered by the gateway itself.
-/

namespace ChannelGateway

structure Gateway where
  app : App
  registration : Registration

namespace Gateway

def internalRoot : String := "/__asyncgate/"

def routeCount (g : Gateway) : Nat := g.app.layers.length

/-- The readable values of each header under its lower-case name, names in the order in which they
first occur and values joined in order. -/
def headerFields (headers : List (String × String)) : Fields :=
  let lines := headers.map fun (name, value) => (name.toLower, value)
  (lines.map Prod.fst).eraseDups.filterMap fun name =>
    match (lines.filter fun (other, value) =>
        other = name && Http.isReadable value).map Prod.snd with
    | [] => none
    | values => some (name, .string (", ".intercalate values))

def occursIn (part : List Char) : List Char → Bool
  | [] => part.isEmpty
  | c :: rest => part.isPrefixOf (c :: rest) || occursIn part rest

def isJsonType (contentType : String) : Bool := occursIn "json".toList contentType.toLower.toList

def readJson? (bytes : List UInt8) : Option Json :=
  (Utf8.decode? bytes).bind fun text => Json.read? (String.ofList text)

def readText (bytes : List UInt8) : Json := .string (String.ofList (Utf8.decodeLossy bytes))

/-- The message of a body.  An empty body is null, JSON has to be well-formed, and without a content
type JSON is tried first. -/
def decodeBody? (headers : Fields) (bytes : List UInt8) : Option Json :=
  if bytes.isEmpty then some .null
  else match (headers.lookup "content-type").bind Json.string? with
    | none => some ((readJson? bytes).getD (readText bytes))
    | some contentType => if isJsonType contentType then readJson? bytes else some (readText bytes)

/-- Answers a request to a reserved path, given the part after the reserved start. -/
def internalResponse (g : Gateway) (endpoint method path : String) : Response :=
  if method ≠ "GET" then { Response.empty 405 with allow := some "GET" }
  else match endpoint with
    | "health" =>
      .json 200 (.object
        [("status", .string "healthy"), ("title", .string g.registration.title),
          ("version", .string g.registration.version), ("routes_count", .ofNat g.routeCount)])
    | "routes" => .json 200 g.registration.toJson
    | _ => (Problem.notFound path).toResponse

def respond (g : Gateway) (request : HttpRequest) : Response × List Event :=
  match internalRoot.toList.isPrefixOf? request.path.toList with
  | some endpoint => (g.internalResponse (String.ofList endpoint) request.method request.path, [])
  | none =>
    let headers := headerFields request.headers
    match request.body with
    | .error reason =>
      ((Problem.badRequest ("failed to read request body: " ++ reason) request.path).toResponse, [])
    | .ok bytes =>
      match decodeBody? headers bytes with
      | none =>
        ((Problem.badRequest "invalid JSON body: malformed text" request.path).toResponse, [])
      | some body =>
        let result := g.app.dispatch
          { method := request.method
            path := request.path
            params := []
            headers
            body
            context := [] }
        (result.response, result.events)

end Gateway

end ChannelGateway
