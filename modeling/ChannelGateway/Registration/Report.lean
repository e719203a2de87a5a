import ChannelGateway.Json.Value
/-!
# Registration reports

What was registered: the routes with their patterns, their stage counts and how they are handled.
-/

namespace ChannelGateway

inductive HandlerStatus where
  | resolved
  /-- By a stub, for a reason. -/
  | stubbed (reason : String)
  /-- Not at all: handlers are switched off. -/
  | suppressed
deriving DecidableEq, Repr

def HandlerStatus.name : HandlerStatus → String
  | resolved => "resolved"
  | stubbed _ => "stubbed"
  | suppressed => "suppressed"

structure RegisteredRoute where
  /-- The pattern as it was mounted. -/
  pattern : String
  /-- The pattern as it is served: with a leading slash and no empty segments. -/
  path : String
  channel : String
  operationId : Option String
  /-- The length of the pipeline. -/
  stages : Nat
  handler : HandlerStatus
deriving DecidableEq, Repr

def RegisteredRoute.toJson (r : RegisteredRoute) : Json :=
  .object
    ([("pattern", .string r.pattern), ("path", .string r.path), ("channel", .string r.channel)] ++
      (r.operationId.elim [] fun id => [("operation_id", .string id)]) ++
      [("stages", .ofNat r.stages), ("handler", .string r.handler.name)] ++
      match r.handler with
      | .stubbed reason => [("stub_reason", .string reason)]
      | _ => [])

structure Registration where
  title : String
  version : String
  routes : List RegisteredRoute
deriving DecidableEq, Repr

namespace Registration

def empty : Registration := ⟨"", "", []⟩

def stageCount (r : Registration) : Nat :=
  r.routes.foldr (fun route count => route.stages + count) 0

def toJson (r : Registration) : Json :=
  .object
    [("title", .string r.title), ("version", .string r.version),
      ("routes", .array (r.routes.map RegisteredRoute.toJson))]

end Registration

end ChannelGateway
