import ChannelGateway.Pipeline.Failure
/-!
# Events

What the gateway reports while it registers routes and answers requests.
-/

namespace ChannelGateway

inductive EventLevel where
  | trace
  | debug
  | info
  | warn
  | error
deriving DecidableEq, Repr

def EventLevel.name : EventLevel → String
  | trace => "TRACE"
  | debug => "DEBUG"
  | info => "INFO"
  | warn => "WARN"
  | error => "ERROR"

inductive Event where
  | routeRegistered (pattern channel : String) (operationId : Option String) (stages : Nat)
  | stubInstalled (operationId reason : String)
  | stubInvoked (operationId path : String)
  | stageContinued (index : Nat) (path : String)
  | requestRejected (part : RequestPart) (path : String) (violations : Nat)
  | validationFailed (route path : String) (failure : ValidationFailure)
  | handlerFailed (route path message : String)
  | requestCompleted (method path : String) (status : Nat)
deriving DecidableEq

namespace Event

def level : Event → EventLevel
  | routeRegistered .. | requestCompleted .. => .info
  | stubInstalled .. | stubInvoked .. | validationFailed .. => .warn
  | stageContinued .. => .trace
  | requestRejected .. => .debug
  | handlerFailed .. => .error

def stubMessage (operationId path : String) : String :=
  "Here should be the handler for operation " ++ operationId ++ " called by " ++ path

def fields : Event → Fields
  | routeRegistered pattern channel operationId stages =>
    [("channel", .string channel), ("event", .string "route_registered"),
      ("message", .string "route registered"), ("operation_id", .string (operationId.getD "")),
      ("pattern", .string pattern), ("stages", .ofNat stages)]
  | stubInstalled operationId reason =>
    [("message", .string "operation handler unresolved, installing stub"),
      ("operation_id", .string operationId), ("reason", .string reason)]
  | stubInvoked operationId path =>
    [("event", .string "stub_invoked"), ("message", .string (stubMessage operationId path)),
      ("operation_id", .string operationId), ("path", .string path)]
  | stageContinued index path =>
    [("message", .string "stage continued"), ("path", .string path), ("stage", .ofNat index)]
  | requestRejected part path violations =>
    [("message", .string "request failed validation"), ("path", .string path),
      ("validation_target", .string part.name), ("violations", .ofNat violations)]
  | validationFailed route path failure =>
    [("event", .string "validation_failure"), ("message", .string failure.message),
      ("path", .string path), ("route", .string route),
      ("schema_path", .string failure.violation.schemaPath),
      ("validation_target", .string failure.part.name)]
  | handlerFailed route path message =>
    [("error", .string message), ("event", .string "handler_error"), ("path", .string path),
      ("route", .string route)]
  | requestCompleted method path status =>
    [("event", .string "request_completed"), ("method", .string method), ("path", .string path),
      ("status", .ofNat status)]

end Event

end ChannelGateway
