import ChannelGateway.Json.Value
/-!
# Failures of pipelines
-/

namespace ChannelGateway

inductive RequestPart where
  | params
  | headers
  | body
deriving DecidableEq, Repr

namespace RequestPart

def name : RequestPart → String
  | params => "PARAMS"
  | headers => "HEADERS"
  | body => "BODY"

/-- The context key under which the validated part is left. -/
def contextKey : RequestPart → String
  | params => "params"
  | headers => "headers"
  | body => "body"

def label : RequestPart → String
  | params => "Parameter"
  | headers => "Header"
  | body => "Body"

end RequestPart

structure Violation where
  /-- The place of the constraint in the schema, as a fragment. -/
  schemaPath : String
  /-- The place in the data, as a pointer. -/
  instancePath : String
  message : String
deriving DecidableEq, Repr

def Violation.toJson (v : Violation) : Json :=
  .object
    [("schema_path", .string v.schemaPath), ("instance_path", .string v.instancePath),
      ("message", .string v.message)]

structure ValidationFailure where
  part : RequestPart
  violation : Violation
deriving DecidableEq, Repr

def ValidationFailure.message (f : ValidationFailure) : String :=
  f.part.label ++ " validation error on " ++ f.violation.schemaPath ++ ": " ++ f.violation.message

inductive PipelineError where
  | validation (failure : ValidationFailure)
  /-- A handler failed with a message. -/
  | handler (message : String)
deriving DecidableEq, Repr

def PipelineError.message : PipelineError → String
  | validation failure => failure.message
  | handler message => "handler error: " ++ message

end ChannelGateway
