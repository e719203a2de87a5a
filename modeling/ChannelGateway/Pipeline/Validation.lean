import ChannelGateway.Document.SchemaIds
import ChannelGateway.Pipeline.Stage
import ChannelGateway.Route.Pattern
import ChannelGateway.Schema.Validator
/-!
# Validation stages

A stage that checks one part of the request.  What it accepts is left in the context; the request
itself stays as it is.
-/

namespace ChannelGateway

def Schema.Mismatch.violation (m : Schema.Mismatch) : Violation :=
  ⟨"#" ++ Pointer.text m.position.keyword, Pointer.text m.position.value, m.message⟩

namespace RequestPart

/-- The data of a part.  What is left of the path is not a parameter. -/
def data (part : RequestPart) (request : Request) : Json :=
  match part with
  | params => .object (Fields.erase RoutePattern.remainderKey request.params)
  | headers => .object request.headers
  | body => request.body

/-- Whether the data of a part consists of texts, which are coerced before they are checked. -/
def coercion : RequestPart → CoercionMode
  | params | headers => .scalars
  | body => .none

/-- The schema against which a part is checked: header schemas lose their identifiers. -/
def effectiveSchema (part : RequestPart) (schema : Json) : Json :=
  match part with
  | headers => SchemaIds.strip schema
  | params | body => schema

end RequestPart

namespace Stage

def check (part : RequestPart) (validator : Validator) : Stage :=
  ⟨fun request =>
    match validator.validate (part.data request) with
    | .ok value => ⟨.ok .continue, request.publish part.contextKey value, []⟩
    | .error rejection =>
      ⟨.error (.validation ⟨part, rejection.first.violation⟩), request,
        [.requestRejected part request.path rejection.toList.length]⟩⟩

def validation (part : RequestPart) (schema : Json) (formats : Bool) :
    Except Schema.SchemaError Stage :=
  (Validator.ofSchema (part.effectiveSchema schema) part.coercion formats).map (check part)

end Stage

end ChannelGateway
