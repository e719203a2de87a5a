import ChannelGateway.Pipeline.Failure
import ChannelGateway.Pipeline.Response
/-!
# Problem details

The body of the answer to a request that was not served.
-/

namespace ChannelGateway

structure Problem where
  /-- The last part of the identifier of its type. -/
  slug : String
  title : String
  status : Nat
  detail : Option String
  /-- The path of the request. -/
  path : String
  /-- Further fields.  No order is prescribed for them. -/
  extensions : Fields
deriving DecidableEq

/-- An order in which the further fields of problems are written: any one is as good as another. -/
structure Arrangement where
  order : Fields → Fields
  perm : ∀ fields, (order fields).Perm fields

namespace Arrangement

def asStated : Arrangement := ⟨id, fun _ => .refl _⟩

def reversed : Arrangement := ⟨List.reverse, List.reverse_perm⟩

end Arrangement

namespace Problem

def arranged (p : Problem) (arrangement : Arrangement) : Problem :=
  { p with extensions := arrangement.order p.extensions }

def contentType : String := "application/problem+json"

def partSlug : RequestPart → String
  | .params => "params"
  | .headers => "header"
  | .body => "body"

/-- A part of the request does not fit its schema.  Only in development the violation is shown. -/
def ofValidation (failure : ValidationFailure) (path : String) (devMode : Bool) : Problem :=
  { slug := partSlug failure.part ++ "-validation-failed"
    title := "Request validation failed"
    status := 400
    detail := some failure.message
    path
    extensions :=
      ("target", .string failure.part.name) ::
        if devMode then [("violation", failure.violation.toJson)] else [] }

/-- A handler failed.  Only in development its message is shown. -/
def ofHandler (message path : String) (devMode : Bool) : Problem :=
  { slug := "handler-failed"
    title := "Internal Server Error"
    status := 500
    detail := if devMode then some message else none
    path
    extensions := [] }

def badRequest (detail path : String) : Problem :=
  { slug := "bad-request", title := "Bad Request", status := 400, detail := some detail, path
    extensions := [] }

def notFound (path : String) : Problem :=
  { slug := "not-found"
    title := "Not Found"
    status := 404
    detail := some ("no route matches '" ++ path ++ "'")
    path
    extensions := [] }

def toJson (p : Problem) : Json :=
  .object
    ([("type", .string ("urn:asyncgate:error:" ++ p.slug)), ("title", .string p.title),
      ("status", .ofNat p.status)] ++
      (p.detail.elim [] fun detail => [("detail", .string detail)]) ++
      ("instance", .string p.path) :: p.extensions)

def toResponse (p : Problem) : Response := ⟨p.status, some contentType, none, p.toJson.compact⟩

end Problem

end ChannelGateway
