import ChannelGateway.Json.Printer
/-!
# Responses
-/

namespace ChannelGateway

structure Response where
  status : Nat
  contentType : Option String
  /-- The methods that a refused request could have used. -/
  allow : Option String
  body : String
deriving DecidableEq, Repr

namespace Response

def empty (status : Nat) : Response := ⟨status, none, none, ""⟩

def json (status : Nat) (value : Json) : Response :=
  ⟨status, some "application/json", none, value.compact⟩

def text (status : Nat) (body : String) : Response :=
  ⟨status, some "text/plain; charset=utf-8", none, body⟩

end Response

end ChannelGateway
