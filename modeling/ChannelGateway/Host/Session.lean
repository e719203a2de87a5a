import ChannelGateway.Host.App
/-!
# Sessions

The life of an application: routes are mounted and registered, and requests are dispatched.  A
session keeps what happened so far.
-/

namespace ChannelGateway

structure Session where
  app : App
  /-- The report of the last registration that succeeded. -/
  registration : Registration
  factoryCalls : List FactoryCall
  events : List Event

namespace Session

def start (devMode : Bool) : Session := ⟨.empty devMode, .empty, [], []⟩

def mount (s : Session) (pattern : String) (stages : List Stage) : Session :=
  { s with app := s.app.mount pattern stages }

def setDevMode (s : Session) (devMode : Bool) : Session := { s with app := { s.app with devMode } }

def register (s : Session) (compiler : RouteCompiler) (source : DocumentSource) :
    Except RegistrationError Registration × Session :=
  let result := compiler.register s.app source
  (result.outcome,
    { app := result.host
      registration := match result.outcome with
        | .ok registration => registration
        | .error _ => s.registration
      factoryCalls := s.factoryCalls ++ result.trace.factoryCalls
      events := s.events ++ result.trace.events })

def dispatch (s : Session) (request : Request) : Dispatch × Session :=
  let result := s.app.dispatch request
  (result, { s with events := s.events ++ result.events })

end Session

end ChannelGateway
