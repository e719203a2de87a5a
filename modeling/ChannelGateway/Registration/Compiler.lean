import ChannelGateway.Controller.Binding
import ChannelGateway.Pipeline.Validation
import ChannelGateway.Registration.Options
import ChannelGateway.Registration.Report
import ChannelGateway.Route.Spec
/-!
# Registration

The routes of a document are compiled to pipelines, which check the parameters, the headers and the
body and then handle the operation.  All of them are compiled before the first one is mounted, so a
failure leaves the host as it was.
-/

namespace ChannelGateway

inductive RegistrationError where
  | document (error : DocumentError)
  | schema (channel : String) (part : RequestPart) (error : Schema.SchemaError)
  | handler (channel : String) (error : ResolveError)
  | options (error : OptionsError)

namespace RegistrationError

def code : RegistrationError → String
  | document error => error.code
  | schema .. => "E1020"
  | handler .. => "E1030"
  | options _ => "E1040"

def message : RegistrationError → String
  | document error => error.message
  | schema channel part error =>
    s!"E1020: invalid {part.name} schema on channel '{channel}': {error.message}"
  | handler channel error =>
    s!"E1030: cannot resolve handler for channel '{channel}': {error.message}"
  | options error => "config error: " ++ error.message

end RegistrationError

structure CompilationTrace where
  events : List Event
  factoryCalls : List FactoryCall

namespace CompilationTrace

def empty : CompilationTrace := ⟨[], []⟩

def append (a b : CompilationTrace) : CompilationTrace :=
  ⟨a.events ++ b.events, a.factoryCalls ++ b.factoryCalls⟩

instance : Append CompilationTrace := ⟨append⟩

end CompilationTrace

structure CompiledRoute where
  stages : List Stage
  entry : RegisteredRoute

structure Compilation (α : Type) where
  outcome : Except RegistrationError α
  trace : CompilationTrace

class Host (H : Type) where
  /-- Adds a pipeline under a pattern. -/
  mount : H → String → List Stage → H

/-- A host that only notes what is mounted, in order. -/
abbrev MountRecord := List (String × List Stage)

instance : Host MountRecord := ⟨fun mounts pattern stages => mounts ++ [(pattern, stages)]⟩

structure RegistrationResult (H : Type) where
  outcome : Except RegistrationError Registration
  host : H
  trace : CompilationTrace

structure RouteCompiler where
  options : RegistrationOptions
  controllers : ControllerRegistry
  /-- Whether formats are checked. -/
  formats : Bool

namespace RouteCompiler

def resolver (c : RouteCompiler) : Resolver :=
  ⟨c.controllers, c.options.controllers, c.options.stubMiddleware⟩

def partSchema (spec : RouteSpec) : RequestPart → Json
  | .params => spec.parametersSchema
  | .headers => spec.headerSchema
  | .body => spec.payloadSchema

def validationStage (c : RouteCompiler) (spec : RouteSpec) (part : RequestPart) :
    Except RegistrationError Stage :=
  match Stage.validation part (partSchema spec part) c.formats with
  | .ok stage => .ok stage
  | .error e => .error (.schema spec.channel part e)

def validationStages (c : RouteCompiler) (spec : RouteSpec) :
    Except RegistrationError (List Stage) := do
  let params ← c.validationStage spec .params
  let headers ← c.validationStage spec .headers
  let body ← c.validationStage spec .body
  return [params, headers, body]

def routeOf (spec : RouteSpec) (stages : List Stage) (handler : HandlerStatus) : CompiledRoute :=
  ⟨stages,
    { pattern := spec.route
      path := String.ofList (Segments.normalize spec.route.toList)
      channel := spec.channel
      operationId := spec.operationId
      stages := stages.length
      handler }⟩

/-- Compiles a route: parameters, headers and body are checked in this order, and then come the
handler's stages, if there is to be one. -/
def compileRoute (c : RouteCompiler) (spec : RouteSpec) : Compilation CompiledRoute :=
  match c.validationStages spec with
  | .error e => ⟨.error e, .empty⟩
  | .ok validation =>
    if !c.options.requireController then ⟨.ok (routeOf spec validation .suppressed), .empty⟩
    else
      let result := c.resolver.bind (spec.operationId.getD "") spec.controller
      let trace : CompilationTrace := ⟨result.events, result.factoryCalls⟩
      match result.outcome with
      | .error e => ⟨.error (.handler spec.channel e), trace⟩
      | .ok binding =>
        let status := match binding with
          | .resolved _ => HandlerStatus.resolved
          | .stubbed _ reason => .stubbed reason.message
        ⟨.ok (routeOf spec (validation ++ binding.stages) status), trace⟩

def compileRoutes (c : RouteCompiler) : List RouteSpec → Compilation (List CompiledRoute)
  | [] => ⟨.ok [], .empty⟩
  | spec :: rest =>
    let first := c.compileRoute spec
    match first.outcome with
    | .error e => ⟨.error e, first.trace⟩
    | .ok route =>
      let others := c.compileRoutes rest
      ⟨others.outcome.map (route :: ·), first.trace ++ others.trace⟩

def registeredEvent (route : RegisteredRoute) : Event :=
  .routeRegistered route.pattern route.channel route.operationId route.stages

def registerDocument {H : Type} [Host H] (c : RouteCompiler) (host : H) (document : Document) :
    RegistrationResult H :=
  let compilation := c.compileRoutes (RouteSpec.ofDocument document c.options.tag)
  match compilation.outcome with
  | .error e => ⟨.error e, host, compilation.trace⟩
  | .ok routes =>
    ⟨.ok ⟨document.title, document.apiVersion, routes.map (·.entry)⟩,
      routes.foldl (fun host route => Host.mount host route.entry.pattern route.stages) host,
      { compilation.trace with
        events := compilation.trace.events ++ routes.map fun route => registeredEvent route.entry }⟩

def register {H : Type} [Host H] (c : RouteCompiler) (host : H) (source : DocumentSource) :
    RegistrationResult H :=
  match Document.ofSource source with
  | .ok document => c.registerDocument host document
  | .error e => ⟨.error (.document e), host, .empty⟩

end RouteCompiler

end ChannelGateway
