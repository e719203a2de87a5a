import ChannelGateway.Controller.Registry
/-!
# Binding operations to handlers

An operation is handled by the export of its name in the controller that it refers to.  A
factory is called once for every binding.  Where stubs are allowed, a stub stands in for what
cannot be resolved.
-/

namespace ChannelGateway

inductive ResolveError where
  | missingOperationId
  | moduleNotLoadable (module : String)
  | notCallable (operationId module : String)
  | nestedFactory (operationId : String)
deriving DecidableEq, Repr

def ResolveError.message : ResolveError → String
  | missingOperationId => "missing operation id"
  | moduleNotLoadable module => s!"module not loadable: no controller registered as '{module}'"
  | notCallable operationId module => s!"export is not callable: '{operationId}' in '{module}'"
  | nestedFactory operationId => s!"factory for '{operationId}' produced another factory"

structure FactoryCall where
  module : String
  operationId : String
deriving DecidableEq, Repr

structure Resolution where
  outcome : Except ResolveError (List Stage)
  factoryCalls : List FactoryCall

def Handler.resolve (handler : Handler) (module operationId : String) : Resolution :=
  match handler with
  | direct stage => ⟨.ok [stage], []⟩
  | sequence stages => ⟨.ok stages, []⟩
  | factory product =>
    let outcome := match product with
      | direct stage => .ok [stage]
      | sequence stages => .ok stages
      | factory _ => .error (.nestedFactory operationId)
    ⟨outcome, [⟨module, operationId⟩]⟩

structure Resolver where
  registry : ControllerRegistry
  /-- The place relative to which controllers are referred to. -/
  base : String
  /-- Whether stubs stand in for missing handlers. -/
  stubs : Bool

inductive Binding where
  | resolved (stages : List Stage)
  | stubbed (operationId : String) (reason : ResolveError)

def Binding.stages : Binding → List Stage
  | resolved stages => stages
  | stubbed operationId _ => [Stage.stub operationId]

structure BindingResult where
  outcome : Except ResolveError Binding
  factoryCalls : List FactoryCall
  events : List Event

namespace Resolver

def resolve (resolver : Resolver) (operationId : String) (controller : Option String) :
    Resolution :=
  if operationId = "" then ⟨.error .missingOperationId, []⟩
  else
    let module := ModuleKey.ofReference resolver.base (controller.getD "")
    match resolver.registry.lookup module with
    | none => ⟨.error (.moduleNotLoadable module), []⟩
    | some exports =>
      match exports.lookup operationId with
      | some (.handler handler) => handler.resolve module operationId
      | some (.value _) | none => ⟨.error (.notCallable operationId module), []⟩

def bind (resolver : Resolver) (operationId : String) (controller : Option String) :
    BindingResult :=
  let resolution := resolver.resolve operationId controller
  match resolution.outcome with
  | .ok stages => ⟨.ok (.resolved stages), resolution.factoryCalls, []⟩
  | .error reason =>
    if resolver.stubs then
      ⟨.ok (.stubbed operationId reason), resolution.factoryCalls,
        [.stubInstalled operationId reason.message]⟩
    else ⟨.error reason, resolution.factoryCalls, []⟩

end Resolver

end ChannelGateway
