import ChannelGateway.Host.Problem
import ChannelGateway.Registration.Compiler
import ChannelGateway.Text.Quoted
/-!
# Applications

An application tries its layers in the order in which they were mounted.  A layer takes part if its
pattern matches the path that the request has by then.
-/

namespace ChannelGateway

structure Layer where
  pattern : RoutePattern
  pipeline : Pipeline

structure App where
  layers : List Layer
  /-- Whether answers show details of failures. -/
  devMode : Bool
  /-- The order in which the further fields of problems happen to come.  Clients cannot
  rely on it. -/
  arrangement : Arrangement

structure Dispatch where
  response : Response
  /-- The request afterwards. -/
  request : Request
  events : List Event

namespace App

def empty (devMode : Bool) : App := ⟨[], devMode, .asStated⟩

def mount (app : App) (pattern : String) (stages : List Stage) : App :=
  { app with layers := app.layers ++ [⟨RoutePattern.parse pattern.toList, ⟨stages⟩⟩] }

instance : Host App := ⟨mount⟩

def routes (app : App) : List (String × Nat) :=
  app.layers.map fun layer => (String.ofList layer.pattern.text, layer.pipeline.length)

def summary (app : App) : String :=
  let route : String × Nat → String := fun (pattern, stages) =>
    "MountedRoute \x7b pattern: " ++ Quoted.encode pattern ++ ", stages: " ++
      toString stages ++ " \x7d"
  "App \x7b routes: [" ++ ", ".intercalate (app.routes.map route) ++ "], dev_mode: " ++
    toString app.devMode ++ " \x7d"

/-- The problem of a failed pipeline, and the event that reports it. -/
def problemOf (app : App) (route path : String) : PipelineError → Problem × Event
  | .validation failure =>
    ((Problem.ofValidation failure path app.devMode).arranged app.arrangement,
      .validationFailed route path failure)
  | .handler message => (.ofHandler message path app.devMode, .handlerFailed route path message)

/-- Tries layers in order; `matched` tells whether an earlier one took part. -/
def dispatchLayers (app : App) (matched : Bool) : List Layer → Request → Dispatch
  | [], request =>
    let response :=
      if matched then .json 202 (.object request.context)
      else (Problem.notFound request.path).toResponse
    ⟨response, request, []⟩
  | layer :: rest, request =>
    match layer.pattern.matchPath? request.path.toList with
    | none => dispatchLayers app matched rest request
    | some params =>
      let step := layer.pipeline.run { request with params }
      match step.outcome with
      | .ok .continue =>
        let next := dispatchLayers app true rest step.request
        { next with events := step.events ++ next.events }
      | .ok (.respond response) => ⟨response, step.request, step.events⟩
      | .error error =>
        let (problem, event) :=
          app.problemOf (String.ofList layer.pattern.text) step.request.path error
        ⟨problem.toResponse, step.request, step.events ++ [event]⟩

def dispatch (app : App) (request : Request) : Dispatch :=
  let result := app.dispatchLayers false app.layers request
  { result with
    events := result.events ++
      [.requestCompleted result.request.method result.request.path result.response.status] }

end App

end ChannelGateway
