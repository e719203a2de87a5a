import ChannelGateway.Pipeline.Event
import ChannelGateway.Pipeline.Request
import ChannelGateway.Pipeline.Response
/-!
# Stages and pipelines

A stage handles a request: it may change it, and it continues, answers or fails.  A pipeline runs
stages in order as long as they continue.
-/

namespace ChannelGateway

inductive Flow where
  | continue
  | respond (response : Response)
deriving DecidableEq, Repr

structure Step where
  outcome : Except PipelineError Flow
  /-- The request afterwards. -/
  request : Request
  events : List Event

structure Stage where
  run : Request → Step

namespace Stage

def ofUpdate (update : Request → Request) : Stage :=
  ⟨fun request => ⟨.ok .continue, update request, []⟩⟩

def ofDecision (decide : Request → Except PipelineError Flow) : Stage :=
  ⟨fun request => ⟨decide request, request, []⟩⟩

def set (key : String) (value : Json) : Stage := ofUpdate (·.publish key value)

/-- Appends to the array under a context key; anything else under the key is replaced. -/
def push (key : String) (value : Json) : Stage :=
  ofUpdate fun request =>
    let earlier := ((request.context.lookup key).bind Json.items?).getD []
    request.publish key (.array (earlier ++ [value]))

def record (key : String) : Stage := ofUpdate fun request => request.publish key request.summary

def replace (path : Option String) (headers params : Option Fields) (body : Option Json) : Stage :=
  ofUpdate fun request =>
    { request with
      path := path.getD request.path
      headers := headers.getD request.headers
      params := params.getD request.params
      body := body.getD request.body }

def echo : Stage := ofDecision fun request => .ok (.respond (.json 200 (.object request.context)))

def answer (response : Response) : Stage := ofDecision fun _ => .ok (.respond response)

def fail (error : PipelineError) : Stage := ofDecision fun _ => .error error

/-- Stands for the handler of an operation: reports the request and continues. -/
def stub (operationId : String) : Stage :=
  ⟨fun request => ⟨.ok .continue, request, [.stubInvoked operationId request.path]⟩⟩

end Stage

structure Pipeline where
  stages : List Stage

namespace Pipeline

def runFrom (index : Nat) : List Stage → Request → Step
  | [], request => ⟨.ok .continue, request, []⟩
  | stage :: rest, request =>
    let step := stage.run request
    match step.outcome with
    | .ok .continue =>
      let next := runFrom (index + 1) rest step.request
      { next with
        events := step.events ++ .stageContinued index step.request.path :: next.events }
    | _ => step

def run (p : Pipeline) (request : Request) : Step := runFrom 0 p.stages request

def length (p : Pipeline) : Nat := p.stages.length

def summary (p : Pipeline) : String :=
  "Pipeline \x7b stages: " ++ toString p.length ++ " \x7d"

end Pipeline

end ChannelGateway
