import ChannelGateway.Host.App
import ChannelGateway.Proofs.Pipeline.Run
/-!
# Answers to requests

A request gets to the layers of an application in the order in which they were mounted.  A layer
takes part if its pattern matches the path that the request has by then, and the first pipeline
that does not continue decides the answer.
-/

namespace ChannelGateway

def Stage.Reports (stage : Stage) (event : Event) : Prop :=
  ∃ request, event ∈ (stage.run request).events

theorem Pipeline.mem_events_runFrom {stages : List Stage} {index : Nat} {request : Request}
    {event : Event} (h : event ∈ (runFrom index stages request).events) :
    (∃ stage ∈ stages, stage.Reports event) ∨
      ∃ position path, event = .stageContinued position path := by
  induction stages generalizing index request with
  | nil => cases h
  | cons stage rest ih =>
      by_cases hstage : (stage.run request).outcome = .ok .continue
      · rw [runFrom_cons_continue hstage] at h
        rcases List.mem_append.1 h with hown | hrest
        · rcases List.mem_append.1 hown with hevent | hnote
          · exact Or.inl ⟨stage, List.mem_cons_self, request, hevent⟩
          · exact Or.inr ⟨index, _, List.mem_singleton.1 hnote⟩
        · rcases ih hrest with ⟨other, hother, hreports⟩ | hnote
          · exact Or.inl ⟨other, List.mem_cons_of_mem stage hother, hreports⟩
          · exact Or.inr hnote
      · rw [runFrom_cons_of_ne hstage] at h
        exact Or.inl ⟨stage, List.mem_cons_self, request, h⟩

def Layer.Starts (layer : Layer) (request start : Request) : Prop :=
  ∃ captured, layer.pattern.matchPath? request.path.toList = some captured ∧
    start = { request with params := captured }

/-- A layer with the request on which its pipeline runs. -/
structure Visit where
  layer : Layer
  start : Request

def Visit.step (visit : Visit) : Step := visit.layer.pipeline.run visit.start

namespace App

/-- A request gets past layers, which do not take part or continue, and the layers that take part
are visited in order. -/
inductive Passes : List Layer → Request → List Visit → Request → Prop
  | nil (request : Request) : Passes [] request [] request
  | skip {layer : Layer} {rest : List Layer} {request final : Request} {visits : List Visit} :
      layer.pattern.matchPath? request.path.toList = none → Passes rest request visits final →
      Passes (layer :: rest) request visits final
  | visit {layer : Layer} {rest : List Layer} {request start final : Request}
      {visits : List Visit} :
      layer.Starts request start → (layer.pipeline.run start).outcome = .ok .continue →
      Passes rest (layer.pipeline.run start).request visits final →
      Passes (layer :: rest) request (⟨layer, start⟩ :: visits) final

def Decides (app : App) (visit : Visit) (response : Response) (report : List Event) : Prop :=
  let route := String.ofList visit.layer.pattern.text
  let path := visit.step.request.path
  match visit.step.outcome with
  | .ok .continue => False
  | .ok (.respond answer) => response = answer ∧ report = []
  | .error (.validation failure) =>
    response =
      ((Problem.ofValidation failure path app.devMode).arranged app.arrangement).toResponse ∧
      response.status = 400 ∧ report = [.validationFailed route path failure]
  | .error (.handler message) =>
    response = (Problem.ofHandler message path app.devMode).toResponse ∧ response.status = 500 ∧
      report = [.handlerFailed route path message]

def Falls (visits : List Visit) (final : Request) (response : Response) : Prop :=
  if visits = [] then response = (Problem.notFound final.path).toResponse ∧ response.status = 404
  else response = .json 202 (.object final.context)

variable {app : App} {layers before : List Layer} {layer : Layer} {visits : List Visit}
  {request current start final : Request}

/-- A request gets past all layers, or there is a first one that takes part and does
not continue. -/
theorem passes_or_stops (layers : List Layer) (request : Request) :
    (∃ visits final, Passes layers request visits final) ∨
    ∃ before layer after visits current start, layers = before ++ layer :: after ∧
      Passes before request visits current ∧ layer.Starts current start ∧
      (layer.pipeline.run start).outcome ≠ .ok .continue := by
  induction layers generalizing request with
  | nil => exact Or.inl ⟨[], request, .nil request⟩
  | cons layer rest ih =>
      cases hmatch : layer.pattern.matchPath? request.path.toList with
      | none =>
          rcases ih request with ⟨visits, final, hpasses⟩ |
            ⟨before, stop, after, visits, current, start, rfl, hbefore, hstarts, hstops⟩
          · exact Or.inl ⟨visits, final, .skip hmatch hpasses⟩
          · exact Or.inr ⟨layer :: before, stop, after, visits, current, start, rfl,
              .skip hmatch hbefore, hstarts, hstops⟩
      | some captured =>
          let start : Request := { request with params := captured }
          have hstart : layer.Starts request start := ⟨captured, hmatch, rfl⟩
          by_cases hcontinue : (layer.pipeline.run start).outcome = .ok .continue
          · rcases ih (layer.pipeline.run start).request with ⟨visits, final, hpasses⟩ |
              ⟨before, stop, after, visits, current, start', rfl, hbefore, hstarts, hstops⟩
            · exact Or.inl ⟨⟨layer, start⟩ :: visits, final, .visit hstart hcontinue hpasses⟩
            · exact Or.inr ⟨layer :: before, stop, after, ⟨layer, start⟩ :: visits, current, start',
                rfl, .visit hstart hcontinue hbefore, hstarts, hstops⟩
          · exact Or.inr ⟨[], layer, rest, [], request, start, rfl, .nil request, hstart, hcontinue⟩

theorem dispatchLayers_of_passes (h : Passes before request visits current) (app : App)
    (matched : Bool) (rest : List Layer) :
    app.dispatchLayers matched (before ++ rest) request =
      let next := app.dispatchLayers (matched || !visits.isEmpty) rest current
      { next with events := (visits.flatMap fun visit => visit.step.events) ++ next.events } := by
  induction h generalizing matched with
  | nil request => simp
  | skip hmatch _ ih =>
      rw [List.cons_append, dispatchLayers, hmatch]
      exact ih matched
  | @visit layer _ request start _ visits hstarts hcontinue _ ih =>
      obtain ⟨captured, hmatch, rfl⟩ := hstarts
      rw [List.cons_append, dispatchLayers, hmatch]
      simp only [hcontinue, ih true, Visit.step, List.flatMap_cons, List.append_assoc, Bool.true_or,
        List.isEmpty_cons, Bool.not_false, Bool.or_true]

/-- A layer that takes part and does not continue decides, whatever comes behind it. -/
theorem dispatchLayers_of_stops (hstarts : layer.Starts current start)
    (hstops : (layer.pipeline.run start).outcome ≠ .ok .continue) (app : App) :
    ∃ response report, app.Decides ⟨layer, start⟩ response report ∧
      ∀ layers matched rest,
        ({ app with layers } : App).dispatchLayers matched (layer :: rest) current =
        ⟨response, (layer.pipeline.run start).request,
          (layer.pipeline.run start).events ++ report⟩ := by
  obtain ⟨captured, hmatch, rfl⟩ := hstarts
  let step := layer.pipeline.run { current with params := captured }
  cases houtcome : (layer.pipeline.run { current with params := captured }).outcome with
  | ok flow =>
      cases flow with
      | «continue» => exact absurd houtcome hstops
      | respond answer =>
          refine ⟨answer, [], ?_, fun layers matched rest => ?_⟩
          · simp only [Decides, Visit.step, houtcome, and_self]
          · simp only [dispatchLayers, hmatch, houtcome, List.append_nil]
  | error e =>
      let problem := app.problemOf (String.ofList layer.pattern.text) step.request.path e
      refine ⟨problem.1.toResponse, [problem.2], ?_, fun layers matched rest => ?_⟩
      · cases e with
        | validation failure =>
            simp only [Decides, Visit.step, houtcome]
            exact ⟨rfl, rfl, rfl⟩
        | handler message =>
            simp only [Decides, Visit.step, houtcome]
            exact ⟨rfl, rfl, rfl⟩
      · simp only [dispatchLayers, hmatch, houtcome]
        rfl

theorem Passes.mem_layers (h : Passes layers request visits final) :
    ∀ visit ∈ visits, visit.layer ∈ layers := by
  induction h with
  | nil => simp
  | skip _ _ ih => exact fun visit hvisit => List.mem_cons_of_mem _ (ih visit hvisit)
  | visit _ _ _ ih =>
      intro visit hvisit
      rcases List.mem_cons.1 hvisit with rfl | hvisit
      · exact List.mem_cons_self
      · exact List.mem_cons_of_mem _ (ih visit hvisit)

/-- What a visited pipeline reports about answered requests was reported by one of its stages. -/
theorem reports_of_mem_visits {method path : String} {status : Nat}
    (hlayers : ∀ visit ∈ visits, visit.layer ∈ layers)
    (h : .requestCompleted method path status ∈ visits.flatMap fun visit => visit.step.events) :
    ∃ layer ∈ layers, ∃ stage ∈ layer.pipeline.stages,
      stage.Reports (.requestCompleted method path status) := by
  obtain ⟨visit, hvisit, hevent⟩ := List.mem_flatMap.1 h
  rcases Pipeline.mem_events_runFrom hevent with hreports | ⟨_, _, hnote⟩
  · exact ⟨visit.layer, hlayers visit hvisit, hreports⟩
  · cases hnote

theorem Decides.not_mem_report {visit : Visit} {response : Response} {report : List Event}
    (h : app.Decides visit response report) (method path : String) (status : Nat) :
    .requestCompleted method path status ∉ report := by
  unfold Decides at h
  split at h
  · exact h.elim
  · simp [h.2]
  · simp [h.2.2]
  · simp [h.2.2]

theorem dispatch_of_passes (h : Passes app.layers request visits final) :
    ∃ response, Falls visits final response ∧ app.dispatch request =
      ⟨response, final, (visits.flatMap fun visit => visit.step.events) ++
        [.requestCompleted final.method final.path response.status]⟩ := by
  have hdispatch := dispatchLayers_of_passes h app false []
  rw [List.append_nil] at hdispatch
  simp only [dispatch, hdispatch, dispatchLayers, List.append_nil, Falls]
  cases visits with
  | nil => exact ⟨_, ⟨rfl, rfl⟩, rfl⟩
  | cons visit others => exact ⟨_, rfl, rfl⟩

theorem dispatch_of_stops (hpasses : Passes before request visits current)
    (hstarts : layer.Starts current start)
    (hstops : (layer.pipeline.run start).outcome ≠ .ok .continue) (app : App) :
    let step := layer.pipeline.run start
    ∃ response report, app.Decides ⟨layer, start⟩ response report ∧
      ∀ others, ({ app with layers := before ++ layer :: others } : App).dispatch request =
        ⟨response, step.request,
          (visits.flatMap fun visit => visit.step.events) ++ step.events ++ report ++
            [.requestCompleted step.request.method step.request.path response.status]⟩ := by
  obtain ⟨response, report, hdecides, hstop⟩ := dispatchLayers_of_stops hstarts hstops app
  refine ⟨response, report, hdecides, fun others => ?_⟩
  simp only [dispatch, dispatchLayers_of_passes hpasses, hstop, List.append_assoc]

/-- Behind the layers that a request gets past, one more layer may take part. -/
theorem reports_of_mem_visits_append {after : List Layer} {method path : String} {status : Nat}
    (hpasses : Passes before request visits current)
    (h : .requestCompleted method path status ∈
      (visits.flatMap fun visit => visit.step.events) ++ (layer.pipeline.run start).events) :
    ∃ other ∈ before ++ layer :: after, ∃ stage ∈ other.pipeline.stages,
      stage.Reports (.requestCompleted method path status) := by
  have hmem : ∀ visit ∈ visits ++ [⟨layer, start⟩], visit.layer ∈ before ++ layer :: after := by
    intro visit hvisit
    rcases List.mem_append.1 hvisit with hvisit | hvisit
    · exact List.mem_append_left _ (hpasses.mem_layers visit hvisit)
    · rw [List.mem_singleton.1 hvisit]
      exact List.mem_append_right _ List.mem_cons_self
  apply reports_of_mem_visits hmem
  rw [List.flatMap_append, List.flatMap_singleton]
  exact h

end App

open App

/-- The answer to a request.  The layers are tried in the order in which they were mounted, and
those whose patterns match take part.  Either all of them continue, and the request is accepted
with its context, or not found if there were none; or the first that does not continue decides,
whatever layers come behind it.  The answer is reported once, after everything else: whatever was
reported of answered requests before was reported by a stage. -/
theorem dispatch_outcome (app : App) (request : Request) :
    let answer := app.dispatch request
    ∃ visits earlier,
      answer.events = earlier ++ [.requestCompleted answer.request.method answer.request.path
        answer.response.status] ∧
      (∀ method path status, .requestCompleted method path status ∈ earlier →
        ∃ layer ∈ app.layers, ∃ stage ∈ layer.pipeline.stages,
          stage.Reports (.requestCompleted method path status)) ∧
      ((Passes app.layers request visits answer.request ∧
        earlier = (visits.flatMap fun visit => visit.step.events) ∧
        Falls visits answer.request answer.response) ∨
      ∃ before layer after current start report,
        app.layers = before ++ layer :: after ∧ Passes before request visits current ∧
        layer.Starts current start ∧ app.Decides ⟨layer, start⟩ answer.response report ∧
        answer.request = (layer.pipeline.run start).request ∧
        earlier = (visits.flatMap fun visit => visit.step.events) ++
          (layer.pipeline.run start).events ++ report ∧
        ∀ others, ({ app with layers := before ++ layer :: others } : App).dispatch request =
          answer) := by
  intro answer
  rcases passes_or_stops app.layers request with ⟨visits, final, hpasses⟩ |
    ⟨before, layer, after, visits, current, start, hlayers, hpasses, hstarts, hstops⟩
  · obtain ⟨response, hfalls, hanswer⟩ := dispatch_of_passes hpasses
    simp only [answer, hanswer]
    exact ⟨visits, _, rfl,
      fun _ _ _ hevent => reports_of_mem_visits hpasses.mem_layers hevent,
      Or.inl ⟨hpasses, rfl, hfalls⟩⟩
  · obtain ⟨response, report, hdecides, hdispatch⟩ := dispatch_of_stops hpasses hstarts hstops app
    have hanswer := hdispatch after
    rw [← hlayers] at hanswer
    simp only [answer, hanswer]
    refine ⟨visits, _, rfl, fun method path status hevent => ?_, Or.inr ⟨before, layer, after,
      current, start, report, hlayers, hpasses, hstarts, hdecides, rfl, rfl, hdispatch⟩⟩
    rw [hlayers]
    rcases List.mem_append.1 hevent with hevent | hevent
    · exact reports_of_mem_visits_append hpasses hevent
    · exact absurd hevent (hdecides.not_mem_report method path status)

end ChannelGateway
