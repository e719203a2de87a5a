import ChannelGateway.Proofs.Host.Lockstep
import ChannelGateway.Proofs.Pipeline.Run
import ChannelGateway.Proofs.Registration.Mounting
/-!
# Stubs

A stub stands where no handler was found.  It reports a request and continues, so an application
with stubs gives the answers that it gives without handlers: the pipelines of the two run side
by side and end alike for every request.  In development the further fields of a problem may
come in another order.
-/

namespace ChannelGateway

/-! ## Applications that answer alike -/

/-- Pipelines that end alike for every request, whatever they report. -/
def Pipeline.Alike (a b : Pipeline) : Prop :=
  ∀ request, (a.run request).outcome = (b.run request).outcome ∧
    (a.run request).request = (b.run request).request

structure Layer.Alike (a b : Layer) : Prop where
  pattern : a.pattern = b.pattern
  pipeline : a.pipeline.Alike b.pipeline

theorem Layer.Alike.agrees {a b : Layer} (h : a.Alike b) : a.Agrees Eq b := by
  refine ⟨h.pattern, fun request => ?_⟩
  obtain ⟨houtcome, hrequest⟩ := h.pipeline request
  exact ⟨OutcomesAgree.of_eq (fun _ => rfl) houtcome, hrequest⟩

/-- Answers that are the same but for the order of the further fields of a problem. -/
structure Response.SameButOrder (a b : Response) : Prop where
  status : a.status = b.status
  contentType : a.contentType = b.contentType
  allow : a.allow = b.allow
  body : a.body = b.body ∨ ∃ (p : Problem) (fields : Fields), fields.Perm p.extensions ∧
    a.body = p.toJson.compact ∧ b.body = ({ p with extensions := fields } : Problem).toJson.compact

namespace App

structure Alike (a b : App) : Prop where
  devMode : a.devMode = b.devMode
  layers : List.Forall₂ Layer.Alike a.layers b.layers

section Alike

variable {a b : App}

theorem Alike.problemOf_sameButOrder (h : a.Alike b) (route path : String) (e : PipelineError) :
    Response.SameButOrder (a.problemOf route path e).1.toResponse
      (b.problemOf route path e).1.toResponse := by
  cases e with
  | handler message =>
      rw [problemOf, problemOf, h.devMode]
      exact ⟨rfl, rfl, rfl, Or.inl rfl⟩
  | validation failure =>
      rw [problemOf, problemOf, h.devMode]
      let p := Problem.ofValidation failure path b.devMode
      have hperm : (b.arrangement.order p.extensions).Perm (a.arrangement.order p.extensions) :=
        (b.arrangement.perm _).trans (a.arrangement.perm _).symm
      exact ⟨rfl, rfl, rfl, Or.inr ⟨p.arranged a.arrangement, _, hperm, rfl, rfl⟩⟩

/-- Outside development there is nothing to arrange, and otherwise arrangements may happen to
be the same. -/
theorem Alike.problemOf_eq (h : a.Alike b)
    (harrangement : a.devMode = false ∨ a.arrangement = b.arrangement) (route path : String)
    (e : PipelineError) : (a.problemOf route path e).1 = (b.problemOf route path e).1 := by
  have hmode := h.devMode
  cases e with
  | handler message => simp only [problemOf, hmode]
  | validation failure =>
      rcases harrangement with hoff | hsame
      · rw [hoff] at hmode
        simp only [problemOf, hoff, ← hmode, Problem.arranged_ofValidation]
      · simp only [problemOf, hmode, hsame]

/-- Applications that are alike make related answers of every request, if they do of every error. -/
theorem Alike.dispatch_related {S : Response → Response → Prop} (h : a.Alike b) (hS : ∀ r, S r r)
    (hproblem : ∀ route path e,
      S (a.problemOf route path e).1.toResponse (b.problemOf route path e).1.toResponse)
    (request : Request) :
    S (a.dispatch request).response (b.dispatch request).response ∧
      (a.dispatch request).request = (b.dispatch request).request := by
  refine dispatchLayers_of_agrees hS ?_ (h.layers.imp fun _ _ => Layer.Alike.agrees) false request
  rintro route path e _ rfl
  exact hproblem route path e

theorem Alike.dispatch_sameButOrder (h : a.Alike b) (request : Request) :
    (a.dispatch request).response.SameButOrder (b.dispatch request).response ∧
      (a.dispatch request).request = (b.dispatch request).request :=
  h.dispatch_related (fun _ => ⟨rfl, rfl, rfl, Or.inl rfl⟩) h.problemOf_sameButOrder request

theorem Alike.dispatch_eq (h : a.Alike b)
    (harrangement : a.devMode = false ∨ a.arrangement = b.arrangement) (request : Request) :
    (a.dispatch request).response = (b.dispatch request).response :=
  (h.dispatch_related (fun _ => rfl)
    (fun route path e => congrArg Problem.toResponse (h.problemOf_eq harrangement route path e))
    request).1

end Alike

end App

theorem Pipeline.alike_append_stub (stages : List Stage) (operationId : String) :
    Pipeline.Alike ⟨stages ++ [Stage.stub operationId]⟩ ⟨stages⟩ := by
  intro request
  rw [run, run]
  by_cases hcontinue : (runFrom 0 stages request).outcome = .ok .continue
  · rw [runFrom_append_continue hcontinue, Step.outcome_after, Step.request_after, hcontinue]
    exact ⟨rfl, rfl⟩
  · rw [runFrom_append_of_ne hcontinue]
    exact ⟨rfl, rfl⟩

/-! ## Routes with stubs -/

namespace RouteCompiler

/-- A compiler that finds no handler for routes and installs stubs, and one that asks for none.
They have the tag and the treatment of formats in common. -/
structure Unresolved (stubbing plain : RouteCompiler) (document : Document) : Prop where
  tag : stubbing.options.tag = plain.options.tag
  formats : stubbing.formats = plain.formats
  required : stubbing.options.requireController = true
  stubs : stubbing.options.stubMiddleware = true
  suppressed : plain.options.requireController = false
  unresolved : ∀ spec ∈ RouteSpec.ofDocument document stubbing.options.tag, ∃ reason,
    (stubbing.resolver.resolve (spec.operationId.getD "") spec.controller).outcome = .error reason

/-- How the entry of a route with a stub differs from the entry of the route without a handler. -/
def ShowsStub (stubbed plain : RegisteredRoute) : Prop :=
  plain.handler = .suppressed ∧
    ∃ reason, stubbed = { plain with stages := plain.stages + 1, handler := .stubbed reason }

structure AddsStub (stubbed plain : CompiledRoute) : Prop where
  stages : ∃ operationId, stubbed.stages = plain.stages ++ [Stage.stub operationId]
  entry : ShowsStub stubbed.entry plain.entry

theorem AddsStub.alike {stubbed plain : CompiledRoute} (h : AddsStub stubbed plain) :
    stubbed.layer.Alike plain.layer := by
  obtain ⟨operationId, hstages⟩ := h.stages
  obtain ⟨-, reason, hentry⟩ := h.entry
  refine ⟨?_, ?_⟩
  · rw [CompiledRoute.layer, hentry]
    rfl
  · rw [CompiledRoute.layer, hstages]
    exact Pipeline.alike_append_stub plain.stages operationId

section Compile

variable {stubbing plain : RouteCompiler} {document : Document} {spec : RouteSpec}

theorem Unresolved.compilePart_eq (h : Unresolved stubbing plain document) (part : RequestPart) :
    stubbing.compilePart spec part = plain.compilePart spec part := by
  rw [compilePart, compilePart, h.formats]

theorem Unresolved.bindHandler_eq (h : Unresolved stubbing plain document)
    (hspec : spec ∈ RouteSpec.ofDocument document stubbing.options.tag) :
    ∃ reason, (stubbing.bindHandler spec).outcome =
      .ok (.stubbed (spec.operationId.getD "") reason) := by
  obtain ⟨reason, hreason⟩ := h.unresolved spec hspec
  have hstubs : stubbing.resolver.stubs = true := h.stubs
  refine ⟨reason, ?_⟩
  rw [bindHandler, Resolver.bind, hreason]
  simp only [hstubs, if_true]

/-- A route fails with both or with neither of the compilers, and for the same reason:
its schemas. -/
theorem Unresolved.routeError?_eq (h : Unresolved stubbing plain document)
    (hspec : spec ∈ RouteSpec.ofDocument document stubbing.options.tag) :
    stubbing.routeError? spec = plain.routeError? spec := by
  have hstep : ∀ step, stubbing.stepError? spec step = plain.stepError? spec step := by
    intro step
    cases step with
    | schema part => rw [stepError?, stepError?, h.compilePart_eq]
    | handler =>
        obtain ⟨reason, hbound⟩ := h.bindHandler_eq hspec
        rw [stepError?, stepError?, h.required, h.suppressed, hbound]
        rfl
  rw [routeError?, routeError?, funext hstep]

theorem Unresolved.compileRoute_addsStub (h : Unresolved stubbing plain document)
    (hspec : spec ∈ RouteSpec.ofDocument document stubbing.options.tag)
    {stubbed route : CompiledRoute} (hstubbed : (stubbing.compileRoute spec).outcome = .ok stubbed)
    (hroute : (plain.compileRoute spec).outcome = .ok route) : AddsStub stubbed route := by
  obtain ⟨compiled, handlers, status, hcompiled, hhandles, rfl⟩ := compileRoute_eq_ok_iff.1 hstubbed
  obtain ⟨compiled', handlers', status', hcompiled', hhandles', rfl⟩ :=
    compileRoute_eq_ok_iff.1 hroute
  have hsame : compiled = compiled' :=
    hcompiled.unique fun part => (h.compilePart_eq part).trans (hcompiled' part)
  rw [Handles, if_pos h.required] at hhandles
  rw [Handles, if_neg (by rw [h.suppressed]; decide)] at hhandles'
  obtain ⟨reason, hbound⟩ := h.bindHandler_eq hspec
  obtain ⟨binding, hbinding, rfl, rfl⟩ := hhandles
  obtain ⟨rfl, rfl⟩ := hhandles'
  rw [hbound] at hbinding
  cases hbinding
  rw [← hsame, List.append_nil]
  refine ⟨⟨spec.operationId.getD "", rfl⟩, rfl, reason.message, ?_⟩
  simp only [routeOf, List.length_append, Binding.stages, Binding.status, List.length_singleton]

/-- The routes of a document are compiled with both or with neither of the compilers, and those of
the one have stubs where those of the other have no handlers. -/
theorem Unresolved.compileRoutes (h : Unresolved stubbing plain document) :
    let specs := RouteSpec.ofDocument document stubbing.options.tag
    (∃ e, (stubbing.compileRoutes specs).outcome = .error e ∧
      (plain.compileRoutes specs).outcome = .error e) ∨
    ∃ stubbed routes, (stubbing.compileRoutes specs).outcome = .ok stubbed ∧
      (plain.compileRoutes specs).outcome = .ok routes ∧ List.Forall₂ AddsStub stubbed routes := by
  intro specs
  have hfirst : specs.findSome? stubbing.routeError? = specs.findSome? plain.routeError? := by
    rw [← List.head?_filterMap, ← List.head?_filterMap,
      List.filterMap_congr fun spec hspec => h.routeError?_eq hspec]
  cases hroutes : (plain.compileRoutes specs).outcome with
  | error e =>
      left
      refine ⟨e, compileRoutes_eq_error_iff.2 ?_, rfl⟩
      rw [hfirst, compileRoutes_eq_error_iff.1 hroutes]
  | ok routes =>
      right
      cases hstubbed : (stubbing.compileRoutes specs).outcome with
      | error e =>
          have hplain := compileRoutes_eq_error_iff.1 hstubbed
          rw [hfirst] at hplain
          rw [compileRoutes_eq_error_iff.2 hplain] at hroutes
          cases hroutes
      | ok stubbed =>
          have hspecs : List.Forall₂ (fun spec route => spec ∈ specs ∧
              (stubbing.compileRoute spec).outcome = .ok route) specs stubbed :=
            (List.forall₂_and_left _ _).2 ⟨fun _ => id, compileRoutes_eq_ok_iff.1 hstubbed⟩
          refine ⟨stubbed, routes, rfl, rfl, ?_⟩
          refine (forall₂_comp hspecs.flip (compileRoutes_eq_ok_iff.1 hroutes)).imp ?_
          rintro _ _ ⟨spec, ⟨hspec, hleft⟩, hright⟩
          exact h.compileRoute_addsStub hspec hleft hright

end Compile

/-- A document is registered with both or with neither of the compilers, and the
applications stay alike. -/
theorem Unresolved.registerDocument {stubbing plain : RouteCompiler} {document : Document}
    (h : Unresolved stubbing plain document) {app other : App} (happs : app.Alike other) :
    let stubbed := stubbing.registerDocument app document
    let unhandled := plain.registerDocument other document
    stubbed.host.Alike unhandled.host ∧
    ((∃ e, stubbed.outcome = .error e ∧ unhandled.outcome = .error e) ∨
      ∃ report bare, stubbed.outcome = .ok report ∧ unhandled.outcome = .ok bare ∧
        report.title = bare.title ∧ report.version = bare.version ∧
        List.Forall₂ ShowsStub report.routes bare.routes) := by
  intro stubbed unhandled
  rcases h.compileRoutes with ⟨e, hstubbed, hplain⟩ | ⟨routes, others, hstubbed, hplain, hroutes⟩
  · rw [h.tag] at hplain
    obtain ⟨hleft, hhost⟩ := registerDocument_of_error app hstubbed
    obtain ⟨hright, hother⟩ := registerDocument_of_error other hplain
    refine ⟨?_, Or.inl ⟨e, hleft, hright⟩⟩
    simp only [stubbed, unhandled, hhost, hother]
    exact happs
  · rw [h.tag] at hplain
    obtain ⟨hleft, hhost⟩ := registerDocument_of_ok app hstubbed
    obtain ⟨hright, hother⟩ := registerDocument_of_ok other hplain
    refine ⟨?_, Or.inr ⟨_, _, hleft, hright, rfl, rfl, ?_⟩⟩
    · simp only [stubbed, unhandled, hhost, hother]
      refine ⟨happs.devMode, List.rel_append happs.layers ?_⟩
      rw [List.forall₂_map_left_iff, List.forall₂_map_right_iff]
      exact hroutes.imp fun _ _ hroute => hroute.alike
    · rw [List.forall₂_map_left_iff, List.forall₂_map_right_iff]
      exact hroutes.imp fun _ _ hroute => hroute.entry

end RouteCompiler

open RouteCompiler

/-- Stubs are transparent.  With stubs for all of its routes a document is registered if and only
if it is registered without handlers, and otherwise it is refused for the same reason.  The reports
differ only in the number of stages and in how the routes are handled, with the reason of a stub.
The applications answer every request alike and leave the same request: status and content type are
the same, and so is the body, but for the order of the further fields of a problem, which nothing
determines in development.  Where that order happens to be the same, or outside development, the
answers are equal. -/
theorem stubs_transparent {stubbing plain : RouteCompiler} {document : Document}
    (h : Unresolved stubbing plain document) {app other : App} (happs : app.Alike other) :
    let stubbed := stubbing.registerDocument app document
    let unhandled := plain.registerDocument other document
    ((∃ report, stubbed.outcome = .ok report) ↔ ∃ report, unhandled.outcome = .ok report) ∧
    (∀ e, stubbed.outcome = .error e ↔ unhandled.outcome = .error e) ∧
    (∀ report bare, stubbed.outcome = .ok report → unhandled.outcome = .ok bare →
      report.title = bare.title ∧ report.version = bare.version ∧
        List.Forall₂ ShowsStub report.routes bare.routes) ∧
    stubbed.host.Alike unhandled.host ∧
    ∀ request,
      (stubbed.host.dispatch request).response.SameButOrder
        (unhandled.host.dispatch request).response ∧
      (stubbed.host.dispatch request).request = (unhandled.host.dispatch request).request ∧
      (app.devMode = false ∨ app.arrangement = other.arrangement →
        (stubbed.host.dispatch request).response = (unhandled.host.dispatch request).response) := by
  intro stubbed unhandled
  obtain ⟨halike, houtcomes⟩ := h.registerDocument happs
  refine ⟨?_, ?_, ?_, halike, fun request => ?_⟩
  · rcases houtcomes with ⟨e, hleft, hright⟩ | ⟨report, bare, hleft, hright, -⟩
    · simp only [stubbed, unhandled, hleft, hright, reduceCtorEq]
    · exact ⟨fun _ => ⟨_, hright⟩, fun _ => ⟨_, hleft⟩⟩
  · intro e
    rcases houtcomes with ⟨e', hleft, hright⟩ | ⟨report, bare, hleft, hright, -⟩
    · simp only [stubbed, unhandled, hleft, hright]
    · simp only [stubbed, unhandled, hleft, hright, reduceCtorEq]
  · intro report bare hreport hbare
    rcases houtcomes with ⟨e, hleft, -⟩ | ⟨report', bare', hleft, hright, hsame⟩
    · cases hleft.symm.trans hreport
    · cases hleft.symm.trans hreport
      cases hright.symm.trans hbare
      exact hsame
  · obtain ⟨hresponse, hrequest⟩ := halike.dispatch_sameButOrder request
    refine ⟨hresponse, hrequest, fun harrangement => halike.dispatch_eq ?_ request⟩
    obtain ⟨layers, hhost⟩ := exists_layers_registerDocument stubbing app document
    obtain ⟨layers', hother⟩ := exists_layers_registerDocument plain other document
    rw [hhost, hother]
    exact harrangement

/-- Two channels of which the address of one is the start of the address of the other; one
operation has no identifier, and the controller of the other is not there. -/
def lampChannels : List Channel :=
  [⟨"lamps", none, [], some ⟨none, none, [], none, Document.emptyMessage, []⟩, none⟩,
    ⟨"lamps/\x7bid\x7d", none, [⟨"id", none, .object [], none⟩],
      some ⟨some "dim", none, [], some "commands", Document.emptyMessage, []⟩, none⟩]

def lampDocument : Document := ⟨none, "2.6.0", "Lamps", "1", none, lampChannels, []⟩

/-- A request that gets to the layers of both channels is answered by two stubs as by no handlers,
however the two applications order the fields of problems. -/
theorem stubs_transparent_lamps :
    let stubbing : RouteCompiler := ⟨⟨none, "", true, true⟩, [], true⟩
    let plain : RouteCompiler := ⟨⟨none, "", false, false⟩, [], true⟩
    let app := App.empty true
    let other := { App.empty true with arrangement := .reversed }
    Unresolved stubbing plain lampDocument ∧ app.Alike other ∧
    (RouteSpec.ofDocument lampDocument none).map (·.route) = ["lamps", "lamps/:id"] ∧
    ∀ request,
      ((stubbing.registerDocument app lampDocument).host.dispatch request).response.SameButOrder
        ((plain.registerDocument other lampDocument).host.dispatch request).response := by
  intro stubbing plain app other
  have hroutes : (RouteSpec.ofDocument lampDocument none).map (·.route) =
      ["lamps", "lamps/:id"] := by
    decide +kernel
  have hunresolved : Unresolved stubbing plain lampDocument := by
    refine ⟨rfl, rfl, rfl, rfl, rfl, ?_⟩
    intro spec _
    rw [Resolver.resolve]
    split
    · exact ⟨_, rfl⟩
    · exact ⟨_, rfl⟩
  have happs : app.Alike other := ⟨rfl, .nil⟩
  obtain ⟨-, -, -, -, hanswers⟩ := stubs_transparent hunresolved happs
  exact ⟨hunresolved, happs, hroutes, fun request => (hanswers request).1⟩

end ChannelGateway
