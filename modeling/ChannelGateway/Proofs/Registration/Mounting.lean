import ChannelGateway.Host.App
import ChannelGateway.Proofs.Lists.Related
import ChannelGateway.Proofs.Registration.Steps
import ChannelGateway.Proofs.Route.Canonical
import Mathlib.Algebra.GroupWithZero.Nat
/-!
# What a registration mounts

A registered document adds one layer to an application for each of its publish operations that
count, and reports each of these layers.  The patterns and the stage counts of the report are those
that the application lists for its layers.
-/

namespace ChannelGateway

def Document.published (document : Document) : List (Channel × Operation) :=
  document.channels.flatMap fun channel =>
    channel.publish.toList.map fun operation => (channel, operation)

theorem RouteSpec.ofDocument_eq_map (document : Document) (tag : Option String) :
    ofDocument document tag =
      (document.published.filter fun published => tag.all published.2.hasTag).map fun published =>
        ofOperation published.1 published.2 := by
  rw [ofDocument, Document.published]
  induction document.channels with
  | nil => rfl
  | cons channel rest ih =>
      rw [List.flatMap_cons, List.filter_append, List.map_append, ← ih]
      cases hpublish : channel.publish with
      | none => simp [hpublish]
      | some operation =>
          by_cases hcounts : tag.all operation.hasTag = true
          · simp [hpublish, hcounts]
          · simp [hpublish, hcounts]

def CompiledRoute.layer (route : CompiledRoute) : Layer :=
  ⟨RoutePattern.parse route.entry.pattern.toList, ⟨route.stages⟩⟩

theorem App.foldl_mount (routes : List CompiledRoute) (app : App) :
    routes.foldl (fun app route => Host.mount app route.entry.pattern route.stages) app =
      { app with layers := app.layers ++ routes.map CompiledRoute.layer } := by
  induction routes generalizing app with
  | nil => rw [List.foldl_nil, List.map_nil, List.append_nil]
  | cons route rest ih =>
      have hmount : Host.mount app route.entry.pattern route.stages =
          { app with layers := app.layers ++ [route.layer] } := rfl
      rw [List.foldl_cons, ih, hmount, List.map_cons, List.append_assoc, List.singleton_append]

namespace RouteCompiler

variable {c : RouteCompiler}

theorem compileRoutes_eq_ok_iff {specs : List RouteSpec} {routes : List CompiledRoute} :
    (c.compileRoutes specs).outcome = .ok routes ↔
      List.Forall₂ (fun spec route => (c.compileRoute spec).outcome = .ok route) specs routes := by
  induction specs generalizing routes with
  | nil =>
      rw [List.forall₂_nil_left_iff, compileRoutes, Except.ok.injEq]
      exact eq_comm
  | cons spec rest ih =>
      rw [List.forall₂_cons_left_iff, compileRoutes]
      cases houtcome : (c.compileRoute spec).outcome with
      | error e => simp
      | ok route =>
          simp only [Except.ok.injEq]
          cases hrest : (c.compileRoutes rest).outcome with
          | error e =>
              simp only [Except.map, reduceCtorEq, false_iff]
              rintro ⟨first, others, -, hothers, -⟩
              rw [ih.2 hothers] at hrest
              cases hrest
          | ok others =>
              simp only [Except.map, Except.ok.injEq]
              constructor
              · rintro rfl
                exact ⟨route, others, rfl, ih.1 hrest, rfl⟩
              · rintro ⟨first, found, rfl, hfound, rfl⟩
                have hsame := (ih.2 hfound).symm.trans hrest
                rw [Except.ok.inj hsame]

def HandlerCount (c : RouteCompiler) (operation : Operation) (status : HandlerStatus)
    (count : Nat) :
    Prop :=
  match status with
  | .resolved => ∃ stages, count = stages.length ∧
      (c.resolver.resolve (operation.operationId.getD "") operation.controller).outcome = .ok stages
  | .stubbed _ => count = 1
  | .suppressed => count = 0

/-- The layer that is mounted for a publish operation, and the entry that reports it: three checks
and the stages of the handler, under the pattern of the channel's address. -/
structure Mounts (c : RouteCompiler) (channel : Channel) (operation : Operation) (layer : Layer)
    (entry : RegisteredRoute) : Prop where
  channel_eq : entry.channel = channel.name
  operationId_eq : entry.operationId = operation.operationId
  pattern_eq : entry.pattern = String.ofList (RouteSpec.routeOfAddress channel.name.toList)
  pattern_read : layer.pattern = RoutePattern.parse entry.pattern.toList
  path_eq : entry.path = String.ofList layer.pattern.text
  stages_eq : entry.stages = layer.pipeline.length
  count : ∃ count, HandlerCount c operation entry.handler count ∧ entry.stages = 3 + count
  pipeline : ∃ compiled handlers, c.Compiles (RouteSpec.ofOperation channel operation) compiled ∧
    c.Handles (RouteSpec.ofOperation channel operation) handlers entry.handler ∧
    layer.pipeline.stages =
      checks (RouteSpec.ofOperation channel operation) compiled RequestPart.order ++ handlers

theorem Handles.count {channel : Channel} {operation : Operation} {handlers : List Stage}
    {status : HandlerStatus}
    (h : c.Handles (RouteSpec.ofOperation channel operation) handlers status) :
    HandlerCount c operation status handlers.length := by
  unfold Handles at h
  split at h
  · obtain ⟨binding, hbinding, rfl, rfl⟩ := h
    rw [bindHandler, Resolver.bind] at hbinding
    split at hbinding
    · next stages hresolved =>
        cases hbinding
        exact ⟨stages, rfl, hresolved⟩
    · split at hbinding
      · cases hbinding
        rfl
      · cases hbinding
  · obtain ⟨rfl, rfl⟩ := h
    rfl

theorem mounts_iff {channel : Channel} {operation : Operation} {layer : Layer}
    {entry : RegisteredRoute} :
    Mounts c channel operation layer entry ↔
      ∃ route, (c.compileRoute (RouteSpec.ofOperation channel operation)).outcome = .ok route ∧
        route.layer = layer ∧ route.entry = entry := by
  constructor
  · intro h
    obtain ⟨compiled, handlers, hcompiled, hhandles, hstages⟩ := h.pipeline
    refine ⟨_, compileRoute_eq_ok_iff.2
      ⟨compiled, handlers, entry.handler, hcompiled, hhandles, rfl⟩, ?_, ?_⟩
    · have hpattern := h.pattern_read
      rw [h.pattern_eq] at hpattern
      rw [CompiledRoute.layer, routeOf, ← hstages]
      exact congrArg (Layer.mk · layer.pipeline) hpattern.symm
    · have hpath := h.path_eq
      rw [h.pattern_read, RoutePattern.text_parse, h.pattern_eq] at hpath
      have hlength := h.stages_eq
      rw [Pipeline.length, hstages] at hlength
      rw [routeOf, RegisteredRoute.mk.injEq]
      exact ⟨h.pattern_eq.symm, hpath.symm, h.channel_eq.symm, h.operationId_eq.symm,
        hlength.symm, rfl⟩
  · rintro ⟨route, hroute, rfl, rfl⟩
    obtain ⟨compiled, handlers, status, hcompiled, hhandles, rfl⟩ := compileRoute_eq_ok_iff.1 hroute
    refine ⟨rfl, rfl, rfl, rfl, ?_, rfl, ⟨handlers.length, hhandles.count, ?_⟩,
      ⟨compiled, handlers, hcompiled, hhandles, rfl⟩⟩
    · rw [CompiledRoute.layer, RoutePattern.text_parse]
      rfl
    · simp only [routeOf, checks, List.length_append, List.length_map]
      rfl

/-- The routes of a document are compiled if and only if a layer and an entry can be made for each
of its publish operations that count. -/
theorem mounts_published_iff {document : Document} {mounted : List (Layer × RegisteredRoute)} :
    List.Forall₂ (fun published pair => Mounts c published.1 published.2 pair.1 pair.2)
        (document.published.filter fun published => c.options.tag.all published.2.hasTag) mounted ↔
      ∃ routes, (c.compileRoutes (RouteSpec.ofDocument document c.options.tag)).outcome =
        .ok routes ∧
        routes.map (fun route => (route.layer, route.entry)) = mounted := by
  simp only [mounts_iff, compileRoutes_eq_ok_iff, RouteSpec.ofDocument_eq_map,
    List.forall₂_map_left_iff, ← forall₂_exists_iff, Prod.ext_iff]

section Listed

variable {operations : List (Channel × Operation)} {mounted : List (Layer × RegisteredRoute)}
  (h : List.Forall₂ (fun published pair => Mounts c published.1 published.2 pair.1 pair.2)
    operations mounted)
include h

/-- An entry shows the path and the length with which its layer is listed. -/
theorem paths_of_mounts :
    ∀ pair ∈ mounted,
      (pair.2.path, pair.2.stages) =
        (String.ofList pair.1.pattern.text, pair.1.pipeline.length) := by
  induction h with
  | nil => simp
  | cons hmounts _ ih =>
      rw [List.forall_mem_cons]
      exact ⟨by rw [hmounts.path_eq, hmounts.stages_eq], ih⟩

theorem routes_of_mounts (app : App) :
    ({ app with layers := app.layers ++ mounted.map Prod.fst } : App).routes =
      app.routes ++ (mounted.map Prod.snd).map fun entry => (entry.path, entry.stages) := by
  rw [App.routes, App.routes, List.map_append, List.map_map, List.map_map]
  exact congrArg _ (List.map_congr_left fun pair hpair => (paths_of_mounts h pair hpair).symm)

theorem sum_stages_of_mounts :
    ((mounted.map Prod.snd).map (·.stages)).sum =
      (mounted.map fun pair => pair.1.pipeline.length).sum := by
  rw [List.map_map]
  exact congrArg List.sum (List.map_congr_left fun pair hpair =>
    congrArg Prod.snd (paths_of_mounts h pair hpair))

end Listed

section Register

variable {c : RouteCompiler} {document : Document}

theorem registerDocument_of_error {e : RegistrationError} (app : App)
    (h : (c.compileRoutes (RouteSpec.ofDocument document c.options.tag)).outcome = .error e) :
    (c.registerDocument app document).outcome = .error e ∧
      (c.registerDocument app document).host = app := by
  simp only [registerDocument, h, and_self]

theorem registerDocument_of_ok {routes : List CompiledRoute} (app : App)
    (h : (c.compileRoutes (RouteSpec.ofDocument document c.options.tag)).outcome = .ok routes) :
    (c.registerDocument app document).outcome =
        .ok ⟨document.title, document.apiVersion, routes.map (·.entry)⟩ ∧
      (c.registerDocument app document).host =
        { app with layers := app.layers ++ routes.map CompiledRoute.layer } := by
  simp only [registerDocument, h, App.foldl_mount, and_self]

/-- A registration reports the routes by events, behind those of the stubs. -/
theorem events_registerDocument_of_ok {routes : List CompiledRoute} (app : App)
    (h : (c.compileRoutes (RouteSpec.ofDocument document c.options.tag)).outcome = .ok routes) :
    ∃ stubs, (∀ event ∈ stubs, ∃ operationId reason, event = .stubInstalled operationId reason) ∧
      (c.registerDocument app document).trace.events =
        stubs ++ (routes.map (·.entry)).map registeredEvent := by
  let compilation := c.compileRoutes (RouteSpec.ofDocument document c.options.tag)
  refine ⟨compilation.trace.events, fun event hevent => mem_events_compileRoutes hevent, ?_⟩
  simp only [registerDocument, h, List.map_map]
  rfl

theorem exists_layers_registerDocument (c : RouteCompiler) (app : App) (document : Document) :
    ∃ layers, (c.registerDocument app document).host = { app with layers } := by
  cases houtcome : (c.compileRoutes (RouteSpec.ofDocument document c.options.tag)).outcome with
  | error e => exact ⟨_, (registerDocument_of_error app houtcome).2⟩
  | ok routes => exact ⟨_, (registerDocument_of_ok app houtcome).2⟩

end Register

end RouteCompiler

theorem Registration.stageCount_eq_sum (report : Registration) :
    report.stageCount = (report.routes.map (·.stages)).sum := by
  rw [stageCount, List.sum_eq_foldr, List.foldr_map]

open RouteCompiler

/-- What a registration mounts is what it reports.  A document is registered if and only if a layer
and an entry can be made for each of its publish operations that count.  These layers come behind
those that the application has already, in the order of the channels, and the report lists them
with the patterns and the lengths with which the application lists them.  Each of them is also
reported by an event, in the same order, and besides these there are only the events of stubs. -/
theorem registration_mounts_report (c : RouteCompiler) (app : App) (document : Document)
    (report : Registration) :
    let result := c.registerDocument app document
    result.outcome = .ok report ↔ ∃ mounted : List (Layer × RegisteredRoute),
      List.Forall₂ (fun published pair => Mounts c published.1 published.2 pair.1 pair.2)
        (document.published.filter fun published => c.options.tag.all published.2.hasTag) mounted ∧
      report = ⟨document.title, document.apiVersion, mounted.map Prod.snd⟩ ∧
      result.host = { app with layers := app.layers ++ mounted.map Prod.fst } ∧
      result.host.routes =
        app.routes ++ report.routes.map (fun entry => (entry.path, entry.stages)) ∧
      report.stageCount = (mounted.map fun pair => pair.1.pipeline.length).sum ∧
      ∃ stubs, (∀ event ∈ stubs, ∃ operationId reason, event = .stubInstalled operationId reason) ∧
        result.trace.events = stubs ++ report.routes.map fun entry =>
          .routeRegistered entry.pattern entry.channel entry.operationId entry.stages := by
  intro result
  cases houtcome : (c.compileRoutes (RouteSpec.ofDocument document c.options.tag)).outcome with
  | error e =>
      rw [(registerDocument_of_error app houtcome).1]
      constructor
      · intro h
        cases h
      · rintro ⟨mounted, hmounted, -⟩
        obtain ⟨routes, hroutes, -⟩ := mounts_published_iff.1 hmounted
        rw [houtcome] at hroutes
        cases hroutes
  | ok routes =>
      obtain ⟨hresult, hhost⟩ := registerDocument_of_ok app houtcome
      rw [hresult, Except.ok.injEq]
      constructor
      · rintro rfl
        have hmounted := mounts_published_iff.2 ⟨routes, houtcome, rfl⟩
        generalize hpairs : routes.map (fun route => (route.layer, route.entry)) =
          mounted at hmounted
        have hlayers : routes.map CompiledRoute.layer = mounted.map Prod.fst := by
          rw [← hpairs, List.map_map]
          rfl
        have hentries : routes.map (·.entry) = mounted.map Prod.snd := by
          rw [← hpairs, List.map_map]
          rfl
        rw [hlayers] at hhost
        refine ⟨mounted, hmounted, by rw [hentries], hhost, ?_, ?_,
          events_registerDocument_of_ok app houtcome⟩
        · rw [hhost, hentries, routes_of_mounts hmounted]
        · rw [Registration.stageCount_eq_sum, hentries, sum_stages_of_mounts hmounted]
      · rintro ⟨mounted, hmounted, rfl, -⟩
        obtain ⟨found, hfound, rfl⟩ := mounts_published_iff.1 hmounted
        rw [houtcome, Except.ok.injEq] at hfound
        rw [← hfound, List.map_map]
        rfl

end ChannelGateway
